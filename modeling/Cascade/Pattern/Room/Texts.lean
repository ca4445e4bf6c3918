import Cascade.Pattern.Room.Basic

/-!
# The room of a choice between texts

A choice whose branches are all texts is read along a tree: texts that begin alike share the states of
their beginning. The branches keep their order where one text begins with another, so each place of
the tree has its ways on in *rounds*; a text that ends at the place ends the round.

§1 the tree; §2 its room.
-/

namespace Cascade.Pattern

/-! ## §1 The tree -/

/-- **A place in the tree**: how many ways the closed rounds have, the last round first, and the ways
of the open round, each a byte and the place it leads to. -/
structure TextPlace where
  closed : List Nat
  ways : List (UInt8 × Nat)
  deriving Inhabited

/-- Does no way lead on from the place? -/
def TextPlace.isLast (p : TextPlace) : Bool := p.ways.isEmpty && p.closed.all (· == 0)

/-- A text ends at the place. At a place without ways on it is enough that one text does. -/
def TextPlace.close (p : TextPlace) : TextPlace :=
  if p.isLast && !p.closed.isEmpty then p else ⟨p.ways.length :: p.closed, []⟩

/-- Adds the text that goes on with these bytes from the place at `i`. -/
def addText (i : Nat) : List UInt8 → Array TextPlace → Array TextPlace
  | [], places => places.modify i TextPlace.close
  | b :: bytes, places =>
    match (places.getD i default).ways.find? (·.1 == b) with
    | some (_, next) => addText next bytes places
    | none =>
      addText places.size bytes
        ((places.modify i fun p => { p with ways := (b, places.size) :: p.ways }).push default)

/-! ## §2 Its room -/

/-- Writes a place: a branch to the rounds and, between two rounds, to the end; and for each round
that has ways a state that reads a byte, with several ranges if there are several ways. -/
def Room.place (p : TextPlace) (r : Room) : Option Room :=
  if p.isLast then some r
  else
    let rounds := p.ways.length :: p.closed
    let read := rounds.filter (0 < ·)
    r.add (1 + read.length)
      (4 * (read.length + p.closed.length) + 8 * (read.filter (1 < ·)).foldl (· + ·) 0)

/-- **Writes a choice between texts**, given by their bytes in the order in which they are read. -/
def Room.texts (texts : List (List UInt8)) (r : Room) : Option Room :=
  (texts.foldl (fun places bytes => addText 0 bytes places) #[default]).foldlM
    (fun r p => r.place p) r >>= Room.add 1 0

end Cascade.Pattern
