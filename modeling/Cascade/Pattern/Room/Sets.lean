import Std.Data.HashMap
import Cascade.Unicode.Utf8
import Cascade.Pattern.Room.Basic

/-!
# The room of a set of characters

A set of ASCII characters is read by one state. Any other set is read byte by byte, along the shapes
of its characters. A machine that reads forward branches at the first byte; states with the same
ranges and the same goals are written once. A machine that reads backward begins with a branch to
each shape and reads the shape from its last byte; what shapes have in common after that is written
once.

Which states are there already is looked up in a memory of limited size: a state has one place in it,
found by mixing its parts into one word, and what comes later takes the place of what was there. A
state that has been displaced is written again.

§1 the memory; §2 forward; §3 backward; §4 the room of a set.
-/

namespace Cascade.Pattern

open Unicode (ByteRange ByteShape CodeSet)

/-! ## §1 Memory -/

/-- **A machine for a set, as it is being written**: the number of the next state, the bytes of links,
and the states remembered, each with its number. -/
structure SetMachine (κ : Type) where
  next : Nat
  links : Nat
  memory : Std.HashMap Nat (κ × Nat)

/-- Mixes numbers into one word. -/
def mixed (numbers : List Nat) : UInt64 :=
  numbers.foldl (fun word n => (word ^^^ n.toUInt64) * 1099511628211) 14695981039346656037

/-- Writes a state and remembers it at a place. -/
def SetMachine.write {κ : Type} (place links : Nat) (state : κ) (m : SetMachine κ) :
    Nat × SetMachine κ :=
  (m.next, ⟨m.next + 1, m.links + links, m.memory.insert place (state, m.next)⟩)

/-- **The number of a state**, which is written unless it is remembered. -/
def SetMachine.state {κ : Type} [DecidableEq κ] (places : Nat) (numbers : List Nat) (links : Nat)
    (state : κ) : StateM (SetMachine κ) Nat := fun m =>
  let place := (mixed numbers).toNat % places
  match m.memory[place]? with
  | none => m.write place links state
  | some (other, number) => if other = state then (number, m) else m.write place links state

/-! ## §2 Forward -/

/-- **A link of a state**: a byte range and the state it leads to. -/
structure ByteLink where
  range : ByteRange
  goal : Nat
  deriving DecidableEq, Repr

/-- Places in the memory of a machine that reads forward. -/
def forwardPlaces : Nat := 10000

/-- The state at which the given shapes begin, each leading to the goal; no shape is longer than
`longest`. Shapes that begin with the same range go on together. -/
def forwardState (goal : Nat) : Nat → List ByteShape → StateM (SetMachine (List ByteLink)) Nat
  | 0, _ => pure goal
  | longest + 1, shapes => do
    let links ← (shapes.splitBy fun a b => a.head? == b.head?).mapM fun group => do
      let after := group.map List.tail
      let next ← if after.all List.isEmpty then pure goal else forwardState goal longest after
      return (⟨(group.headD []).headD default, next⟩ : ByteLink)
    SetMachine.state forwardPlaces
      (links.flatMap fun l => [l.range.first, l.range.last, l.goal]) (8 * links.length) links

/-! ## §3 Backward -/

/-- Places in the memory of a machine that reads backward. -/
def backwardPlaces : Nat := 1000

/-- The state at which a shape begins when it is read from its last byte, written from its first. -/
def backwardState (goal : Nat) (shape : ByteShape) : StateM (SetMachine ByteLink) Nat :=
  shape.foldlM (fun goal range =>
    SetMachine.state backwardPlaces [goal, range.first, range.last] 0 ⟨range, goal⟩) goal

/-! ## §4 The room of a set -/

/-- The two ways in which a machine reads a line. -/
inductive Direction where
  | forward
  | backward
  deriving DecidableEq, Repr

/-- **Writes a set of characters.** The state where it leads comes first, before it, reading backward,
the branch to the shapes. -/
def Room.set (direction : Direction) (s : CodeSet) (r : Room) : Option Room :=
  if s.isAscii then r.add 2 (8 * s.ranges.size)
  else
    match direction with
    | .forward =>
      let m := ((forwardState r.states 4 s.shapes).run ⟨r.states + 1, 0, ∅⟩).2
      r.add (m.next - r.states) m.links
    | .backward =>
      let m := ((s.shapes.forM fun shape => do
        let _ ← backwardState (r.states + 1) shape).run ⟨r.states + 2, 0, ∅⟩).2
      r.add (m.next - r.states) (4 * s.shapes.length)

end Cascade.Pattern
