/-!
# Sets of code points

A set of code points is a list of disjoint, ascending ranges `lo … hi`, both ends included. The tables
of character properties and the bracketed classes of trigger patterns are all such sets, so the set
algebra is written once, here. Surrogates are no characters: the ends of a gap are never among them.

§1 the type and membership; §2 the normal form of a list of ranges; §3 the set algebra; §4 the
written form used by the tables, `41-5A 61-7A AA`.

Left out: nothing here knows what a property means; the tables live in their own modules.
-/

namespace Cascade.Unicode

/-! ## §1 The type -/

/-- **A set of code points**, as ascending ranges with both ends included. -/
structure CodeSet where
  ranges : Array (Nat × Nat)
  deriving Inhabited, DecidableEq, Repr

namespace CodeSet

/-- The largest code point. -/
def top : Nat := 0x10FFFF

/-- Halving search: does some range among the positions `lo … hi - 1` hold `c`? The fuel bounds the
number of halvings; as many as there are bits in the number of ranges suffice. -/
def search (ranges : Array (Nat × Nat)) (c : Nat) : Nat → Nat → Nat → Bool
  | 0, _, _ => false
  | fuel + 1, lo, hi =>
    if lo < hi then
      let mid := (lo + hi) / 2
      match ranges[mid]? with
      | none => false
      | some (first, last) =>
        if c < first then search ranges c fuel lo mid
        else if last < c then search ranges c fuel (mid + 1) hi
        else true
    else false

/-- Membership of a code point. -/
def contains (s : CodeSet) (c : Nat) : Bool :=
  search s.ranges c (s.ranges.size.log2 + 2) 0 s.ranges.size

/-- The set without members. -/
def empty : CodeSet := ⟨#[]⟩

/-- Every code point. -/
def all : CodeSet := ⟨#[(0, top)]⟩

/-- The set of one range. -/
def range (lo hi : Nat) : CodeSet := ⟨#[(lo, hi)]⟩

/-- The set of one code point. -/
def single (c : Nat) : CodeSet := range c c

/-! ## §2 Normal form -/

/-- Joins ranges, ascending by their start, that overlap or touch; `lo … hi` is the range being
grown. -/
def joinFrom (lo hi : Nat) : List (Nat × Nat) → List (Nat × Nat)
  | [] => [(lo, hi)]
  | (first, last) :: rest =>
    if first ≤ hi + 1 then joinFrom lo (max hi last) rest
    else (lo, hi) :: joinFrom first last rest

/-- The set of the code points in any of the given ranges, whatever their order. -/
def ofRanges (ranges : List (Nat × Nat)) : CodeSet :=
  match ranges.mergeSort (fun a b => a.1 ≤ b.1) with
  | [] => empty
  | (lo, hi) :: rest => ⟨(joinFrom lo hi rest).toArray⟩

/-! ## §3 Set algebra -/

/-- Union. -/
def union (s t : CodeSet) : CodeSet := ofRanges (s.ranges.toList ++ t.ranges.toList)

/-- The code point after another one; surrogates are stepped over. -/
def following (c : Nat) : Nat := if c = 0xD7FF then 0xE000 else c + 1

/-- The code point before another one; surrogates are stepped over. -/
def preceding (c : Nat) : Nat := if c = 0xE000 then 0xD7FF else c - 1

/-- The gaps behind ascending ranges. A gap reaches from the code point after one range to the code
point before the next. Where only the surrogates part two ranges these two stand in the reverse
order, and the gap still reaches from the lower one to the higher one. -/
def gaps : List (Nat × Nat) → List (Nat × Nat)
  | [] => []
  | [(_, last)] => if last < top then [(following last, top)] else []
  | (_, last) :: (first, next) :: rest =>
    let lo := following last
    let hi := preceding first
    (min lo hi, max lo hi) :: gaps ((first, next) :: rest)

/-- **Complement**: the gap in front of the ranges and those behind them. -/
def compl (s : CodeSet) : CodeSet :=
  match s.ranges.toList with
  | [] => all
  | (first, last) :: rest =>
    ⟨((if 0 < first then [(0, preceding first)] else []) ++ gaps ((first, last) :: rest)).toArray⟩

/-- What two lists of ascending ranges have in common. -/
def common : List (Nat × Nat) → List (Nat × Nat) → List (Nat × Nat)
  | [], _ => []
  | _, [] => []
  | (a, b) :: xs, (c, d) :: ys =>
    let rest := if b < d then common xs ((c, d) :: ys) else common ((a, b) :: xs) ys
    if max a c ≤ min b d then (max a c, min b d) :: rest else rest
  termination_by xs ys => xs.length + ys.length

/-- Intersection. -/
def inter (s t : CodeSet) : CodeSet := ⟨(common s.ranges.toList t.ranges.toList).toArray⟩

/-- What ascending ranges leave of the range `lo … hi`. -/
def remaining (lo hi : Nat) : List (Nat × Nat) → List (Nat × Nat)
  | [] => [(lo, hi)]
  | (first, last) :: rest =>
    if last < lo then remaining lo hi rest
    else if hi < first then [(lo, hi)]
    else
      (if lo < first then [(lo, preceding first)] else []) ++
        if last < hi then remaining (following last) hi rest else []

/-- What the ranges of a second list leave of those of a first one, both ascending. -/
def without : List (Nat × Nat) → List (Nat × Nat) → List (Nat × Nat)
  | [], _ => []
  | (lo, hi) :: rest, taken =>
    let taken := taken.dropWhile (·.2 < lo)
    remaining lo hi taken ++ without rest taken

/-- The points of the first set that are not in the second. -/
def diff (s t : CodeSet) : CodeSet := ⟨(without s.ranges.toList t.ranges.toList).toArray⟩

/-- The points that are in exactly one of the two sets. -/
def symmDiff (s t : CodeSet) : CodeSet := (s.union t).diff (s.inter t)

/-- Union of a list of sets. -/
def unions (sets : List CodeSet) : CodeSet :=
  ofRanges (sets.flatMap fun s => s.ranges.toList)

/-! ## §4 The written form of the tables -/

/-- Value of a hexadecimal digit in capitals. -/
def hexValue? (c : Char) : Option Nat :=
  if '0' ≤ c ∧ c ≤ '9' then some (c.toNat - '0'.toNat)
  else if 'A' ≤ c ∧ c ≤ 'F' then some (c.toNat - 'A'.toNat + 10)
  else none

/-- Reads a hexadecimal number off the front of a text; the rest is what follows its digits. -/
def readHex (acc : Nat) : List Char → Nat × List Char
  | [] => (acc, [])
  | c :: rest =>
    match hexValue? c with
    | some d => readHex (16 * acc + d) rest
    | none => (acc, c :: rest)

/-- Reads one entry `LO` or `LO-HI`. -/
def readRange (text : List Char) : Nat × Nat :=
  match readHex 0 text with
  | (lo, '-' :: rest) => (lo, (readHex 0 rest).1)
  | (lo, _) => (lo, lo)

/-- The entries of a table: its rows one after the other, each with one space between entries. -/
def tableEntries (rows : List String) : List String := rows.flatMap (·.splitOn " ")

/-- Reads a table: entries `LO` or `LO-HI` in hexadecimal, in any order. -/
def ofTable (rows : List String) : CodeSet :=
  ofRanges ((tableEntries rows).map fun entry => readRange entry.toList)

end CodeSet

end Cascade.Unicode
