import Cascade.Unicode.CodeSet

/-!
# Characters as bytes

In UTF-8 a character is one to four bytes. The characters of a set fall into *shapes*: sequences of
byte ranges such that every choice of one byte from each range is a character of the set, and every
character of the set is such a choice, of one shape only. The shapes come in ascending order.

§1 the shapes of a range of characters with equally many bytes; §2 the shapes of a set.
-/

namespace Cascade.Unicode

/-! ## §1 Characters with equally many bytes -/

/-- A range of bytes, both ends included. -/
structure ByteRange where
  first : Nat
  last : Nat
  deriving DecidableEq, Repr, Inhabited

/-- A byte range for each byte of a character. -/
abbrev ByteShape := List ByteRange

/-- Every byte that may stand after the first one. -/
def ByteRange.tail : ByteRange := ⟨0x80, 0xBF⟩

/-- How many characters share their first byte, if so many bytes follow it. -/
def sharing : Nat → Nat
  | 0 => 1
  | further + 1 => 64 * sharing further

/-- The shapes of the numbers `lo … hi`, written with `further` bytes after a first byte that counts
up from `start`. Numbers that share the first byte are cut at the bytes after it; between them, all
first bytes that leave the rest free are one shape. -/
def shapesFrom (start : Nat) : Nat → Nat → Nat → List ByteShape
  | 0, lo, hi => [[⟨start + lo, start + hi⟩]]
  | further + 1, lo, hi =>
    let block := sharing (further + 1)
    let under (byte a b : Nat) : List ByteShape :=
      (shapesFrom 0x80 further a b).map (⟨start + byte, start + byte⟩ :: ·)
    if lo / block = hi / block then under (lo / block) (lo % block) (hi % block)
    else
      let fullStart := lo % block = 0
      let fullEnd := hi % block = block - 1
      let front := if fullStart then [] else under (lo / block) (lo % block) (block - 1)
      let back := if fullEnd then [] else under (hi / block) 0 (hi % block)
      let first := if fullStart then lo / block else lo / block + 1
      let stop := if fullEnd then hi / block + 1 else hi / block
      let middle :=
        if first < stop then
          [⟨start + first, start + (stop - 1)⟩ :: List.replicate (further + 1) ByteRange.tail]
        else []
      front ++ middle ++ back

/-! ## §2 Shapes of a set -/

/-- The characters with one, two, three and four bytes: the first and the last of them, the bytes
after the first one, and where the first byte counts from. Surrogates have no bytes. -/
def byteLengths : List (Nat × Nat × Nat × Nat) :=
  [(0, 0x7F, 0, 0), (0x80, 0x7FF, 1, 0xC0), (0x800, 0xD7FF, 2, 0xE0), (0xE000, 0xFFFF, 2, 0xE0),
    (0x10000, 0x10FFFF, 3, 0xF0)]

/-- **The shapes of the characters of a set.** -/
def CodeSet.shapes (s : CodeSet) : List ByteShape :=
  s.ranges.toList.flatMap fun (lo, hi) =>
    byteLengths.flatMap fun (first, last, further, start) =>
      if max lo first ≤ min hi last then shapesFrom start further (max lo first) (min hi last)
      else []

/-- Is every character of the set an ASCII one? -/
def CodeSet.isAscii (s : CodeSet) : Bool := s.ranges.all fun (_, hi) => hi < 128

end Cascade.Unicode
