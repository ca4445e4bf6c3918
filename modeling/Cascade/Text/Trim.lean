import Cascade.Unicode.Alphabetic

/-!
# Trimming and splitting a line

The line protocol is blank-blind at the edges: a line is trimmed before it is looked at, and the
first blank run inside it parts a key from what follows. A comment runs from the first `#` to the end
of the line, so cleaning a line is cutting at `#` and then trimming.

§1 trimming; §2 splitting at the first blank; §3 cleaning a line.
-/

namespace Cascade.Text

open Cascade.Unicode (isBlank)

/-! ## §1 Trimming -/

/-- Drops the blanks in front. -/
def trimStart (text : List Char) : List Char := text.dropWhile isBlank

/-- Drops the blanks at the end. -/
def trimEnd (text : List Char) : List Char := (text.reverse.dropWhile isBlank).reverse

/-- Drops the blanks at both ends. -/
def trim (text : List Char) : List Char := trimEnd (trimStart text)

theorem trimStart_nil : trimStart [] = [] := rfl

theorem trim_nil : trim [] = [] := rfl

/-! ## §2 Splitting at the first blank -/

/-- **The first word and what follows the blank that ends it**, or nothing if there is no blank. Only
that one blank is consumed; the rest is not trimmed. -/
def splitAtBlank (text : List Char) : Option (List Char × List Char) :=
  match text.dropWhile (fun c => !isBlank c) with
  | [] => none
  | _ :: rest => some (text.takeWhile (fun c => !isBlank c), rest)

/-! ## §3 Cleaning a line -/

/-- The character that begins a comment. -/
def commentMark : Char := '#'

/-- **The content of a line**: what stands before a comment, trimmed. -/
def clean (line : List Char) : List Char := trim (line.takeWhile (· != commentMark))

theorem clean_nil : clean [] = [] := rfl

theorem clean_comment (line : List Char) : clean (commentMark :: line) = [] := by
  simp [clean, commentMark, trim_nil]

end Cascade.Text
