/-!
# Lines of a text

A line ends with a line feed, which is not part of it; neither is one carriage return just before the
line feed. A last line without a line feed counts, an empty one after the last line feed does not.

§1 lines of a text that is known to be well formed; §2 lines of raw bytes, where each line is decoded
by itself, so that a bad line spoils neither the lines before it nor those after it.
-/

namespace Cascade.Text

/-! ## §1 Lines of a text -/

/-- Drops one carriage return at the end. -/
def dropReturn (line : List Char) : List Char :=
  match line.reverse with
  | '\r' :: rest => rest.reverse
  | _ => line

/-- Cuts after every line feed; `acc` holds the current line, reversed, and `open` says whether it
has begun. A carriage return is dropped only in front of a line feed. -/
def cutLines (acc : List Char) (begun : Bool) : List Char → List (List Char)
  | [] => if begun then [acc.reverse] else []
  | '\n' :: rest => dropReturn acc.reverse :: cutLines [] false rest
  | c :: rest => cutLines (c :: acc) true rest

/-- **The lines of a text.** -/
def lines (text : String) : List String :=
  (cutLines [] false text.toList).map String.ofList

/-! ## §2 Lines of raw bytes -/

/-- Cuts the bytes after every line feed; as `cutLines`, without looking at carriage returns. -/
def cutBytes (acc : List UInt8) (begun : Bool) : List UInt8 → List (List UInt8 × Bool)
  | [] => if begun then [(acc.reverse, false)] else []
  | b :: rest =>
    if b == 10 then (acc.reverse, true) :: cutBytes [] false rest
    else cutBytes (b :: acc) true rest

/-- Decodes one line of bytes; a carriage return is dropped only in front of a line feed. -/
def decodeLine (bytes : List UInt8) (ended : Bool) : Option String :=
  (String.fromUTF8? ⟨bytes.toArray⟩).map fun text =>
    if ended then String.ofList (dropReturn text.toList) else text

/-- **The lines of raw bytes**, each decoded, or `none` where its bytes are no text. -/
def byteLines (bytes : ByteArray) : List (Option String) :=
  (cutBytes [] false bytes.data.toList).map fun (line, ended) => decodeLine line ended

end Cascade.Text
