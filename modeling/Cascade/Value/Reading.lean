import Cascade.Value
import Cascade.Numeral.Reading
import Cascade.Text.Trim

/-!
# Reading values

Three readers of text: of a number literal in a rule, of a scalar in a data line or a capture, and
of the integer at the front of a text.

§1 the literal; §2 the scalar; §3 the leading integer.
-/

namespace Cascade.Value

open Cascade.Unicode (isAsciiDigit)

/-! ## §1 Literals -/

/-- **A number literal**: with a point it is a double, without one an integer. -/
def readLiteral? (text : List Char) : Option Value :=
  if text.contains '.' then (Numeral.readDouble? text).map .double
  else (Numeral.readInt64? text).map .int

/-! ## §2 Scalars -/

/-- Does a text look like a number: a digit or a point after any run of signs? -/
def looksNumeric (text : List Char) : Bool :=
  match text.dropWhile (fun c => c == '-' || c == '+') with
  | [] => false
  | c :: _ => isAsciiDigit c || c == '.'

/-- **A scalar**: an integer if it reads as one, else a double if it reads as one, else the text
itself. -/
def readScalar (text : List Char) : Value :=
  if looksNumeric text then
    match Numeral.readInt64? text with
    | some n => .int n
    | none =>
      match Numeral.readDouble? text with
      | some x => .double x
      | none => .string (String.ofList text)
  else .string (String.ofList text)

/-! ## §3 The leading integer -/

/-- The sign at the front of a text, if there is one, and what follows it. -/
def takeSign : List Char → List Char × List Char
  | '-' :: rest => (['-'], rest)
  | '+' :: rest => (['+'], rest)
  | text => ([], text)

/-- **The integer at the front of a text**, after blanks: an optional sign and the digits after it.
What follows them does not matter. -/
def readLeadingInt? (text : List Char) : Option Int64 :=
  match takeSign (Text.trimStart text) with
  | (sign, rest) => Numeral.readInt64? (sign ++ rest.takeWhile isAsciiDigit)

end Cascade.Value
