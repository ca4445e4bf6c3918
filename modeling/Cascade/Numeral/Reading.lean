import Cascade.Numeral.Binary64
import Cascade.Unicode.Alphabetic

/-!
# Reading numbers

An integer text is an optional sign and one digit or more; its value must fit in 64 bits. A decimal
text is an optional sign, digits with at most one point among or around them, and an optional
exponent; it denotes the nearest double, infinity if it is too large.

§1 digits; §2 integers; §3 decimals.
-/

namespace Cascade.Numeral

open Cascade.Unicode (isAsciiDigit)

/-! ## §1 Digits -/

/-- Value of a digit. -/
def digitValue (c : Char) : Nat := c.toNat - '0'.toNat

/-- **The value of a run of digits**, most significant first. -/
def digitsValue (ds : List Char) : Nat := ds.foldl (fun n c => 10 * n + digitValue c) 0

theorem digitsValue_nil : digitsValue [] = 0 := rfl

/-- The value of digits grows by one place per digit appended. -/
theorem digitsValue_append_singleton (ds : List Char) (c : Char) :
    digitsValue (ds ++ [c]) = 10 * digitsValue ds + digitValue c := by
  simp [digitsValue, List.foldl_append]

/-- Splits off an optional sign; true stands for minus. -/
def splitSign : List Char → Bool × List Char
  | '-' :: rest => (true, rest)
  | '+' :: rest => (false, rest)
  | text => (false, text)

/-! ## §2 Integers -/

/-- The exact value of an integer text of any length. -/
def readInt? (text : List Char) : Option Int :=
  match splitSign text with
  | (negative, ds) =>
    if ds.isEmpty || !ds.all isAsciiDigit then none
    else some (if negative then - (digitsValue ds : Int) else digitsValue ds)

/-- **Reads an integer of 64 bits.** -/
def readInt64? (text : List Char) : Option Int64 := (readInt? text).bind toInt64?

/-! ## §3 Decimals -/

/-- Reads the exponent of a decimal, what follows its `e`. -/
def readExponent? (text : List Char) : Option Int := readInt? text

/-- The digits before the point, those after it, and what follows the number. Without a point there
are none after it. -/
def splitPoint (text : List Char) : List Char × List Char × List Char :=
  let whole := text.takeWhile isAsciiDigit
  match text.dropWhile isAsciiDigit with
  | '.' :: rest => (whole, rest.takeWhile isAsciiDigit, rest.dropWhile isAsciiDigit)
  | rest => (whole, [], rest)

/-- The double nearest to `digits · 10^exponent`. Numbers far outside the range of doubles are
decided by their leading digit, without computing the power. -/
def nearestDouble (digits : Nat) (exponent : Int) : Float :=
  let places : Int := (Nat.toDigits 10 digits).length
  if digits = 0 then 0.0
  else if 400 < places + exponent then 1.0 / 0.0
  else if places + exponent < -400 then 0.0
  else if 0 ≤ exponent then Float.ofScientific digits false exponent.toNat
  else Float.ofScientific digits true (-exponent).toNat

/-- **Reads a decimal** as the nearest double. -/
def readDouble? (text : List Char) : Option Float :=
  match splitSign text with
  | (negative, body) =>
    match splitPoint body with
    | (whole, fraction, rest) =>
      if whole.isEmpty && fraction.isEmpty then none
      else
        let exponent? : Option Int :=
          match rest with
          | [] => some 0
          | c :: e => if c == 'e' || c == 'E' then readExponent? e else none
        exponent?.map fun exponent =>
          let x := nearestDouble (digitsValue (whole ++ fraction)) (exponent - fraction.length)
          if negative then -x else x

end Cascade.Numeral
