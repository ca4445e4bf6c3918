import Cascade.Numeral.Shortest

/-!
# The two written forms of a double

A double is shown to people without an exponent and without a superfluous point: `1`, `-0`,
`100000000000000000000`, `0.00001`. In JSON it always has a point or an exponent, and the exponent
form takes over for very large and very small numbers: `1.0`, `1e+16`, `1.5e-7`. Both forms write
the shortest digits that read back.

§1 placing the point; §2 the text for people; §3 the text in JSON.
-/

namespace Cascade.Numeral

/-! ## §1 Placing the point -/

/-- The digits of a number. -/
def digitsOf (n : Nat) : List Char := Nat.toDigits 10 n

/-- **Positional form**: all digits, and a point only where a fraction follows. -/
def Decimal.positional (d : Decimal) : List Char :=
  let ds := digitsOf d.digits
  if 0 ≤ d.exponent then ds ++ List.replicate d.exponent.toNat '0'
  else
    let places := (-d.exponent).toNat
    if places < ds.length then ds.take (ds.length - places) ++ '.' :: ds.drop (ds.length - places)
    else '0' :: '.' :: (List.replicate (places - ds.length) '0' ++ ds)

/-- The exponent of the leading digit. -/
def Decimal.leading (d : Decimal) : Int := d.exponent + (digitsOf d.digits).length - 1

/-- **Exponent form**: one digit before the point, the exponent always with its sign. -/
def Decimal.scientific (d : Decimal) : List Char :=
  let sign := if d.leading < 0 then '-' else '+'
  let exponent := 'e' :: sign :: digitsOf d.leading.natAbs
  match digitsOf d.digits with
  | [] => exponent
  | [c] => c :: exponent
  | c :: rest => c :: '.' :: (rest ++ exponent)

/-! ## §2 The text for people -/

/-- Puts the sign in front. -/
def signed (negative : Bool) (text : List Char) : List Char :=
  if negative then '-' :: text else text

/-- **A double as people read it.** -/
def displayDouble (x : Float) : String :=
  if x.isNaN then "NaN"
  else if x.isInf then (if isNegative x then "-inf" else "inf")
  else
    let p := parts x
    if p.mantissa = 0 then String.ofList (signed p.negative ['0'])
    else String.ofList (signed p.negative (shortest .up p.mantissa p.exponent).positional)

/-! ## §3 The text in JSON -/

/-- The least exponent of the leading digit that is still written positionally. -/
def leastPositional : Int := -5

/-- The least exponent of the leading digit that is written in exponent form again. -/
def leastScientific : Int := 16

/-- Puts `.0` after a whole number. -/
def withPoint (text : List Char) : List Char :=
  if text.contains '.' then text else text ++ ['.', '0']

/-- **A finite double as a JSON number**; infinities and NaN have none. -/
def jsonDouble? (x : Float) : Option String :=
  if x.isNaN || x.isInf then none
  else
    let p := parts x
    if p.mantissa = 0 then some (String.ofList (signed p.negative ['0', '.', '0']))
    else
      let d := shortest .even p.mantissa p.exponent
      let text :=
        if leastPositional ≤ d.leading ∧ d.leading < leastScientific then withPoint d.positional
        else d.scientific
      some (String.ofList (signed p.negative text))

end Cascade.Numeral
