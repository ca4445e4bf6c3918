import Cascade.Numeral.Binary64

/-!
# The shortest decimal digits of a double

Among all decimal numbers that read back as a given double there are some with the fewest digits;
of these the one nearest to the double is its shortest decimal. The search is exact: the double and
the two ends of the interval of numbers that round to it are fractions over one denominator, and for
one digit, two digits, … up to seventeen the two neighbours of the double on the grid of that many
digits are tested against the interval.

§1 the interval; §2 the grid; §3 the search.

Left out: the text. `Layout` decides where the point and the exponent go.
-/

namespace Cascade.Numeral

/-! ## §1 The interval of numbers that round to a double -/

/-- **A double among its neighbours**, over one denominator: `low/den … high/den` are the numbers
that round to `value/den`; the ends belong to it iff `closed`. -/
structure Interval where
  value : Nat
  low : Nat
  high : Nat
  den : Nat
  closed : Bool

/-- The interval of `m · 2^q`. Below a power of two the neighbour is only half as far away; halves
round to the even mantissa. -/
def intervalOf (m : Nat) (q : Int) : Interval :=
  let below := if m = fullMantissa ∧ -1074 < q then 1 else 2
  let up : Nat := twoTo (q - 2).toNat
  { value := 4 * m * up
    low := (4 * m - below) * up
    high := (4 * m + 2) * up
    den := twoTo (2 - q).toNat
    closed := m % 2 = 0 }

/-- Multiplies the fractions by a power of ten, upwards or downwards. -/
def Interval.scaleTen (i : Interval) (e : Int) : Interval :=
  let up : Nat := tenTo e.toNat
  { i with
    value := i.value * up
    low := i.low * up
    high := i.high * up
    den := i.den * tenTo (-e).toNat }

/-- Does the whole number lie in the interval? -/
def Interval.holds (i : Interval) (n : Nat) : Bool :=
  if i.closed then i.low ≤ n * i.den && n * i.den ≤ i.high
  else i.low < n * i.den && n * i.den < i.high

/-! ## §2 The grid -/

/-- Which of two equally near decimals is taken. -/
inductive Tie where
  | up
  | even
  deriving DecidableEq, Repr

/-- The grid point in the interval that is nearest to the value, if there is one: of the whole
numbers only the two around the value can be. -/
def Interval.nearest? (i : Interval) (tie : Tie) : Option Nat :=
  let n := i.value / i.den
  let below := i.value - n * i.den
  let above := (n + 1) * i.den - i.value
  match i.holds n, i.holds (n + 1) with
  | false, false => none
  | true, false => some n
  | false, true => some (n + 1)
  | true, true =>
    if below < above then some n
    else if above < below then some (n + 1)
    else match tie with
      | .up => some (n + 1)
      | .even => if n % 2 = 0 then some n else some (n + 1)

/-! ## §3 The search -/

/-- **A decimal number**: `digits · 10^exponent`. -/
structure Decimal where
  digits : Nat
  exponent : Int
  deriving DecidableEq, Repr

/-- A guess, never too large, of the exponent of the leading decimal digit of `m · 2^q`. -/
def leadingGuess (m : Nat) (q : Int) : Int :=
  ((m.log2 : Int) + q) * 30103 / 100000 - 1

/-- Walks the guess up to the exponent of the leading digit: the largest `e` with `10^e` not above
the value. -/
def leadingExponent (i : Interval) (e : Int) : Nat → Int
  | 0 => e
  | fuel + 1 =>
    let next := i.scaleTen (-(e + 1))
    if next.den ≤ next.value then leadingExponent i (e + 1) fuel else e

/-- Tries the grids of `count`, `count + 1`, … digits. -/
def searchDigits (i : Interval) (tie : Tie) (leading : Int) (count : Nat) : Nat → Decimal
  | 0 => ⟨i.value / i.den, 0⟩
  | fuel + 1 =>
    let e := leading + 1 - count
    match (i.scaleTen (-e)).nearest? tie with
    | some n => ⟨n, e⟩
    | none => searchDigits i tie leading (count + 1) fuel

/-- Moves the zeros at the end of the digits into the exponent. -/
def Decimal.stripZeros (d : Decimal) : Nat → Decimal
  | 0 => d
  | fuel + 1 =>
    if d.digits ≠ 0 ∧ d.digits % 10 = 0 then
      (Decimal.mk (d.digits / 10) (d.exponent + 1)).stripZeros fuel
    else d

/-- **The shortest decimal** of the positive number `m · 2^q`. -/
def shortest (tie : Tie) (m : Nat) (q : Int) : Decimal :=
  let i := intervalOf m q
  let leading := leadingExponent i (leadingGuess m q) 4
  (searchDigits i tie leading 1 18).stripZeros 20

end Cascade.Numeral
