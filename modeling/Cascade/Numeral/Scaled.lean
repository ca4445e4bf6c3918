import Cascade.Numeral.Binary64

/-!
# Scaled decimals

Sums, products and quotients of an integer and a double are computed in decimal, so that `0.1 + 2`
is `2.1`. A scaled decimal is `± digits / 10^scale` with at most 96 bits of digits and at most 28
places. An operation whose exact result does not fit gives up places, rounding the last one kept to
nearest, ties to even; one whose integer part does not fit has no result.

§1 the type and the fitting of a result; §2 from an integer and from a double; §3 sum, difference
and product; §4 quotient; §5 back to a double.
-/

namespace Cascade.Numeral

/-! ## §1 The type -/

/-- **A scaled decimal**: `± digits / 10^scale`. -/
structure Scaled where
  negative : Bool
  digits : Nat
  scale : Nat
  deriving DecidableEq, Repr

namespace Scaled

/-- The digits must stay below this bound. -/
def bound : Nat := twoTo 96

/-- The most places after the point. -/
def maxScale : Nat := 28

/-- The decimal zero. -/
def zero : Scaled := ⟨false, 0, 0⟩

/-- Quotient of `n` by `d`, rounded to nearest, ties to even. -/
def roundQuotient (n d : Nat) : Nat :=
  let q := n / d
  let twice := 2 * (n % d)
  if d < twice ∨ (twice = d ∧ q % 2 = 1) then q + 1 else q

/-- **A rounded quotient is within half a unit of the exact one.** -/
theorem roundQuotient_near {n d : Nat} (hd : 0 < d) :
    2 * n ≤ 2 * (d * roundQuotient n d) + d ∧ 2 * (d * roundQuotient n d) ≤ 2 * n + d := by
  have hn := Nat.div_add_mod n d
  have hr := Nat.mod_lt n hd
  simp only [roundQuotient]
  split
  · rw [Nat.mul_succ]; omega
  · omega

/-- Gives up `drop`, `drop + 1`, … places of an oversized result, as few as make the digits fit.
Rounding may itself reach the bound, and then one more place goes, from the rounded digits. -/
def giveUpPlaces (negative : Bool) (digits scale drop : Nat) : Nat → Option Scaled
  | 0 => none
  | fuel + 1 =>
    if scale < drop then none
    else if bound ≤ digits / tenTo drop then
      giveUpPlaces negative digits scale (drop + 1) fuel
    else
      let rounded := roundQuotient digits (tenTo drop)
      if rounded < bound then some ⟨negative, rounded, scale - drop⟩
      else if scale = drop then none
      else some ⟨negative, roundQuotient rounded 10, scale - drop - 1⟩

/-- **Fits an exact result** into the digits there are. -/
def fit (negative : Bool) (digits scale : Nat) : Option Scaled :=
  if digits < bound then some ⟨negative, digits, scale⟩
  else giveUpPlaces negative digits scale 1 (scale + 1)

/-! ## §2 From an integer and from a double -/

/-- An integer is its own digits. -/
def ofInt64 (n : Int64) : Scaled := ⟨n.toInt < 0, n.toInt.natAbs, 0⟩

/-- Turns factors of one half into places: `digits / 2^halves / 10^places` keeps its value while halves
are traded for places, until the digits would outgrow the bound; from then on each trade drops the
last bit. Every half needs a place of its own unless the digits are even. -/
def tradeHalves (digits places : Nat) : Nat → Nat × Nat
  | 0 => (digits, places)
  | halves + 1 =>
    if digits % 2 = 0 then tradeHalves (digits / 2) (places - 1) halves
    else if digits * 5 < bound then tradeHalves (digits * 5) places halves
    else tradeHalves (digits / 2) (places - 1) halves

/-- The digits and places of `mantissa · 2^exponent`, before places are given up. -/
def expand (mantissa : Nat) (exponent : Int) : Nat × Nat :=
  if exponent < 0 then tradeHalves mantissa (-exponent).toNat (-exponent).toNat
  else (mantissa * twoTo exponent.toNat, 0)

/-- Gives up one place, a half going up. -/
def dropPlace (digits : Nat) : Nat :=
  if 5 ≤ digits % 10 then digits / 10 + 1 else digits / 10

/-- Gives up places beyond the most there are; digits that vanish leave zero without places. -/
def dropPlaces (digits places : Nat) : Nat → Nat × Nat
  | 0 => (digits, places)
  | excess + 1 =>
    if digits / 10 = 0 then (0, 0) else dropPlaces (dropPlace digits) (places - 1) excess

/-- The digits of a double stay below this bound, which is about as much as a double holds. -/
def doubleBound : Nat := twoTo 52

/-- Gives up places until the digits are no more than a double holds. -/
def dropToDouble (digits : Nat) : Nat → Nat × Nat
  | 0 => (digits, 0)
  | places + 1 =>
    if doubleBound ≤ digits then dropToDouble (dropPlace digits) places else (digits, places + 1)

/-- Drops zeros at the end together with their places. -/
def stripZeros (digits : Nat) : Nat → Nat × Nat
  | 0 => (digits, 0)
  | places + 1 => if digits % 10 = 0 then stripZeros (digits / 10) places else (digits, places + 1)

/-- Gives up the places that are too many or mean nothing. -/
def trimPlaces (negative : Bool) (expanded : Nat × Nat) : Scaled :=
  let (digits, places) := dropPlaces expanded.1 expanded.2 (expanded.2 - maxScale)
  let (digits, places) := dropToDouble digits places
  let (digits, places) := stripZeros digits places
  ⟨negative, digits, places⟩

/-- **A double as a decimal**, if it is finite and not too large. -/
def ofDouble? (x : Float) : Option Scaled :=
  if x.isNaN || x.isInf then none
  else
    let p := parts x
    if p.mantissa = 0 then some ⟨p.negative, 0, 0⟩
    else
      let expanded := expand p.mantissa p.exponent
      if bound ≤ expanded.1 then none else some (trimPlaces p.negative expanded)

/-! ## §3 Sum, difference and product -/

/-- The digits with their sign, over `10^scale` for a scale no less than their own. -/
def numerator (a : Scaled) (scale : Nat) : Int :=
  let n : Int := (a.digits * tenTo (scale - a.scale) : Nat)
  if a.negative then -n else n

/-- The decimal with the opposite sign, zero excepted. -/
def negate (a : Scaled) : Scaled := if a.digits = 0 then a else ⟨!a.negative, a.digits, a.scale⟩

/-- **Sum.** A zero operand leaves the other as it is; a zero sum has the sign of the first. -/
def add? (a b : Scaled) : Option Scaled :=
  if a.digits = 0 then some b
  else if b.digits = 0 then some a
  else
    let scale := max a.scale b.scale
    let n := a.numerator scale + b.numerator scale
    fit (if n = 0 then a.negative else n < 0) n.natAbs scale

/-- **Difference**: the sum with the opposite. -/
def sub? (a b : Scaled) : Option Scaled := a.add? b.negate

/-- **Product.** -/
def mul? (a b : Scaled) : Option Scaled :=
  if a.digits = 0 ∨ b.digits = 0 then some zero
  else fit (a.negative != b.negative) (a.digits * b.digits) (a.scale + b.scale)

/-! ## §4 Quotient -/

/-- **A long division under way**: the quotient so far, what remains over the divisor, the scale of
the quotient, which may still be negative, and whether places were added. -/
structure Division where
  quotient : Nat
  remainder : Nat
  scale : Int
  extended : Bool

/-- How many places the quotient can take in one step: as many as fit, at most nine, and not beyond
the most places there are. -/
def roomFor (quotient : Nat) (limit : Nat) : Nat :=
  ((List.range limit).takeWhile fun k => quotient * tenTo (k + 1) < bound).length

/-- Rounds a finished quotient by what remains, ties to even. A quotient that rounds up to the bound
gives up a place, and there must be one. -/
def roundLast (divisor : Nat) (d : Division) : Option Division :=
  let twice := 2 * d.remainder
  if divisor < twice ∨ (twice = divisor ∧ d.quotient % 2 = 1) then
    if d.quotient + 1 < bound then some { d with quotient := d.quotient + 1 }
    else if d.scale < 1 then none
    else some { d with quotient := roundQuotient (d.quotient + 1) 10, scale := d.scale - 1 }
  else some d

/-- Gives up the place that took the quotient over the bound; what remains breaks a tie upwards. -/
def giveUpLast (d : Division) : Option Division :=
  if d.scale < 1 then none
  else
    let q := d.quotient / 10
    let r := d.quotient % 10
    let up := 5 < r ∨ (r = 5 ∧ (d.remainder ≠ 0 ∨ q % 2 = 1))
    some { d with quotient := if up then q + 1 else q, scale := d.scale - 1 }

/-- Long division, several places at a step, until nothing remains, or no place is left, or the
digits are used up. -/
def divideOn (divisor : Nat) (d : Division) : Nat → Option Division
  | 0 => none
  | fuel + 1 =>
    if d.remainder = 0 ∧ 0 ≤ d.scale then some d
    else
      let exact := d.remainder = 0
      let places := if exact then min 9 (-d.scale).toNat
        else roomFor d.quotient (min 9 ((maxScale : Int) - d.scale).toNat)
      let d := { d with extended := d.extended || !exact }
      if ¬ exact ∧ places < 9 ∧ (places : Int) + d.scale < 0 then none
      else if ¬ exact ∧ places = 0 then roundLast divisor d
      else
        let raised := d.quotient * tenTo places
        if bound ≤ raised then none
        else
          let carried := d.remainder * tenTo places
          let d := { d with
            quotient := raised + carried / divisor
            remainder := carried % divisor
            scale := d.scale + places }
          if bound ≤ d.quotient then giveUpLast d else divideOn divisor d fuel

/-- Drops eight zeros at once while the last 32 bits are all clear. -/
def stripEights (digits scale : Nat) : Nat → Nat × Nat
  | 0 => (digits, scale)
  | fuel + 1 =>
    if digits % twoTo 32 = 0 ∧ 8 ≤ scale ∧ digits % tenTo 8 = 0 then
      stripEights (digits / tenTo 8) (scale - 8) fuel
    else (digits, scale)

/-- Drops `count` zeros at once, if there are that many. -/
def stripOnce (count : Nat) (d : Nat × Nat) : Nat × Nat :=
  if count ≤ d.2 ∧ d.1 % tenTo count = 0 then (d.1 / tenTo count, d.2 - count) else d

/-- Drops zeros that the steps of a division left at the end: four, two, one, after any eights. -/
def stripSteps (digits scale : Nat) : Nat × Nat :=
  stripOnce 1 (stripOnce 2 (stripOnce 4 (stripEights digits scale 4)))

/-- **Quotient**; none by zero. -/
def div? (a b : Scaled) : Option Scaled :=
  if b.digits = 0 then none
  else if a.digits = 0 then some zero
  else
    let start : Division :=
      ⟨a.digits / b.digits, a.digits % b.digits, (a.scale : Int) - b.scale, false⟩
    (divideOn b.digits start 64).map fun d =>
      let (digits, scale) :=
        if d.extended then stripSteps d.quotient d.scale.toNat else (d.quotient, d.scale.toNat)
      ⟨a.negative != b.negative, digits, scale⟩

/-! ## §5 Back to a double -/

/-- **The double of a decimal.** A whole number is rounded once. Otherwise the integer part and the
fraction are rounded each, added, and the sum is cleaned of what the addition smeared below the last
place. -/
def toDouble (a : Scaled) : Float :=
  if a.scale = 0 then
    let x := Float.ofNat a.digits
    if a.negative ∧ a.digits ≠ 0 then -x else x
  else
    let unit := tenTo a.scale
    let whole := Float.ofNat (a.digits / unit)
    let fraction := Float.ofNat (a.digits % unit) / Float.ofNat unit
    let x :=
      if fraction == 0.0 then whole
      else
        let places := tenPower a.scale
        roundHalfAway ((whole + fraction) * places) / places
    if a.negative then -x else x

end Scaled

end Cascade.Numeral
