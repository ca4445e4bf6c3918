/-!
# Doubles as integers times powers of two

A finite double is `± m · 2^q` with a mantissa `m < 2^53` and an exponent `q ≥ -1074`. Everything
that needs the exact value of a double (its shortest digits, its integer part, its decimal form)
starts from this reading of its bits.

§1 the parts of a double; §2 its integer part; §3 integers and powers of ten as doubles; §4 rounding
to a whole number.
-/

namespace Cascade.Numeral

/-- Two to a power. -/
def twoTo (n : Nat) : Nat := Nat.pow 2 n

/-- Ten to a power. -/
def tenTo (n : Nat) : Nat := Nat.pow 10 n

/-! ## §1 The parts of a double -/

/-- **The parts of a finite double**: its value is `± mantissa · 2^exponent`. -/
structure Parts where
  negative : Bool
  mantissa : Nat
  exponent : Int
  deriving DecidableEq, Repr

/-- The mantissa of the least normal double: from here on a mantissa has all its 53 bits. -/
def fullMantissa : Nat := twoTo 52

/-- The bits of a double as a number. -/
def bitsOf (x : Float) : Nat := x.toBits.toNat

/-- The eleven bits of the stored exponent. -/
def storedExponent (x : Float) : Nat := bitsOf x / twoTo 52 % twoTo 11

/-- Is the sign bit set? True of `-0.0` as well. -/
def isNegative (x : Float) : Bool := twoTo 63 ≤ bitsOf x

/-- Reads the parts off the bits. A stored exponent of zero marks the numbers without the leading
mantissa bit. Of infinities and of NaN the parts mean nothing. -/
def parts (x : Float) : Parts :=
  let fraction := bitsOf x % twoTo 52
  if storedExponent x = 0 then ⟨isNegative x, fraction, -1074⟩
  else ⟨isNegative x, fullMantissa + fraction, (storedExponent x : Int) - 1075⟩

/-! ## §2 The integer part -/

/-- **The integer part of a double**, as an integer; zero for infinities and NaN. -/
def integerPart (x : Float) : Int :=
  if storedExponent x = 2047 then 0
  else
    let p := parts x
    let magnitude : Nat :=
      if 0 ≤ p.exponent then p.mantissa * twoTo p.exponent.toNat
      else p.mantissa / twoTo (-p.exponent).toNat
    if p.negative then - (magnitude : Int) else magnitude

/-- **The double without its fraction**: the bits below the point are cleared, the sign is kept, so
`-0.5` gives `-0.0`. Infinities and NaN have no fraction. -/
def truncate (x : Float) : Float :=
  let e := storedExponent x
  if 1075 ≤ e then x
  else if e < 1023 then (if isNegative x then -0.0 else 0.0)
  else Float.ofBits (UInt64.ofNat (bitsOf x - bitsOf x % twoTo (1075 - e)))

/-! ## §3 Integers and powers of ten -/

/-- **The double nearest to an integer**, ties to even. -/
def ofInt64 (n : Int64) : Float := Float.ofInt n.toInt

/-- The least 64-bit integer. -/
def int64Min : Int := -(twoTo 63 : Nat)

/-- The greatest 64-bit integer. -/
def int64Max : Int := (twoTo 63 : Nat) - 1

/-- An integer as a 64-bit integer, if it is one. -/
def toInt64? (n : Int) : Option Int64 :=
  if int64Min ≤ n ∧ n ≤ int64Max then some (Int64.ofInt n) else none

/-- The 64-bit integer nearest to an integer: what lies outside is moved to the end of the range. -/
def clampInt64 (n : Int) : Int64 :=
  if n < int64Min then Int64.ofInt int64Min
  else if int64Max < n then Int64.ofInt int64Max
  else Int64.ofInt n

/-- Powers by repeated squaring in doubles: `acc · base^n` for `n < 2^fuel`. Every product rounds, so
the order of the products is part of the result. -/
def squarePower (acc base : Float) (n : Nat) : Nat → Float
  | 0 => acc
  | fuel + 1 =>
    let acc := if n % 2 = 1 then acc * base else acc
    if n / 2 = 0 then acc else squarePower acc (base * base) (n / 2) fuel

/-- **Ten to an integer power** by repeated squaring; a negative power is the reciprocal of the
positive one, taken last. -/
def tenPower (n : Int) : Float :=
  let positive := squarePower 1.0 10.0 n.natAbs 64
  if n < 0 then 1.0 / positive else positive

/-! ## §4 Rounding to a whole number -/

/-- **The nearest whole number**, a half going away from zero. -/
def roundHalfAway (x : Float) : Float :=
  let whole := truncate x
  let fraction := x - whole
  if 0.5 ≤ fraction then whole + 1.0
  else if fraction ≤ -0.5 then whole - 1.0
  else whole

end Cascade.Numeral
