import Cascade.Value.Conversion
import Mathlib

/-!
# Doubles and the integers among them

Two doubles are less, equal or greater, unless one of them is NaN. An integer becomes a double by
rounding to 53 bits. Below `2^53` nothing is lost by that; from there on several integers share a
double. So two integers that come to the same double are the same one, or both lie at `2^53` or beyond.

§1 comparing doubles; §2 storing a full mantissa; §3 rounding to a full mantissa; §4 natural numbers as
doubles; §5 integers as doubles. From §2 on a double is its sign, its mantissa and its exponent.

Not followed here: which of its two neighbours an integer is rounded to, and doubles whose mantissa is
not full.
-/

namespace Cascade.Numeral

open Float.Model (Format UnpackedFloat totalExponent)
open Float.Model.Format (binary64)
open Float.Model.UnpackedFloat (Sign ExtendedMantissa pack unpack packComponents
  unpackSign_packComponents unpackExponent_packComponents unpackMantissa_packComponents
  roundWithAccuracy shiftToTargetExponent decreaseExponent)

/-! ## §1 Comparing doubles -/

theorem swap_compare_sign (s t : Sign) : (compare s t).swap = compare t s := by
  cases s with
  | negative => cases t <;> rfl
  | positive => cases t <;> rfl

/-- Comparing two numbers the other way round. -/
theorem swap_compare (x y : UnpackedFloat) : (x.compare y).map Ordering.swap = y.compare x := by
  fun_cases UnpackedFloat.compare x y with
  | case1 => cases y <;> rfl
  | _ => simp_all [UnpackedFloat.compare, swap_compare_sign, Ordering.swap_then, Int.compare_swap,
      Nat.compare_swap]

/-- **Two numbers do not compare** just if one of them is NaN. -/
theorem compare_eq_none_iff (x y : UnpackedFloat) :
    x.compare y = none ↔ x.isNaN = true ∨ y.isNaN = true := by
  fun_cases UnpackedFloat.compare x y <;> simp_all [UnpackedFloat.isNaN]

theorem lt_iff_compare (x y : Float) : x < y ↔ x.toModel.compare y.toModel = some .lt := by
  show decide ((x.toModel.compare y.toModel == some .lt) = true) = true ↔ _
  rw [decide_eq_true_eq, beq_iff_eq]

/-- The order of two doubles is how they compare; those that do not compare count as equal. -/
theorem compareDoubles_eq (x y : Float) :
    Value.compareDoubles x y = (x.toModel.compare y.toModel).getD .eq := by
  have hswap : (x.toModel.compare y.toModel).map Ordering.swap = y.toModel.compare x.toModel :=
    swap_compare _ _
  unfold Value.compareDoubles
  simp only [lt_iff_compare, ← hswap]
  rcases x.toModel.compare y.toModel with _ | _ | _ | _ <;> rfl

/-- The order of two doubles the other way round. -/
theorem swap_compareDoubles (x y : Float) :
    (Value.compareDoubles x y).swap = Value.compareDoubles y x := by
  have hswap : (x.toModel.compare y.toModel).map Ordering.swap = y.toModel.compare x.toModel :=
    swap_compare _ _
  rw [compareDoubles_eq, compareDoubles_eq, ← hswap]
  cases x.toModel.compare y.toModel <;> rfl

/-- **Two doubles are equal** just if neither comes before the other and neither is NaN. -/
theorem beq_eq_compareDoubles (x y : Float) :
    (x == y) = (Value.compareDoubles x y == .eq && !(x.isNaN || y.isNaN)) := by
  have hnone : x.toModel.compare y.toModel = none ↔ x.isNaN = true ∨ y.isNaN = true :=
    compare_eq_none_iff _ _
  show (x.toModel.compare y.toModel == some .eq) = _
  rw [compareDoubles_eq]
  cases hcompare : x.toModel.compare y.toModel with
  | none =>
    rw [(Bool.or_eq_true _ _).mpr (hnone.mp hcompare)]
    rfl
  | some o =>
    have hnan : (x.isNaN || y.isNaN) = false := by
      rw [Bool.eq_false_iff, ne_eq, Bool.or_eq_true, ← hnone, hcompare]
      exact Option.some_ne_none o
    rw [hnan]
    cases o <;> rfl

/-! ## §2 Storing a full mantissa -/

/-- **A mantissa is full** if it has all its 53 bits. -/
def Full (m : Nat) : Prop := 2 ^ 52 ≤ m ∧ m < 2 ^ 53

variable {m : Nat} {e : Int} {s : Sign}

theorem Full.pos (h : Full m) : 0 < m := Nat.lt_of_lt_of_le (by decide) h.1

theorem Full.log2 (h : Full m) : m.log2 = 52 := (Nat.log2_eq_iff h.pos.ne').mpr h

theorem exponentBias_binary64 : binary64.exponentBias = 1023 := rfl

/-- A number with a full mantissa is stored as its sign, its exponent and its mantissa without the
leading bit. -/
theorem pack_full (h : Full m) {stored : Nat} (hstored : stored < 2047) :
    pack binary64 (.finite s m (stored - 1075) h.pos) =
      packComponents binary64 s (BitVec.ofNat _ stored) (BitVec.ofNat _ m) := by
  have hbiased : ((stored : Int) - 1075 + (1023 : Nat) + (52 : Nat)).toNat = stored := by omega
  unfold pack
  simp only [exponentBias_binary64, hbiased, h.log2]
  rw [if_neg (by omega), if_pos (by rfl)]

/-- **A number with a full mantissa is read back from its bits**, if its exponent can be stored. -/
theorem unpack_pack (h : Full m) (hlow : -1074 ≤ e) (hhigh : e ≤ 971) :
    unpack binary64 (pack binary64 (.finite s m e h.pos)) = .finite s m e h.pos := by
  obtain ⟨stored, rfl⟩ : ∃ stored : Nat, e = (stored : Int) - 1075 :=
    ⟨(e + 1075).toNat, by omega⟩
  have hexponent : (BitVec.ofNat 11 stored).toNat = stored := by
    rw [BitVec.toNat_ofNat]
    omega
  have hmantissa : (1#1 ++ BitVec.ofNat 52 m).toNat = m := by
    have hlow := h.1
    have hhigh := h.2
    rw [BitVec.toNat_append, ← Nat.shiftLeft_add_eq_or_of_lt (BitVec.isLt _), BitVec.toNat_ofNat,
      Nat.shiftLeft_eq, BitVec.toNat_ofNat]
    omega
  have hones : BitVec.ofNat 11 stored ≠ -1#11 := by
    intro heq
    have hmax : stored = 2047 := hexponent.symm.trans (congrArg BitVec.toNat heq)
    omega
  have hzeros : BitVec.ofNat 11 stored ≠ 0#11 := by
    intro heq
    have hmin : stored = 0 := hexponent.symm.trans (congrArg BitVec.toNat heq)
    omega
  rw [pack_full h (by omega)]
  unfold unpack
  simp only [unpackExponent_packComponents, unpackMantissa_packComponents,
    unpackSign_packComponents, Sign.ofBitVec_toBitVec, hexponent, hmantissa, exponentBias_binary64,
    if_neg hones, if_neg hzeros]
  congr 1

/-! ## §3 Rounding to a full mantissa -/

theorem mantissa_repeat (em : ExtendedMantissa) (n : Nat) :
    (n.repeat ExtendedMantissa.shiftRightOne em).mantissa = em.mantissa / 2 ^ n := by
  induction n with
  | zero => simp [Nat.repeat]
  | succ n ih =>
    show (n.repeat ExtendedMantissa.shiftRightOne em).mantissa / 2 = _
    rw [ih, Nat.div_div_eq_div_mul, pow_succ]

/-- Zeros that are shifted out leave no trace. -/
theorem repeat_exact (m n : Nat) :
    n.repeat ExtendedMantissa.shiftRightOne ⟨m * 2 ^ n, false, false⟩ = ⟨m, false, false⟩ := by
  induction n generalizing m with
  | zero => simp [Nat.repeat]
  | succ n ih =>
    have hdouble : m * 2 ^ (n + 1) = (2 * m) * 2 ^ n := by ring
    rw [hdouble, Nat.repeat, ih]
    simp [ExtendedMantissa.shiftRightOne]

/-- Rounding takes a mantissa or the one above it. -/
theorem roundedMantissa_cases (em : ExtendedMantissa) :
    em.roundedMantissa = em.mantissa ∨ em.roundedMantissa = em.mantissa + 1 := by
  obtain ⟨m, round, sticky⟩ := em
  cases round with
  | false => cases sticky <;> exact Or.inl rfl
  | true =>
    cases sticky with
    | true => exact Or.inr rfl
    | false =>
      show m + m % 2 = m ∨ m + m % 2 = m + 1
      omega

/-- A number with `j` bits too many is shifted by `j` bits. -/
theorem shift_eq {n j : Nat} (hlow : 2 ^ (52 + j) ≤ n) (hhigh : n < 2 ^ (53 + j))
    (he : -1074 ≤ e + j) :
    shiftToTargetExponent binary64 n e .exact =
      (j.repeat ExtendedMantissa.shiftRightOne ⟨n, false, false⟩, e + j) := by
  have hpos : n ≠ 0 := (Nat.lt_of_lt_of_le (Nat.two_pow_pos _) hlow).ne'
  have hlog : n.log2 = 52 + j := by
    rw [Nat.log2_eq_iff hpos]
    exact ⟨hlow, by rwa [show 52 + j + 1 = 53 + j by omega]⟩
  have htarget : binary64.targetExponent (totalExponent n e) = e + j := by
    simp only [Format.targetExponent, totalExponent, Format.mantissaBits, Format.minExponent, hlog]
    push_cast
    omega
  have hshift : (e + j - e).toNat = j := by omega
  simp only [shiftToTargetExponent, UnpackedFloat.shiftToExponent, htarget, hshift]
  rfl

/-- A full mantissa is not shifted. -/
theorem shift_full (h : Full m) (he : -1074 ≤ e) :
    shiftToTargetExponent binary64 m e .exact = (⟨m, false, false⟩, e) := by
  rw [shift_eq (j := 0) h.1 h.2 (by omega)]
  simp [Nat.repeat]

/-- **Rounding is exact** where only zeros are shifted out. -/
theorem round_exact (h : Full m) {j : Nat} {d : Int} (hd : d + j = e) (he : -1074 ≤ e) :
    roundWithAccuracy binary64 s (m * 2 ^ j) d .exact = .finite s m e h.pos := by
  have hlow : 2 ^ (52 + j) ≤ m * 2 ^ j := by
    rw [pow_add]
    exact Nat.mul_le_mul_right _ h.1
  have hhigh : m * 2 ^ j < 2 ^ (53 + j) := by
    rw [pow_add]
    exact Nat.mul_lt_mul_of_pos_right h.2 (Nat.two_pow_pos j)
  have hround : (⟨m, false, false⟩ : ExtendedMantissa).roundedMantissa = m := rfl
  unfold roundWithAccuracy
  simp only [shift_eq hlow hhigh (hd ▸ he), repeat_exact, hd, hround, shift_full h he, h.pos.ne',
    ↓reduceDIte]

/-- **Rounding gives a full mantissa.** The exponent grows by the number of bits that are shifted out,
and by one more where rounding up has reached the next power of two. -/
theorem round_full {n j : Nat} (hlow : 2 ^ (52 + j) ≤ n) (hhigh : n < 2 ^ (53 + j))
    (he : -1074 ≤ e + j) :
    ∃ (m : Nat) (h : Full m) (d : Int), (d = e + j ∨ d = e + j + 1) ∧
      roundWithAccuracy binary64 s n e .exact = .finite s m d h.pos := by
  obtain ⟨r, hr⟩ : ∃ r,
      r = (j.repeat ExtendedMantissa.shiftRightOne ⟨n, false, false⟩).roundedMantissa := ⟨_, rfl⟩
  have hquotient : Full (n / 2 ^ j) := by
    constructor
    · rw [Nat.le_div_iff_mul_le (Nat.two_pow_pos j), ← pow_add]
      exact hlow
    · rw [Nat.div_lt_iff_lt_mul (Nat.two_pow_pos j), ← pow_add]
      exact hhigh
  have hcases : r = n / 2 ^ j ∨ r = n / 2 ^ j + 1 := by
    have hrounded := roundedMantissa_cases
      (j.repeat ExtendedMantissa.shiftRightOne ⟨n, false, false⟩)
    rwa [mantissa_repeat, ← hr] at hrounded
  have hbelow := hquotient.1
  have habove := hquotient.2
  unfold roundWithAccuracy
  simp only [shift_eq hlow hhigh he, ← hr]
  by_cases hcarry : r = 2 ^ 53
  · -- one more bit is shifted out, and that is a zero
    have hhalf : Full (2 ^ 52) := ⟨le_rfl, by decide⟩
    have hshift : shiftToTargetExponent binary64 r (e + j) .exact =
        (⟨2 ^ 52, false, false⟩, e + j + 1) := by
      rw [hcarry, shift_eq (j := 1) (by decide) (by decide) (by omega)]
      rfl
    refine ⟨2 ^ 52, hhalf, e + j + 1, Or.inr rfl, ?_⟩
    simp only [hshift]
    rfl
  · have hfull : Full r := by
      unfold Full
      omega
    refine ⟨r, hfull, e + j, Or.inl rfl, ?_⟩
    simp only [shift_full hfull he, hfull.pos.ne', ↓reduceDIte]

/-! ## §4 Natural numbers as doubles -/

/-- **What an integer comes to as a double.** One below `2^53` keeps its value: its bits are moved up
until the mantissa is full, and the exponent counts them. From `2^53` on bits may be lost, and the
exponent is positive. -/
inductive Widens : Int → UnpackedFloat → Prop
  | zero : Widens 0 (.zero .positive)
  | exact (s : Sign) {k q : Nat} (h : Full (k * 2 ^ q)) :
    Widens (s.apply k) (.finite s (k * 2 ^ q) (-q) h.pos)
  | rounded (s : Sign) {k m q : Nat} (hk : 2 ^ 53 ≤ k) (h : Full m) (hq : 0 < q) (hhigh : q ≤ 971) :
    Widens (s.apply k) (.finite s m q h.pos)

/-- A number below `2^53` has a full mantissa once its bits are moved up. -/
theorem exists_full {k : Nat} (hk : 0 < k) (hsmall : k < 2 ^ 53) :
    ∃ q, k.log2 + q = 52 ∧ Full (k * 2 ^ q) := by
  have hlog : k.log2 < 53 := (Nat.log2_lt hk.ne').mpr hsmall
  obtain ⟨hlow, hhigh⟩ := (Nat.log2_eq_iff hk.ne').mp rfl
  refine ⟨52 - k.log2, by omega, ?_, ?_⟩
  · calc 2 ^ 52 = 2 ^ k.log2 * 2 ^ (52 - k.log2) := by rw [← pow_add]; congr 1; omega
      _ ≤ k * 2 ^ (52 - k.log2) := Nat.mul_le_mul_right _ hlow
  · calc k * 2 ^ (52 - k.log2) < 2 ^ (k.log2 + 1) * 2 ^ (52 - k.log2) :=
          Nat.mul_lt_mul_of_pos_right hhigh (Nat.two_pow_pos _)
      _ = 2 ^ 53 := by rw [← pow_add]; congr 1; omega

theorem normalize_exact {k q : Nat} (hlog : k.log2 + q = 52) (h : Full (k * 2 ^ q)) :
    UnpackedFloat.normalize binary64 k 0 .positive = .finite .positive (k * 2 ^ q) (-q) h.pos := by
  have hk : 0 < k := Nat.pos_of_mul_pos_right h.pos
  have hpositive : compare (k : Int) 0 = .gt := Int.compare_eq_gt.mpr (by omega)
  have htarget : binary64.targetExponent (totalExponent k 0) = -q := by
    simp only [Format.targetExponent, totalExponent, Format.mantissaBits, Format.minExponent]
    omega
  have hshift : (0 - -(q : Int)).toNat = q := by omega
  have hexponent : (0 : Int) - q = -q := by omega
  have hround : roundWithAccuracy binary64 .positive (k * 2 ^ q) (-q) .exact =
      .finite .positive (k * 2 ^ q) (-q) h.pos := by
    have hzero := round_exact (s := .positive) h (j := 0) (d := -q) (e := -q) (by omega) (by omega)
    rwa [pow_zero, mul_one] at hzero
  unfold UnpackedFloat.normalize
  rw [hpositive]
  simp only [UnpackedFloat.round, htarget, decreaseExponent, hshift, hexponent, Nat.shiftLeft_eq,
    Int.toNat_natCast, hround]

theorem unpack_one : (Float.exactlyRepresentablePowersOfTen[0]).toModel.unpack =
    .finite .positive (2 ^ 52) (-52) (by decide) := rfl

/-- A number below `2^53` is a word first, and that is multiplied by one. -/
theorem widens_ofNat_small {k : Nat} (hk : 0 < k) (hsmall : k < 2 ^ 53) :
    Widens k (Float.ofNat k).toModel.unpack := by
  obtain ⟨q, hlog, h⟩ := exists_full hk hsmall
  have hword : k.toUInt64.toFloat.toModel.unpack = .finite .positive (k * 2 ^ q) (-q) h.pos := by
    have hk64 : k.toUInt64.toNat = k := by
      show k % 2 ^ 64 = k
      omega
    have hnormal : UnpackedFloat.ofUInt64 binary64 k.toUInt64 =
        .finite .positive (k * 2 ^ q) (-q) h.pos := by
      unfold UnpackedFloat.ofUInt64 UnpackedFloat.ofNat UnpackedFloat.ofInt
      rw [hk64, normalize_exact hlog h]
    show unpack binary64 (pack binary64 (UnpackedFloat.ofUInt64 binary64 k.toUInt64)) = _
    rw [hnormal, unpack_pack h (by omega) (by omega)]
  have hfloat : Float.ofNat k = k.toUInt64.toFloat * Float.exactlyRepresentablePowersOfTen[0] := by
    show (if h : k < 2 ^ 53 ∧ 0 ≤ 22 then _ else _) = _
    rw [dif_pos ⟨hsmall, by omega⟩]
    rfl
  rw [hfloat]
  show Widens k (unpack binary64 (pack binary64 (UnpackedFloat.mul binary64
    k.toUInt64.toFloat.toModel.unpack (Float.exactlyRepresentablePowersOfTen[0]).toModel.unpack)))
  rw [hword, unpack_one]
  show Widens k (unpack binary64 (pack binary64
    (roundWithAccuracy binary64 .positive (k * 2 ^ q * 2 ^ 52) (-q + -52) .exact)))
  rw [round_exact h (e := -q) (by omega) (by omega), unpack_pack h (by omega) (by omega)]
  exact .exact .positive h

/-- A number from `2^53` on is rounded from 53 bits more than it has. -/
theorem widens_ofNat_large {k : Nat} (hlarge : 2 ^ 53 ≤ k) (hbound : k < 2 ^ 64) :
    Widens k (Float.ofNat k).toModel.unpack := by
  have hk : k ≠ 0 := by omega
  obtain ⟨hlow, hhigh⟩ := (Nat.log2_eq_iff hk).mp rfl
  have hlog : 53 ≤ k.log2 := (Nat.le_log2 hk).mpr hlarge
  have hlog' : k.log2 < 64 := (Nat.log2_lt hk).mpr hbound
  have hfloat : Float.ofNat k = .ofModel (Float.Model.ofScientific k 0) := by
    show (if h : k < 2 ^ 53 ∧ 0 ≤ 22 then _ else _) = _
    rw [dif_neg (by omega)]
    rfl
  have hscaled : UnpackedFloat.ofScientific binary64 k 0 =
      roundWithAccuracy binary64 .positive (k * 2 ^ 53) (-53) .exact := by
    have hpower : (0 : Int) ≤ 2 ^ binary64.exponentBits := by positivity
    unfold UnpackedFloat.ofScientific
    rw [dif_neg hk, if_neg (by decide), if_neg (by omega), if_pos le_rfl]
    show roundWithAccuracy binary64 .positive (k <<< 53 * 1) (-53 + 0) .exact = _
    rw [Nat.shiftLeft_eq, mul_one, add_zero]
  have hbelow : 2 ^ (52 + (k.log2 + 1)) ≤ k * 2 ^ 53 := by
    calc 2 ^ (52 + (k.log2 + 1)) = 2 ^ k.log2 * 2 ^ 53 := by rw [← pow_add]; congr 1; omega
      _ ≤ k * 2 ^ 53 := Nat.mul_le_mul_right _ hlow
  have habove : k * 2 ^ 53 < 2 ^ (53 + (k.log2 + 1)) := by
    calc k * 2 ^ 53 < 2 ^ (k.log2 + 1) * 2 ^ 53 :=
          Nat.mul_lt_mul_of_pos_right hhigh (Nat.two_pow_pos _)
      _ = 2 ^ (53 + (k.log2 + 1)) := by rw [← pow_add]; congr 1; omega
  obtain ⟨m, h, d, hd, hround⟩ :=
    round_full (s := .positive) (e := -53) hbelow habove (by omega)
  obtain ⟨q, rfl⟩ : ∃ q : Nat, d = q := ⟨d.toNat, by omega⟩
  rw [hfloat]
  show Widens k (unpack binary64 (pack binary64 (UnpackedFloat.ofScientific binary64 k 0)))
  rw [hscaled, hround, unpack_pack h (by omega) (by omega)]
  exact .rounded .positive hlarge h (by omega) (by omega)

theorem widens_ofNat {k : Nat} (hbound : k < 2 ^ 64) :
    Widens k (Float.ofNat k).toModel.unpack := by
  rcases Nat.eq_zero_or_pos k with rfl | hk
  · have hzero : (Float.ofNat 0).toModel.unpack = .zero .positive := rfl
    rw [hzero]
    exact .zero
  · by_cases hsmall : k < 2 ^ 53
    · exact widens_ofNat_small hk hsmall
    · exact widens_ofNat_large (by omega) hbound

/-! ## §5 Integers as doubles -/

/-- The opposite of an integer comes to the opposite number. -/
theorem Widens.neg {n : Int} {x : UnpackedFloat} (hx : Widens n x) (hn : 0 < n) :
    Widens (-n) (unpack binary64 (pack binary64 x.neg)) := by
  have hsign (s : Sign) (k : Nat) : -s.apply k = (-s).apply k := by
    cases s with
    | negative => exact Int.neg_neg _
    | positive => rfl
  cases hx with
  | zero => omega
  | @exact s k q h =>
    have hq : q < 53 := by
      by_contra hq
      have hk : 0 < k := Nat.pos_of_mul_pos_right h.pos
      have hlarge := Nat.mul_le_mul hk (Nat.pow_le_pow_right (n := 2) (by decide) (Nat.not_lt.mp hq))
      have hsmall := h.2
      omega
    show Widens _ (unpack binary64 (pack binary64 (.finite (-s) _ _ h.pos)))
    rw [unpack_pack h (by omega) (by omega), hsign]
    exact .exact (-s) h
  | @rounded s k m q hk h hq hhigh =>
    show Widens _ (unpack binary64 (pack binary64 (.finite (-s) _ _ h.pos)))
    rw [unpack_pack h (by omega) (by omega), hsign]
    exact .rounded (-s) hk h hq hhigh

theorem widens_ofInt64 (n : Int64) : Widens n.toInt (ofInt64 n).toModel.unpack := by
  have hlow := n.le_toInt
  have hhigh := n.toInt_lt
  unfold ofInt64
  generalize n.toInt = z at hlow hhigh
  cases z with
  | ofNat k =>
    have hk : (k : Int) < 2 ^ 63 := hhigh
    exact widens_ofNat (by omega)
  | negSucc k =>
    have hk : Widens ((k + 1 : Nat) : Int) (Float.ofNat (k + 1)).toModel.unpack :=
      widens_ofNat (by omega)
    exact hk.neg (by omega)

theorem Widens.isNaN {z : Int} {x : UnpackedFloat} (h : Widens z x) : x.isNaN = false := by
  cases h <;> rfl

/-- **An integer is never NaN as a double.** -/
theorem isNaN_ofInt64 (n : Int64) : (ofInt64 n).isNaN = false := (widens_ofInt64 n).isNaN

theorem natAbs_apply (s : Sign) (k : Nat) : (s.apply k).natAbs = k := by
  cases s with
  | negative => exact (Int.natAbs_neg _).trans (Int.natAbs_natCast k)
  | positive => exact Int.natAbs_natCast k

/-- Integers that come to the same number are the same, or both lie where bits may be lost: the exponent
tells which of the two it is. -/
theorem Widens.eq_or_large {a b : Int} {x y : UnpackedFloat} (ha : Widens a x) (hb : Widens b y)
    (hxy : x = y) : a = b ∨ 2 ^ 53 ≤ a.natAbs ∧ 2 ^ 53 ≤ b.natAbs := by
  cases ha with
  | zero =>
    cases hb with
    | zero => exact Or.inl rfl
    | exact | rounded => cases hxy
  | @exact s k q h =>
    cases hb with
    | zero => cases hxy
    | @exact t l r h' =>
      rw [UnpackedFloat.finite.injEq] at hxy
      obtain ⟨rfl, hm, he⟩ := hxy
      obtain rfl : q = r := by omega
      rw [Nat.eq_of_mul_eq_mul_right (Nat.two_pow_pos q) hm]
      exact Or.inl rfl
    | @rounded t l m r hl h' hr =>
      rw [UnpackedFloat.finite.injEq] at hxy
      omega
  | @rounded s k m q hk h hq =>
    cases hb with
    | zero => cases hxy
    | @exact t l r h' =>
      rw [UnpackedFloat.finite.injEq] at hxy
      omega
    | @rounded t l m r hl h' hr =>
      rw [natAbs_apply, natAbs_apply]
      exact Or.inr ⟨hk, hl⟩

/-- **Integers that are equal as doubles** are the same, or both lie at `2^53` or beyond. -/
theorem eq_or_large_of_beq {a b : Int64} (h : (ofInt64 a == ofInt64 b) = true) :
    a = b ∨ 2 ^ 53 ≤ a.toInt.natAbs ∧ 2 ^ 53 ≤ b.toInt.natAbs := by
  have ha := widens_ofInt64 a
  have hb := widens_ofInt64 b
  obtain ⟨-, -, hsame | ⟨-, hzero⟩ | ⟨hzero, -⟩⟩ :=
    (UnpackedFloat.beq_iff_ne_notANumber_and_eq _ _).mp h
  · rcases ha.eq_or_large hb hsame with heq | hlarge
    · exact Or.inl (Int64.toInt_inj.mp heq)
    · exact Or.inr hlarge
  -- the negative zero is no integer
  · rw [hzero] at hb
    generalize b.toInt = z at hb
    cases hb
  · rw [hzero] at ha
    generalize a.toInt = z at ha
    cases ha

/-- The bound cannot be lowered: `2^53` and its successor come to the same double. -/
example : (ofInt64 9007199254740992 == ofInt64 9007199254740993) = true := by decide +kernel

end Cascade.Numeral
