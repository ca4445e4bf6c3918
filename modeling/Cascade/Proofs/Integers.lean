import Cascade.Proofs.Roundtrip
import Mathlib.Data.List.Induction
import Mathlib.Data.Nat.Digits.Defs

/-!
# The readers of integers agree

Three readers take an integer from a text: that of literals in rules, that of scalars in data lines
and captures, and that of the integer at the front of a text. What an integer text is and which
integer it denotes is said here once, without any of them, and all three are held against it: they
read the integers of 64 bits and no others. A literal of a rule, be it an integer or a double, is the
scalar that its text is in a data line.

§1 integer texts; §2 their readers; §3 literals as scalars; §4 all readers together.
-/

namespace Cascade

namespace Numeral

open Unicode (isAsciiDigit isBlank)

/-! ## §1 Integer texts -/

/-- **A row of digits, at least one, and its value**: the digit that is so many places from the end
counts as often as that power of ten. -/
structure Digits (ds : List Char) (n : Nat) : Prop where
  ne_nil : ds ≠ []
  digit : ∀ c ∈ ds, isAsciiDigit c = true
  value : n = Nat.ofDigits 10 (ds.reverse.map digitValue)

/-- **An integer text and the integer that it denotes**: digits, of any number and with zeros in
front or not, behind one sign or none. -/
inductive Denotes : List Char → Int → Prop
  | plain {ds : List Char} {n : Nat} : Digits ds n → Denotes ds n
  | plus {ds : List Char} {n : Nat} : Digits ds n → Denotes ('+' :: ds) n
  | minus {ds : List Char} {n : Nat} : Digits ds n → Denotes ('-' :: ds) (-n)

/-- Is it an integer of 64 bits? -/
def Fits (n : Int) : Prop := -2 ^ 63 ≤ n ∧ n < 2 ^ 63

theorem fits_iff {n : Int} : Fits n ↔ ∃ m : Int64, m.toInt = n := by
  constructor
  · intro h
    exact ⟨Int64.ofInt n, Int64.toInt_ofInt_of_le h.1 h.2⟩
  · rintro ⟨m, rfl⟩
    exact ⟨m.le_toInt, m.toInt_lt⟩

theorem toInt64?_eq_none {n : Int} (h : ¬ Fits n) : toInt64? n = none := by
  cases hm : toInt64? n with
  | none => rfl
  | some m => exact absurd (fits_iff.mpr ⟨m, toInt64?_eq_some_iff.mp hm⟩) h

/-- Digits summed up from the front have the value of their places. -/
theorem digitsValue_eq_ofDigits (ds : List Char) :
    digitsValue ds = Nat.ofDigits 10 (ds.reverse.map digitValue) := by
  induction ds using List.reverseRecOn with
  | nil => rfl
  | append_singleton ds c ih =>
    rw [digitsValue_append_singleton, ih, List.reverse_append, List.reverse_singleton,
      List.singleton_append, List.map_cons, Nat.ofDigits_cons, Nat.add_comm]

theorem digits_toDigits (n : Nat) : Digits (Nat.toDigits 10 n) n where
  ne_nil := Nat.toDigits_ne_nil
  digit _ hc := isAsciiDigit_iff.mpr (Nat.isDigit_of_mem_toDigits (by decide) (by decide) hc)
  value := by rw [← digitsValue_eq_ofDigits, digitsValue_toDigits]

/-- Digits are neither empty nor anything but digits. -/
theorem Digits.check {ds : List Char} {n : Nat} (h : Digits ds n) :
    (ds.isEmpty || !ds.all isAsciiDigit) = false := by
  simp [h.ne_nil, List.all_eq_true.mpr h.digit]

theorem Digits.exists_cons {ds : List Char} {n : Nat} (h : Digits ds n) :
    ∃ c s, ds = c :: s ∧ isAsciiDigit c = true := by
  cases ds with
  | nil => exact absurd rfl h.ne_nil
  | cons c s => exact ⟨c, s, rfl, h.digit c List.mem_cons_self⟩

/-- **Integer texts are what is read as an integer**, of any size. -/
theorem readInt?_eq_some_iff {t : List Char} {n : Int} : readInt? t = some n ↔ Denotes t n := by
  constructor
  · intro h
    have hdigits {ds : List Char} (hcheck : ¬ (ds.isEmpty || !ds.all isAsciiDigit) = true) :
        Digits ds (digitsValue ds) := by
      simp only [Bool.or_eq_true, List.isEmpty_iff, Bool.not_eq_true', not_or,
        Bool.not_eq_false] at hcheck
      exact ⟨hcheck.1, List.all_eq_true.mp hcheck.2, digitsValue_eq_ofDigits ds⟩
    unfold readInt? splitSign at h
    split at h
    next heq =>
    split at h
    · cases h
    next hcheck =>
    cases h
    split at heq
    · cases heq
      exact .minus (hdigits hcheck)
    · cases heq
      exact .plus (hdigits hcheck)
    · cases heq
      exact .plain (hdigits hcheck)
  · intro h
    cases h with
    | plain h =>
      obtain ⟨c, s, rfl, hc⟩ := h.exists_cons
      rw [readInt?_digits h.digit, h.value, digitsValue_eq_ofDigits]
      rfl
    | plus h | minus h =>
      rw [readInt?, splitSign]
      dsimp only
      rw [h.check, h.value, digitsValue_eq_ofDigits]
      rfl

/-- **Of 64 bits is read what fits**, and nothing else. -/
theorem Denotes.readInt64? {t : List Char} {n : Int} (h : Denotes t n) :
    readInt64? t = toInt64? n := by
  rw [Numeral.readInt64?, readInt?_eq_some_iff.mpr h, Option.bind_some]

/-- There is no point in an integer text. -/
theorem Denotes.no_point {t : List Char} {n : Int} (h : Denotes t n) : t.contains '.' = false := by
  have hdigits {ds : List Char} {n : Nat} (h : Digits ds n) : '.' ∉ ds := fun hmem =>
    absurd (h.digit _ hmem) (by decide)
  rw [Bool.eq_false_iff, ne_eq, List.contains_iff_mem]
  cases h with
  | plain h => exact hdigits h
  | plus h | minus h => exact fun hmem => hdigits h (by simpa using hmem)

end Numeral

namespace Value

open Numeral
open Unicode (isAsciiDigit isBlank)

/-! ## §2 The readers of integer texts -/

/-- No digit is a sign. -/
theorem not_sign_of_isAsciiDigit {c : Char} (h : isAsciiDigit c = true) :
    (c == '-' || c == '+') = false := by
  rw [Bool.or_eq_false_iff]
  constructor
  · exact beq_eq_false_iff_ne.mpr fun heq => absurd (heq ▸ h) (by decide)
  · exact beq_eq_false_iff_ne.mpr fun heq => absurd (heq ▸ h) (by decide)

theorem looksNumeric_of_first {c : Char} {s : List Char} (hsign : (c == '-' || c == '+') = false)
    (hc : (isAsciiDigit c || c == '.') = true) :
    looksNumeric (c :: s) = true ∧ looksNumeric ('-' :: c :: s) = true ∧
      looksNumeric ('+' :: c :: s) = true := by
  simp [looksNumeric, hsign, hc]

theorem looksNumeric_of_denotes {t : List Char} {n : Int} (h : Denotes t n) :
    looksNumeric t = true := by
  have hdigits {ds : List Char} {n : Nat} (h : Digits ds n) :
      looksNumeric ds = true ∧ looksNumeric ('-' :: ds) = true ∧ looksNumeric ('+' :: ds) = true := by
    obtain ⟨c, s, rfl, hc⟩ := h.exists_cons
    exact looksNumeric_of_first (not_sign_of_isAsciiDigit hc) (by simp [hc])
  cases h with
  | plain h => exact (hdigits h).1
  | plus h => exact (hdigits h).2.2
  | minus h => exact (hdigits h).2.1

/-- The scalar of an integer text that fits is that integer. -/
theorem readScalar_of_denotes {t : List Char} {m : Int64} (h : Denotes t m.toInt) :
    readScalar t = .int m := by
  rw [readScalar, if_pos (looksNumeric_of_denotes h), h.readInt64?, toInt64?_eq_some_iff.mpr rfl]

/-- A scalar that is an integer is of an integer text. -/
theorem readInt64?_of_readScalar {t : List Char} {m : Int64} (h : readScalar t = .int m) :
    readInt64? t = some m := by
  unfold readScalar at h
  split at h
  · cases hread : readInt64? t with
    | some n =>
      rw [hread] at h
      cases h
      rfl
    | none =>
      rw [hread] at h
      dsimp only at h
      split at h <;> cases h
  · cases h

theorem readLiteral?_of_denotes {t : List Char} {n : Int} (h : Denotes t n) :
    readLiteral? t = (toInt64? n).map .int := by
  rw [readLiteral?, h.no_point, if_neg Bool.false_ne_true, h.readInt64?]

/-- **At the front of a text** an integer text is all that is read, if no digit comes behind it. -/
theorem readLeadingInt?_of_denotes {t ws r : List Char} {n : Int} (h : Denotes t n)
    (hws : ∀ c ∈ ws, isBlank c = true) (hr : ∀ c, r.head? = some c → isAsciiDigit c = false) :
    readLeadingInt? (ws ++ t ++ r) = toInt64? n := by
  have hstart {c : Char} {s : List Char} (hc : isBlank c = false) :
      Text.trimStart (ws ++ c :: s) = c :: s :=
    (Token.takeWhile_of_closed hws fun x hx => by cases hx; exact hc).2
  have hdigits {ds : List Char} {n : Nat} (h : Digits ds n) :
      (ds ++ r).takeWhile isAsciiDigit = ds := (Token.takeWhile_of_closed h.digit hr).1
  rw [← h.readInt64?, readLeadingInt?, List.append_assoc]
  cases h with
  | plain h =>
    obtain ⟨c, s, rfl, hc⟩ := h.exists_cons
    have hsign : takeSign (c :: (s ++ r)) = ([], c :: (s ++ r)) := by
      have hno := not_sign_of_isAsciiDigit hc
      unfold takeSign
      split
      · next heq => cases heq; cases hno
      · next heq => cases heq; cases hno
      · rfl
    rw [List.cons_append, hstart (Scan.isBlank_of_isAsciiDigit hc), hsign]
    dsimp only
    rw [← List.cons_append, hdigits h, List.nil_append]
  | plus h | minus h =>
    rw [List.cons_append, hstart (by decide), takeSign]
    dsimp only
    rw [hdigits h, List.singleton_append]

/-- **The written form of an integer denotes it.** -/
theorem denotes_display (m : Int64) : Denotes (display (.int m)).toList m.toInt := by
  rw [display]
  by_cases hsign : 0 ≤ m.toInt
  · rw [toList_displayInt hsign]
    have h := Denotes.plain (digits_toDigits m.toInt.toNat)
    rwa [Int.toNat_of_nonneg hsign] at h
  · have h := Denotes.minus (digits_toDigits (-m.toInt).toNat)
    rw [Int.toNat_of_nonneg (by omega), Int.neg_neg] at h
    rwa [displayInt, Int.toString_eq_repr, Int.repr_eq_if, if_neg hsign, String.toList_append,
      Nat.toList_repr]

/-! ## §3 Literals as scalars -/

/-- A decimal begins, behind its sign, with a digit or a point. -/
theorem looksNumeric_of_readDouble? {t : List Char} {x : Float} (h : readDouble? t = some x) :
    looksNumeric t = true := by
  -- what stands behind the sign begins with the digits before the point or with the point
  have hfirst {negative : Bool} {body : List Char} (hsplit : splitSign t = (negative, body)) :
      ∃ c s, body = c :: s ∧ (isAsciiDigit c || c == '.') = true := by
    rw [readDouble?, hsplit] at h
    cases body with
    | nil => cases h
    | cons c s =>
      refine ⟨c, s, rfl, ?_⟩
      by_contra hc
      have hdigit : isAsciiDigit c = false := by simp_all
      have hpoint : c ≠ '.' := by rintro rfl; exact hc rfl
      have hparts : splitPoint (c :: s) = ([], [], c :: s) := by
        unfold splitPoint
        simp [hdigit, hpoint]
      dsimp only at h
      rw [hparts] at h
      cases h
  have hno {c : Char} (hc : (isAsciiDigit c || c == '.') = true) :
      (c == '-' || c == '+') = false := by
    rcases Bool.or_eq_true_iff.mp hc with hc | hc
    · exact not_sign_of_isAsciiDigit hc
    · rw [eq_of_beq hc]
      decide
  unfold splitSign at hfirst
  split at hfirst
  · obtain ⟨c, s, rfl, hc⟩ := hfirst rfl
    exact (looksNumeric_of_first (hno hc) hc).2.1
  · obtain ⟨c, s, rfl, hc⟩ := hfirst rfl
    exact (looksNumeric_of_first (hno hc) hc).2.2
  · obtain ⟨c, s, rfl, hc⟩ := hfirst rfl
    exact (looksNumeric_of_first (hno hc) hc).1

/-- **A literal is the scalar of its text.** -/
theorem readScalar_of_readLiteral? {t : List Char} {v : Value} (h : readLiteral? t = some v) :
    readScalar t = v := by
  unfold readLiteral? at h
  split at h
  · next hpoint =>
    obtain ⟨x, hx, rfl⟩ := Option.map_eq_some_iff.mp h
    have hint : readInt64? t = none := by
      cases hread : readInt? t with
      | none => rw [readInt64?, hread, Option.bind_none]
      | some n =>
        rw [(readInt?_eq_some_iff.mp hread).no_point] at hpoint
        cases hpoint
    rw [readScalar, if_pos (looksNumeric_of_readDouble? hx), hint, hx]
  · obtain ⟨m, hm, rfl⟩ := Option.map_eq_some_iff.mp h
    obtain ⟨n, hn, hfit⟩ := Option.bind_eq_some_iff.mp hm
    have hdenotes := readInt?_eq_some_iff.mp hn
    rw [← toInt64?_eq_some_iff.mp hfit] at hdenotes
    exact readScalar_of_denotes hdenotes

/-! ## §4 All readers together -/

/-- **The readers of integers agree.** An integer text is read as the integer that it denotes, by the
reader of scalars, by that of literals and, wherever it stands between blanks and something that is no
digit, by that of leading integers, if the integer has 64 bits; otherwise the first gives no integer
and the other two give nothing. So every integer of 64 bits is read back by all three from its
written form, and every text that is a literal is a scalar of the same value. -/
theorem integer_readers_agree :
    (∀ t n ws r, Denotes t n → (∀ c ∈ ws, isBlank c = true) →
      (∀ c, r.head? = some c → isAsciiDigit c = false) →
      (Fits n → ∃ m : Int64, m.toInt = n ∧ readScalar t = .int m ∧
        readLiteral? t = some (.int m) ∧ readLeadingInt? (ws ++ t ++ r) = some m) ∧
      (¬ Fits n → (∀ m, readScalar t ≠ .int m) ∧ readLiteral? t = none ∧
        readLeadingInt? (ws ++ t ++ r) = none)) ∧
    (∀ m : Int64, Denotes (display (.int m)).toList m.toInt ∧
      readScalar (display (.int m)).toList = .int m ∧
      readLiteral? (display (.int m)).toList = some (.int m) ∧
      readLeadingInt? (display (.int m)).toList = some m) ∧
    ∀ t v, readLiteral? t = some v → readScalar t = v := by
  refine ⟨?_, ?_, fun t v => readScalar_of_readLiteral?⟩
  · intro t n ws r h hws hr
    rw [readLeadingInt?_of_denotes h hws hr, readLiteral?_of_denotes h]
    constructor
    · intro hfits
      obtain ⟨m, rfl⟩ := fits_iff.mp hfits
      rw [toInt64?_eq_some_iff.mpr rfl]
      exact ⟨m, rfl, readScalar_of_denotes h, rfl, rfl⟩
    · intro hfits
      rw [toInt64?_eq_none hfits]
      refine ⟨fun m hm => ?_, rfl, rfl⟩
      have hread := readInt64?_of_readScalar hm
      rw [h.readInt64?, toInt64?_eq_none hfits] at hread
      cases hread
  · intro m
    have h := denotes_display m
    have hlead : readLeadingInt? ([] ++ (display (.int m)).toList ++ []) = _ :=
      readLeadingInt?_of_denotes h nofun nofun
    rw [List.nil_append, List.append_nil, toInt64?_eq_some_iff.mpr rfl] at hlead
    refine ⟨h, readScalar_of_denotes h, ?_, hlead⟩
    rw [readLiteral?_of_denotes h, toInt64?_eq_some_iff.mpr rfl]
    rfl

/-- The least integer, with a zero in front, is read between a blank and a unit; the one below it is
not, and it is no integer as a scalar either. -/
theorem integer_readers_agree_at_least :
    readLeadingInt? (" ".toList ++ "-09223372036854775808".toList ++ "ms".toList) =
      some Int64.minValue ∧
    readLeadingInt? (" ".toList ++ "-9223372036854775809".toList ++ "ms".toList) = none ∧
    readScalar (display (.int Int64.minValue)).toList = .int Int64.minValue := by
  have hblank : ∀ c ∈ " ".toList, Unicode.isBlank c = true := by simp; decide
  have hunit : ∀ c, "ms".toList.head? = some c → isAsciiDigit c = false := by simp; decide
  have hleast : Denotes "-09223372036854775808".toList (-9223372036854775808) :=
    readInt?_eq_some_iff.mp rfl
  have hbelow : Denotes "-9223372036854775809".toList (-9223372036854775809) :=
    readInt?_eq_some_iff.mp rfl
  obtain ⟨m, hm, -, -, hread⟩ :=
    (integer_readers_agree.1 _ _ _ _ hleast hblank hunit).1 ⟨by decide, by decide⟩
  obtain ⟨-, -, hnone⟩ :=
    (integer_readers_agree.1 _ _ _ _ hbelow hblank hunit).2 fun h => absurd h.1 (by decide)
  refine ⟨?_, hnone, (integer_readers_agree.2.1 Int64.minValue).2.1⟩
  rw [hread, Int64.toInt_inj.mp (hm.trans (by decide : _ = Int64.minValue.toInt))]

end Value

end Cascade
