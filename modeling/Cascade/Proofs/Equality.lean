import Cascade.Proofs.Doubles
import Cascade.Proofs.Sameness

/-!
# Equality of values

Structural sameness is symmetric and transitive, and reflexive where there is no NaN. The equality of
the language is sameness but for an integer and a double, which are equal if the integer comes to that
double. So equality is symmetric and, without NaN, reflexive. It is transitive but for one thing: a
double equals each of the integers that come to it, and from `2^53` on there are several.

§1 sameness; §2 the equality of the language; §3 the operator.
-/

namespace Cascade

/-! ## §1 Sameness -/

namespace Value

mutual

/-- **Sameness is symmetric.** -/
theorem same_comm : ∀ a b : Value, same a b = same b a
  | .int m, b => by
    cases b with
    | int n => exact BEq.comm
    | _ => rfl
  | .double x, b => by
    cases b with
    | double y => exact BEq.comm
    | _ => rfl
  | .string s, b => by
    cases b with
    | string t => exact BEq.comm
    | _ => rfl
  | .bool p, b => by
    cases b with
    | bool q => exact BEq.comm
    | _ => rfl
  | .list as, b => by
    cases b with
    | list bs => rw [same, same, sameAll_comm as bs]
    | _ => rfl

theorem sameAll_comm : ∀ as bs : List Value, sameAll as bs = sameAll bs as
  | [], [] => rfl
  | [], _ :: _ => rfl
  | _ :: _, [] => rfl
  | a :: as, b :: bs => by rw [sameAll, sameAll, same_comm a b, sameAll_comm as bs]

end

/-! Whatever is the same as a value is of its kind. -/

theorem same_int_iff {n : Int64} {v : Value} : same (.int n) v = true ↔ v = .int n := by
  cases v with
  | int m =>
    rw [same, beq_iff_eq, Value.int.injEq]
    exact eq_comm
  | _ => simp [same]

theorem same_double_iff {x : Float} {v : Value} :
    same (.double x) v = true ↔ ∃ y, v = .double y ∧ (x == y) = true := by
  cases v with
  | double y => simp [same]
  | _ => simp [same]

theorem same_string_iff {s : String} {v : Value} : same (.string s) v = true ↔ v = .string s := by
  cases v with
  | string t =>
    rw [same, beq_iff_eq, Value.string.injEq]
    exact eq_comm
  | _ => simp [same]

theorem same_bool_iff {p : Bool} {v : Value} : same (.bool p) v = true ↔ v = .bool p := by
  cases v with
  | bool q =>
    rw [same, beq_iff_eq, Value.bool.injEq]
    exact eq_comm
  | _ => simp [same]

theorem same_list_iff {as : List Value} {v : Value} :
    same (.list as) v = true ↔ ∃ bs, v = .list bs ∧ sameAll as bs = true := by
  cases v with
  | list bs => simp [same]
  | _ => simp [same]

theorem sameAll_cons_iff {a : Value} {as vs : List Value} :
    sameAll (a :: as) vs = true ↔
      ∃ b bs, vs = b :: bs ∧ same a b = true ∧ sameAll as bs = true := by
  cases vs with
  | nil => simp [sameAll]
  | cons b bs => simp [sameAll]

mutual

/-- **Sameness is transitive.** -/
theorem same_trans : ∀ {a b c : Value}, same a b = true → same b c = true → same a c = true
  | .int n, b, c, hab, hbc => by
    rw [same_int_iff.mp hab] at hbc
    exact hbc
  | .double x, b, c, hab, hbc => by
    obtain ⟨y, rfl, hxy⟩ := same_double_iff.mp hab
    obtain ⟨z, rfl, hyz⟩ := same_double_iff.mp hbc
    exact same_double_iff.mpr ⟨z, rfl, BEq.trans hxy hyz⟩
  | .string s, b, c, hab, hbc => by
    rw [same_string_iff.mp hab] at hbc
    exact hbc
  | .bool p, b, c, hab, hbc => by
    rw [same_bool_iff.mp hab] at hbc
    exact hbc
  | .list as, b, c, hab, hbc => by
    obtain ⟨bs, rfl, has⟩ := same_list_iff.mp hab
    obtain ⟨cs, rfl, hbs⟩ := same_list_iff.mp hbc
    exact same_list_iff.mpr ⟨cs, rfl, sameAll_trans has hbs⟩

theorem sameAll_trans : ∀ {as bs cs : List Value},
    sameAll as bs = true → sameAll bs cs = true → sameAll as cs = true
  | [], [], cs, _, hbc => hbc
  | a :: as, bs, cs, hab, hbc => by
    obtain ⟨b, bs, rfl, hb, hbs⟩ := sameAll_cons_iff.mp hab
    obtain ⟨c, cs, rfl, hc, hcs⟩ := sameAll_cons_iff.mp hbc
    exact sameAll_cons_iff.mpr ⟨c, cs, rfl, same_trans hb hc, sameAll_trans hbs hcs⟩

end

end Value

/-! ## §2 The equality of the language -/

namespace Operator

open Numeral (ofInt64 eq_or_large_of_beq)

/-- Where no number stands on the left, equality is sameness. -/
theorem equalValues_of_not_numeric {a : Value} (h : a.isNumeric = false) (b : Value) :
    equalValues a b = a.same b := by
  cases a with
  | int | double => cases h
  | _ => rfl

/-- What an integer equals: itself, and the double that it comes to. -/
theorem equalValues_int_iff {m : Int64} {v : Value} :
    equalValues (.int m) v = true ↔
      v = .int m ∨ ∃ x, v = .double x ∧ (ofInt64 m == x) = true := by
  cases v <;> simp [equalValues, Value.same_int_iff]

/-- What a double equals: the integers that come to it, and doubles. -/
theorem equalValues_double_iff {x : Float} {v : Value} :
    equalValues (.double x) v = true ↔
      (∃ n, v = .int n ∧ (ofInt64 n == x) = true) ∨ ∃ y, v = .double y ∧ (x == y) = true := by
  cases v <;> simp [equalValues, Value.same_double_iff]

/-- **A value equals itself** just if there is no NaN in it. -/
theorem equalValues_self (v : Value) : equalValues v v = v.nanFree := by
  rw [← Value.same_self]
  cases v <;> rfl

/-- **Equality is symmetric.** -/
theorem equalValues_comm (a b : Value) : equalValues a b = equalValues b a := by
  cases a with
  | int m =>
    cases b with
    | double y => rfl
    | _ => exact Value.same_comm _ _
  | double x =>
    cases b with
    | int n => rfl
    | _ => exact Value.same_comm _ _
  | _ => cases b <;> exact Value.same_comm _ _

/-- **Two integers are joined by a double** between them: they are different, but both come to it. Both
then lie at `2^53` or beyond. -/
def Joined : Value → Value → Value → Prop
  | .int m, .double x, .int n =>
    m ≠ n ∧ (ofInt64 m == x) = true ∧ (ofInt64 n == x) = true ∧ 2 ^ 53 ≤ m.toInt.natAbs ∧
      2 ^ 53 ≤ n.toInt.natAbs
  | _, _, _ => False

/-- Integers that a double equals are one and the same, unless it joins them. -/
theorem equalValues_or_joined {m n : Int64} {x : Float} (hm : (ofInt64 m == x) = true)
    (hn : (ofInt64 n == x) = true) :
    equalValues (.int m) (.int n) = true ∨ Joined (.int m) (.double x) (.int n) := by
  have hmn : (ofInt64 m == ofInt64 n) = true := BEq.trans hm (BEq.symm hn)
  by_cases heq : m = n
  · exact Or.inl (equalValues_int_iff.mpr (Or.inl (congrArg Value.int heq.symm)))
  · have hlarge := (eq_or_large_of_beq hmn).resolve_left heq
    exact Or.inr ⟨heq, hm, hn, hlarge⟩

/-- **Equality is transitive**, unless it joins two integers by a double. -/
theorem equalValues_trans {a b c : Value} (hab : equalValues a b = true)
    (hbc : equalValues b c = true) : equalValues a c = true ∨ Joined a b c := by
  cases a with
  | int m =>
    obtain rfl | ⟨x, rfl, hmx⟩ := equalValues_int_iff.mp hab
    · exact Or.inl hbc
    · obtain ⟨n, rfl, hnx⟩ | ⟨y, rfl, hxy⟩ := equalValues_double_iff.mp hbc
      · exact equalValues_or_joined hmx hnx
      · exact Or.inl (equalValues_int_iff.mpr (Or.inr ⟨y, rfl, BEq.trans hmx hxy⟩))
  | double x =>
    obtain ⟨n, rfl, hnx⟩ | ⟨y, rfl, hxy⟩ := equalValues_double_iff.mp hab
    · obtain rfl | ⟨y, rfl, hny⟩ := equalValues_int_iff.mp hbc
      · exact Or.inl hab
      · exact Or.inl (equalValues_double_iff.mpr (Or.inr ⟨y, rfl, BEq.trans (BEq.symm hnx) hny⟩))
    · obtain ⟨n, rfl, hny⟩ | ⟨z, rfl, hyz⟩ := equalValues_double_iff.mp hbc
      · exact Or.inl (equalValues_double_iff.mpr (Or.inl ⟨n, rfl, BEq.trans hny (BEq.symm hxy)⟩))
      · exact Or.inl (equalValues_double_iff.mpr (Or.inr ⟨z, rfl, BEq.trans hxy hyz⟩))
  | string s =>
    obtain rfl := Value.same_string_iff.mp hab
    exact Or.inl hbc
  | bool p =>
    obtain rfl := Value.same_bool_iff.mp hab
    exact Or.inl hbc
  | list as =>
    obtain ⟨bs, rfl, -⟩ := Value.same_list_iff.mp hab
    rw [equalValues_of_not_numeric rfl] at hab hbc ⊢
    exact Or.inl (Value.same_trans hab hbc)

/-- Integers that are joined are not equal. -/
theorem Joined.ne {a b c : Value} (h : Joined a b c) : equalValues a c = false := by
  unfold Joined at h
  split at h
  · next m x n =>
    show (m == n) = false
    exact beq_eq_false_iff_ne.mpr h.1
  · exact h.elim

/-! ## §3 The operator -/

/-- **An operator holds of two values**: it applies to them, and gives true. -/
def Holds (op : Operator) (l r : Value) : Prop := op.apply l r = .ok (.bool true)

instance (op : Operator) (l r : Value) : Decidable (op.Holds l r) :=
  inferInstanceAs (Decidable (op.apply l r = .ok (.bool true)))

theorem holds_equal_iff {l r : Value} : Holds .equal l r ↔ equalValues l r = true := by
  show Except.ok (Value.bool (equalValues l r)) = Except.ok (Value.bool true) ↔ _
  rw [Except.ok.injEq, Value.bool.injEq]

/-- **The laws of equality.** A value equals itself just if there is no NaN in it. Whether a value equals
another does not hang on which of them stands first. And values that equal one value equal each other,
except where they are two integers and that value is a double that both come to, which happens only at
`2^53` and beyond: those are never equal. -/
theorem equality_laws (a b c : Value) :
    (Holds .equal a a ↔ a.nanFree = true) ∧
      Operator.equal.apply a b = Operator.equal.apply b a ∧
      (Holds .equal a b → Holds .equal b c → (Holds .equal a c ↔ ¬ Joined a b c)) := by
  simp only [holds_equal_iff]
  refine ⟨?_, ?_, ?_⟩
  · rw [equalValues_self]
  · show Except.ok (Value.bool (equalValues a b)) = Except.ok (Value.bool (equalValues b a))
    rw [equalValues_comm]
  · intro hab hbc
    constructor
    · intro hac hjoined
      rw [hjoined.ne] at hac
      cases hac
    · intro hjoined
      exact (equalValues_trans hab hbc).resolve_right hjoined

/-- Lists with the two zeros in them, which are equal in both directions. -/
theorem zeros_equal_in_turn :
    Holds .equal (.list [.double (-0.0), .int 3]) (.list [.double 0.0, .int 3]) ∧
      Holds .equal (.list [.double 0.0, .int 3]) (.list [.double (-0.0), .int 3]) ∧
      Holds .equal (.list [.double (-0.0), .int 3]) (.list [.double (-0.0), .int 3]) := by
  have hab : Holds .equal (.list [.double (-0.0), .int 3]) (.list [.double 0.0, .int 3]) := by decide
  have hba : Holds .equal (.list [.double 0.0, .int 3]) (.list [.double (-0.0), .int 3]) := by decide
  exact ⟨hab, hba, ((equality_laws _ _ _).2.2 hab hba).mpr nofun⟩

/-- **Equality is not transitive**: `2^53` and its successor equal one double, but not each other, and
none of the three is NaN. -/
theorem integers_joined :
    let a : Value := .int 9007199254740992
    let b : Value := .double 9007199254740992.0
    let c : Value := .int 9007199254740993
    (a.nanFree = true ∧ b.nanFree = true ∧ c.nanFree = true) ∧
      Holds .equal a b ∧ Holds .equal b c ∧ ¬ Holds .equal a c := by
  decide +kernel

end Operator

end Cascade
