import Cascade.Proofs.Purity
import Cascade.Proofs.Remembering
import Cascade.Proofs.Roundtrip
import Mathlib.Algebra.Field.Rat

/-!
# Integer arithmetic is exact or leaves the integers

A tree of integers, names and the four operations has an exact rational value, unless it divides by
zero. As long as the exact value of every tree in it is an integer of 64 bits, it comes to that integer.
Where one is not, the result is a double or a division by zero, and it stays so: an operation with a
double among its operands gives a double, so no integer is ever the result of rounding.

§1 exact values; §2 operators on integers and doubles; §3 results of subtrees; §4 trees.
-/

namespace Cascade

/-! ## §1 Exact values -/

namespace Operator

/-- Is the operator one of the four operations? -/
def isArithmetic : Operator → Bool
  | add | subtract | multiply | divide => true
  | _ => false

/-- **The exact result** of one of the four operations; nothing is divided by zero. -/
def exactValue? : Operator → ℚ → ℚ → Option ℚ
  | add, a, b => some (a + b)
  | subtract, a, b => some (a - b)
  | multiply, a, b => some (a * b)
  | divide, a, b => if b = 0 then none else some (a / b)
  | _, _, _ => none

end Operator

namespace Expr

/-- **A tree of integers, names and the four operations**, the minus sign included. -/
inductive IsArithmetic : Expr → Prop where
  | int (n : Int64) : IsArithmetic (const (.int n))
  | var (name : String) : IsArithmetic (var name)
  | binary {op : Operator} {left right : Expr} (hop : op.isArithmetic = true) :
    IsArithmetic left → IsArithmetic right → IsArithmetic (binary op left right)
  | negate {inner : Expr} : IsArithmetic inner → IsArithmetic (negate inner)

theorem IsArithmetic.isPure {x : Expr} (h : x.IsArithmetic) : x.isPure = true := by
  induction h with
  | int | var => rfl
  | binary _ _ _ ihl ihr => rw [Expr.isPure, ihl, ihr]; rfl
  | negate _ ih => rwa [Expr.isPure]

end Expr

namespace Engine

variable {e : Engine}

/-- **The exact value of a tree**, each name standing for the integer that it holds. -/
def exactValue? (e : Engine) : Expr → Option ℚ
  | .const (.int n) => some n.toInt
  | .var name =>
    match e.value? name with
    | some (.int n) => some n.toInt
    | _ => none
  | .binary op left right => do op.exactValue? (← exactValue? e left) (← exactValue? e right)
  | .negate inner => (exactValue? e inner).map (- ·)
  | _ => none

/-- **Every tree in the tree has an exact value that is an integer of 64 bits.** -/
def Fits (e : Engine) (x : Expr) : Prop :=
  ∀ y ∈ x.nodes, ∃ n : Int64, e.exactValue? y = some (n.toInt : ℚ)

theorem fits_iff {x : Expr} :
    e.Fits x ↔ (∃ n : Int64, e.exactValue? x = some (n.toInt : ℚ)) ∧ ∀ y ∈ x.parts, e.Fits y := by
  unfold Fits
  rw [Expr.nodes_eq, List.forall_mem_cons]
  simp only [List.mem_flatMap, forall_exists_index, and_imp]
  exact and_congr_right fun _ => ⟨fun h y hy z hz => h z y hy hz, fun h z y hy hz => h y hy z hz⟩

end Engine

/-! ## §2 Operators on integers and doubles -/

/-- **A result has left the integers**: it is a double or a division by zero. -/
def LeavesInts (r : Except EvalError Value) : Prop :=
  (∃ d, r = .ok (.double d)) ∨ r = .error .divisionByZero

namespace Operator

variable {op : Operator} {a b : Int64}

/-- **Two integers give an integer just where the exact result is one** of 64 bits. -/
theorem Arithmetic.onInts_cases (f : Arithmetic) (a b : Int64) :
    (∃ n : Int64, f.onInts a b = .int n ∧ f.ints a.toInt b.toInt = some n.toInt) ∨
      (∃ d, f.onInts a b = .double d) ∧ ∀ n : Int64, f.ints a.toInt b.toInt ≠ some n.toInt := by
  unfold onInts
  split
  · next n hn =>
    obtain ⟨z, hz, hfit⟩ := Option.bind_eq_some_iff.mp hn
    rw [← Numeral.toInt64?_eq_some_iff.mp hfit] at hz
    exact Or.inl ⟨n, rfl, hz⟩
  · next hnone =>
    refine Or.inr ⟨⟨_, rfl⟩, fun n hn => ?_⟩
    rw [hn, Option.bind_some, Numeral.toInt64?_eq_some_iff.mpr rfl] at hnone
    cases hnone

/-- An integer is the quotient of two if it is the exact one. -/
theorem exactQuotient?_eq_some_iff {a b q : Int} (hb : b ≠ 0) :
    exactQuotient? a b = some q ↔ q * b = a := by
  unfold exactQuotient?
  constructor
  · intro h
    split at h
    · next hdiv =>
      cases h
      exact Int.tdiv_mul_cancel_of_tmod_eq_zero hdiv.2
    · cases h
  · rintro rfl
    rw [if_pos ⟨hb, Int.mul_tmod_left q b⟩, Int.mul_tdiv_cancel q hb]

/-- **An operator is exact on two integers**: it gives an integer, and that is the exact result, or it
gives none, and then the exact result is none of 64 bits. -/
def ExactOn (op : Operator) (a b : Int64) : Prop :=
  (∃ n : Int64, op.apply (.int a) (.int b) = .ok (.int n) ∧
      op.exactValue? a.toInt b.toInt = some (n.toInt : ℚ)) ∨
    LeavesInts (op.apply (.int a) (.int b)) ∧
      ∀ n : Int64, op.exactValue? a.toInt b.toInt ≠ some (n.toInt : ℚ)

theorem ExactOn.of_ints {f : Arithmetic} (happly : op.apply (.int a) (.int b) = .ok (f.onInts a b))
    (hints : ∀ z : Int, op.exactValue? a.toInt b.toInt = some (z : ℚ) ↔
      f.ints a.toInt b.toInt = some z) : op.ExactOn a b := by
  rcases f.onInts_cases a b with ⟨n, hn, hz⟩ | ⟨⟨d, hd⟩, hno⟩
  · exact Or.inl ⟨n, by rw [happly, hn], (hints n.toInt).mpr hz⟩
  · exact Or.inr ⟨Or.inl ⟨d, by rw [happly, hd]⟩, fun n hn => hno n ((hints n.toInt).mp hn)⟩

/-- **The four operations are exact on integers.** -/
theorem exactOn (hop : op.isArithmetic = true) (a b : Int64) : op.ExactOn a b := by
  cases op with
  | add =>
    refine .of_ints (f := addition) rfl fun z => ?_
    simp only [exactValue?, addition, Option.some_inj]
    norm_cast
  | subtract =>
    refine .of_ints (f := subtraction) rfl fun z => ?_
    simp only [exactValue?, subtraction, Option.some_inj]
    norm_cast
  | multiply =>
    refine .of_ints (f := multiplication) rfl fun z => ?_
    simp only [exactValue?, multiplication, Option.some_inj]
    norm_cast
  | divide =>
    by_cases hb : b = 0
    · subst hb
      exact Or.inr ⟨Or.inr rfl, fun n hn => by cases hn⟩
    · have hne : b.toInt ≠ 0 := fun h => hb (Int64.toInt_inj.mp h)
      have hcast : (b.toInt : ℚ) ≠ 0 := mod_cast hne
      refine .of_ints (f := division) (if_neg hb) fun z => ?_
      rw [exactValue?, if_neg hcast, Option.some_inj, div_eq_iff hcast]
      show _ ↔ exactQuotient? a.toInt b.toInt = some z
      rw [exactQuotient?_eq_some_iff hne, eq_comm]
      norm_cast
  | _ => cases hop

/-- Arithmetic on a double and a number gives a double. -/
theorem Arithmetic.apply_double (f : Arithmetic) {l r : Value} (hl : l.isNumeric = true)
    (hr : r.isNumeric = true) (h : (∃ d, l = .double d) ∨ ∃ d, r = .double d) :
    ∃ d, f.apply l r = .ok (.double d) := by
  have hmixed (a b : Option Numeral.Scaled) (x y : Float) : ∃ d, f.mixed a b x y = .double d := by
    unfold mixed
    split
    · exact ⟨_, rfl⟩
    · exact ⟨_, rfl⟩
  cases l with
  | int a =>
    obtain ⟨d, rfl⟩ := h.resolve_left nofun
    obtain ⟨z, hz⟩ := hmixed (some (.ofInt64 a)) (Numeral.Scaled.ofDouble? d) (Numeral.ofInt64 a) d
    exact ⟨z, congrArg Except.ok hz⟩
  | double d =>
    cases r with
    | int b =>
      obtain ⟨z, hz⟩ := hmixed (Numeral.Scaled.ofDouble? d) (some (.ofInt64 b)) d (Numeral.ofInt64 b)
      exact ⟨z, congrArg Except.ok hz⟩
    | double y => exact ⟨_, rfl⟩
    | _ => cases hr
  | _ => cases hl

/-- **An operation on two numbers of which one is a double gives a double.** -/
theorem apply_double (hop : op.isArithmetic = true) {l r : Value} (hl : l.isNumeric = true)
    (hr : r.isNumeric = true) (h : (∃ d, l = .double d) ∨ ∃ d, r = .double d) :
    ∃ d, op.apply l r = .ok (.double d) := by
  have happly : ∃ f : Arithmetic, op.apply l r = f.apply l r := by
    cases op with
    | add => exact ⟨addition, by unfold apply; grind [Value.isNumeric]⟩
    | subtract => exact ⟨subtraction, rfl⟩
    | multiply => exact ⟨multiplication, rfl⟩
    | divide => exact ⟨division, by unfold apply; grind⟩
    | _ => cases hop
  obtain ⟨f, hf⟩ := happly
  rw [hf]
  exact f.apply_double hl hr h

/-- **An operation on numbers divides by zero** only if it divides an integer by the integer zero. -/
theorem apply_eq_divisionByZero_iff (hop : op.isArithmetic = true) {l r : Value}
    (hl : l.isNumeric = true) (hr : r.isNumeric = true) :
    op.apply l r = .error .divisionByZero ↔ op = .divide ∧ (∃ a, l = .int a) ∧ r = .int 0 := by
  constructor
  · intro h
    have hints : ¬ ((∃ d, l = .double d) ∨ ∃ d, r = .double d) := by
      intro hdouble
      obtain ⟨d, hd⟩ := apply_double hop hl hr hdouble
      rw [hd] at h
      cases h
    cases l with
    | int a =>
      cases r with
      | int b =>
        cases op with
        | divide =>
          refine ⟨rfl, ⟨a, rfl⟩, ?_⟩
          by_contra hb
          have hquotient : apply .divide (.int a) (.int b) = .ok (division.onInts a b) :=
            if_neg fun hzero => hb (congrArg Value.int hzero)
          rw [hquotient] at h
          cases h
        | add | subtract | multiply => cases h
        | _ => cases hop
      | double y => exact absurd (Or.inr ⟨y, rfl⟩) hints
      | _ => cases hr
    | double d => exact absurd (Or.inl ⟨d, rfl⟩) hints
    | _ => cases hl
  · rintro ⟨rfl, ⟨a, rfl⟩, rfl⟩
    rfl

/-- An operation on what two numbers or divisions by zero come to divides by zero by itself, or one of
them has done so. -/
theorem results_eq_divisionByZero_iff (hop : op.isArithmetic = true) {l r : Except EvalError Value}
    (hl : (∃ v : Value, v.isNumeric = true ∧ l = .ok v) ∨ l = .error .divisionByZero)
    (hr : (∃ v : Value, v.isNumeric = true ∧ r = .ok v) ∨ r = .error .divisionByZero) :
    (do op.apply (← l) (← r)) = .error .divisionByZero ↔
      (op = .divide ∧ (∃ a, l = .ok (.int a)) ∧ r = .ok (.int 0)) ∨
        l = .error .divisionByZero ∨ r = .error .divisionByZero := by
  rcases hl with ⟨l, hnum, rfl⟩ | rfl
  · rcases hr with ⟨r, hnum', rfl⟩ | rfl
    · simp only [Except.ok.injEq, reduceCtorEq, or_false]
      exact apply_eq_divisionByZero_iff hop hnum hnum'
    · exact iff_of_true rfl (Or.inr (Or.inr rfl))
  · exact iff_of_true rfl (Or.inr (Or.inl rfl))

/-- **The opposite of an integer** is an integer just where the exact one is one of 64 bits. -/
theorem negate_int (a : Int64) :
    (∃ n : Int64, negate (.int a) = .ok (.int n) ∧ (-a.toInt : ℚ) = n.toInt) ∨
      LeavesInts (negate (.int a)) ∧ ∀ n : Int64, (-a.toInt : ℚ) ≠ n.toInt := by
  unfold negate
  dsimp only
  split
  · next n hn =>
    have hexact : n.toInt = -a.toInt := Numeral.toInt64?_eq_some_iff.mp hn
    exact Or.inl ⟨n, rfl, mod_cast hexact.symm⟩
  · next hnone =>
    refine Or.inr ⟨Or.inl ⟨_, rfl⟩, fun n hn => ?_⟩
    have hexact : n.toInt = -a.toInt := mod_cast hn.symm
    rw [Numeral.toInt64?_eq_some_iff.mpr hexact] at hnone
    cases hnone

/-- A number has an opposite. -/
theorem negate_numeric {v : Value} (h : v.isNumeric = true) : ∃ z, negate v = .ok z := by
  cases v with
  | int a =>
    unfold negate
    dsimp only
    split
    · exact ⟨_, rfl⟩
    · exact ⟨_, rfl⟩
  | double d => exact ⟨_, rfl⟩
  | _ => cases h

end Operator

/-! ## §3 Results of subtrees -/

namespace Runner

/-- **What a tree comes to** on an engine. -/
def result (run : Runner) (owner : Owner) (n : Nat) (e : Engine) (x : Expr) :
    Except EvalError Value :=
  ((run.eval owner n x).run.run e).1

variable {run : Runner} {owner : Owner} {n : Nat} {e : Engine} {left right inner : Expr}

/-- What a pure tree comes to is the same once names have been spoken of, under any numbers. -/
theorem result_eq {x : Expr} {e₁ : Engine} (hpure : x.isPure = true) (hspoken : Engine.Spoken e e₁)
    (n₁ : Nat) : run.result owner n₁ e₁ x = run.result owner n e x := by
  have hview : Engine.SameView x.reads e e₁ := fun name _ => hspoken.value? name
  have honly := eval_viewOnly run run owner owner n n₁ x hpure fun _ hd => hd
  exact (honly e e₁ hview).1.symm

/-- **An operation on two pure trees** is one on what they come to by themselves. -/
theorem result_binary (op : Operator) (hleft : left.isPure = true) (hright : right.isPure = true) :
    run.result owner n e (.binary op left right) =
      (do op.apply (← run.result owner n e left) (← run.result owner n e right)) := by
  have honly := eval_viewOnly run run owner owner n n left hleft fun _ hd => hd
  obtain ⟨-, hspoken, -⟩ := honly e e fun _ _ => rfl
  unfold result
  simp only [Runner.eval]
  rcases hl : (run.eval owner n left).run.run e with ⟨l, e₁⟩
  rw [hl] at hspoken
  cases l with
  | error error =>
    rw [run_bind_error hl]
    rfl
  | ok l =>
    have hsame : run.result owner (n + left.memories) e₁ right = run.result owner n e right :=
      result_eq hright hspoken _
    unfold result at hsame
    rw [run_bind_ok hl, ← hsame]
    rcases hr : (run.eval owner (n + left.memories) right).run.run e₁ with ⟨r, e₂⟩
    cases r with
    | error error =>
      rw [run_bind_error hr]
      rfl
    | ok r =>
      rw [run_bind_ok hr]
      rfl

theorem result_negate : run.result owner n e (.negate inner) =
    (do Operator.negate (← run.result owner n e inner)) := by
  unfold result
  simp only [Runner.eval]
  rcases hv : (run.eval owner n inner).run.run e with ⟨v, e₁⟩
  cases v with
  | error error =>
    rw [run_bind_error hv]
    rfl
  | ok v =>
    rw [run_bind_ok hv]
    rfl

/-- A name comes to the value that it has. -/
theorem result_var {name : String} {v : Value} (h : e.value? name = some v) :
    run.result owner n e (.var name) = .ok v := by
  show (((readSymbol name : Eval Value)).run.run e).1 = .ok v
  unfold readSymbol
  rw [run_modify, run_look, Engine.value?_touch, h]
  rfl

end Runner

/-! ## §4 Trees -/

namespace Engine

variable {e : Engine} {left right inner : Expr} {l r v : Except EvalError Value} {op : Operator}

/-- **A result tells the exact value of a tree**: if everything in the tree fits, the result is the
integer that the exact value is; if not, it has left the integers. -/
def ExactWith (e : Engine) (x : Expr) (r : Except EvalError Value) : Prop :=
  (∃ k : Int64, e.Fits x ∧ e.exactValue? x = some (k.toInt : ℚ) ∧ r = .ok (.int k)) ∨
    ¬ e.Fits x ∧ LeavesInts r

namespace ExactWith

/-- Such a result is a number or a division by zero. -/
theorem numeric {x : Expr} (h : e.ExactWith x r) :
    (∃ v : Value, v.isNumeric = true ∧ r = .ok v) ∨ r = .error .divisionByZero := by
  rcases h with ⟨k, -, -, rfl⟩ | ⟨-, ⟨d, rfl⟩ | rfl⟩
  · exact Or.inl ⟨.int k, rfl, rfl⟩
  · exact Or.inl ⟨.double d, rfl, rfl⟩
  · exact Or.inr rfl

/-- **Results that tell exact values are combined to one that does.** What has left the integers on one
side does not come back. -/
theorem binary (hop : op.isArithmetic = true) (hl : e.ExactWith left l) (hr : e.ExactWith right r) :
    e.ExactWith (.binary op left right) (do op.apply (← l) (← r)) := by
  have hfits : e.Fits (.binary op left right) ↔
      (∃ k : Int64, e.exactValue? (.binary op left right) = some (k.toInt : ℚ)) ∧
        e.Fits left ∧ e.Fits right := by
    rw [fits_iff]
    simp [Expr.parts]
  have hright := hr.numeric
  rcases hl with ⟨a, hfl, ha, rfl⟩ | ⟨hfl, hleft⟩
  · rcases hr with ⟨b, hfr, hb, rfl⟩ | ⟨hfr, ⟨d, rfl⟩ | rfl⟩
    · have hexact : e.exactValue? (.binary op left right) = op.exactValue? a.toInt b.toInt := by
        rw [exactValue?, ha, hb]
        rfl
      rcases Operator.exactOn hop a b with ⟨k, happly, hk⟩ | ⟨hleaves, hno⟩
      · have hwhole := hexact.trans hk
        exact Or.inl ⟨k, hfits.mpr ⟨⟨k, hwhole⟩, hfl, hfr⟩, hwhole, happly⟩
      · refine Or.inr ⟨fun h => ?_, hleaves⟩
        obtain ⟨⟨k, hk⟩, -⟩ := hfits.mp h
        exact hno k (hexact.symm.trans hk)
    · refine Or.inr ⟨fun h => hfr (hfits.mp h).2.2, Or.inl ?_⟩
      exact Operator.apply_double hop rfl rfl (Or.inr ⟨d, rfl⟩)
    · exact Or.inr ⟨fun h => hfr (hfits.mp h).2.2, Or.inr rfl⟩
  · refine Or.inr ⟨fun h => hfl (hfits.mp h).2.1, ?_⟩
    rcases hleft with ⟨d, rfl⟩ | rfl
    · rcases hright with ⟨y, hy, rfl⟩ | rfl
      · exact Or.inl (Operator.apply_double hop rfl hy (Or.inl ⟨d, rfl⟩))
      · exact Or.inr rfl
    · exact Or.inr rfl

theorem negate (h : e.ExactWith inner v) :
    e.ExactWith (.negate inner) (do Operator.negate (← v)) := by
  have hfits : e.Fits (.negate inner) ↔
      (∃ k : Int64, e.exactValue? (.negate inner) = some (k.toInt : ℚ)) ∧ e.Fits inner := by
    rw [fits_iff]
    simp [Expr.parts]
  rcases h with ⟨a, hfa, ha, rfl⟩ | ⟨hfa, ⟨d, rfl⟩ | rfl⟩
  · have hexact : e.exactValue? (.negate inner) = some (-a.toInt : ℚ) := by
      rw [exactValue?, ha]
      rfl
    rcases Operator.negate_int a with ⟨k, hnegate, hk⟩ | ⟨hleaves, hno⟩
    · have hwhole := hexact.trans (congrArg some hk)
      exact Or.inl ⟨k, hfits.mpr ⟨⟨k, hwhole⟩, hfa⟩, hwhole, hnegate⟩
    · refine Or.inr ⟨fun h => ?_, hleaves⟩
      obtain ⟨⟨k, hk⟩, -⟩ := hfits.mp h
      exact hno k (Option.some.inj (hexact.symm.trans hk))
  · exact Or.inr ⟨fun h => hfa (hfits.mp h).2, Or.inl ⟨_, rfl⟩⟩
  · exact Or.inr ⟨fun h => hfa (hfits.mp h).2, Or.inr rfl⟩

end ExactWith

end Engine

namespace Expr.IsArithmetic

variable {x : Expr} {e : Engine}

/-- **What a tree of integers comes to tells its exact value.** -/
theorem exactWith (h : x.IsArithmetic)
    (hints : ∀ name ∈ x.reads, ∃ k, e.value? name = some (.int k)) (run : Runner) (owner : Owner)
    (n : Nat) : e.ExactWith x (run.result owner n e x) := by
  induction h with
  | int k =>
    have hexact : e.exactValue? (.const (.int k)) = some (k.toInt : ℚ) := rfl
    exact Or.inl ⟨k, Engine.fits_iff.mpr ⟨⟨k, hexact⟩, nofun⟩, hexact, rfl⟩
  | var name =>
    obtain ⟨k, hk⟩ := hints name (List.mem_singleton_self name)
    have hexact : e.exactValue? (.var name) = some (k.toInt : ℚ) := by rw [Engine.exactValue?, hk]
    exact Or.inl ⟨k, Engine.fits_iff.mpr ⟨⟨k, hexact⟩, nofun⟩, hexact, Runner.result_var hk⟩
  | @binary op left right hop hleft hright ihl ihr =>
    rw [Runner.result_binary op hleft.isPure hright.isPure]
    exact .binary hop (ihl fun name hname => hints name (List.mem_append_left _ hname))
      (ihr fun name hname => hints name (List.mem_append_right _ hname))
  | negate _ ih =>
    rw [Runner.result_negate]
    exact (ih hints).negate

/-- **A tree of integers fails with a division by zero** just where one of its divisions has an integer to
divide and a divisor that comes to the integer zero. -/
theorem divisionByZero_iff (h : x.IsArithmetic)
    (hints : ∀ name ∈ x.reads, ∃ k, e.value? name = some (.int k)) (run : Runner) (owner : Owner)
    (n : Nat) :
    run.result owner n e x = .error .divisionByZero ↔
      ∃ left right, .binary .divide left right ∈ x.nodes ∧
        (∃ a, run.result owner n e left = .ok (.int a)) ∧
        run.result owner n e right = .ok (.int 0) := by
  induction h with
  | int k =>
    constructor
    · intro hzero
      cases hzero
    · rintro ⟨left, right, hmem, -⟩
      cases List.mem_singleton.mp hmem
  | var name =>
    obtain ⟨k, hk⟩ := hints name (List.mem_singleton_self name)
    rw [Runner.result_var hk]
    constructor
    · intro hzero
      cases hzero
    · rintro ⟨left, right, hmem, -⟩
      cases List.mem_singleton.mp hmem
  | @binary op left right hop hleft hright ihl ihr =>
    simp only [Expr.reads, List.mem_append, or_imp, forall_and] at hints
    have hl := (hleft.exactWith hints.1 run owner n).numeric
    have hr := (hright.exactWith hints.2 run owner n).numeric
    rw [Runner.result_binary op hleft.isPure hright.isPure,
      Operator.results_eq_divisionByZero_iff hop hl hr, ihl hints.1, ihr hints.2, Expr.nodes]
    simp only [List.mem_cons, List.mem_append, or_and_right, exists_or, Expr.binary.injEq]
    refine or_congr_left ⟨?_, ?_⟩
    · rintro ⟨rfl, hint, hzero⟩
      exact ⟨left, right, ⟨rfl, rfl, rfl⟩, hint, hzero⟩
    · rintro ⟨_, _, ⟨rfl, rfl, rfl⟩, hint, hzero⟩
      exact ⟨rfl, hint, hzero⟩
  | @negate inner hinner ih =>
    have hv := (hinner.exactWith hints run owner n).numeric
    rw [Runner.result_negate, Expr.nodes]
    simp only [List.mem_cons, reduceCtorEq, false_or]
    rw [← ih hints]
    rcases hv with ⟨v, hnum, hv⟩ | hv
    · obtain ⟨z, hz⟩ := Operator.negate_numeric hnum
      rw [hv]
      constructor
      · intro hzero
        cases hz.symm.trans hzero
      · intro hzero
        cases hzero
    · rw [hv]
      exact iff_of_true rfl rfl

end Expr.IsArithmetic

/-- **Integer arithmetic is exact or leaves the integers.** A tree of integers, names that hold integers
and the four operations comes to an integer only if that is its exact value and the exact value of every
tree in it is an integer of 64 bits, and then it does; otherwise it comes to a double or divides by zero,
and it divides by zero just where a divisor comes to the integer zero under an integer. -/
theorem integers_exact {x : Expr} (hx : x.IsArithmetic) {e : Engine}
    (hints : ∀ name ∈ x.reads, ∃ k, e.value? name = some (.int k)) (run : Runner) (owner : Owner)
    (n : Nat) :
    (∀ k : Int64, run.result owner n e x = .ok (.int k) →
        e.exactValue? x = some (k.toInt : ℚ) ∧ e.Fits x) ∧
      (e.Fits x → ∃ k : Int64, run.result owner n e x = .ok (.int k) ∧
        e.exactValue? x = some (k.toInt : ℚ)) ∧
      (¬ e.Fits x → (∃ d, run.result owner n e x = .ok (.double d)) ∨
        run.result owner n e x = .error .divisionByZero) ∧
      (run.result owner n e x = .error .divisionByZero ↔
        ∃ left right, .binary .divide left right ∈ x.nodes ∧
          (∃ a, run.result owner n e left = .ok (.int a)) ∧
          run.result owner n e right = .ok (.int 0)) := by
  have hzero := hx.divisionByZero_iff hints run owner n
  rcases hx.exactWith hints run owner n with ⟨m, hfits, hexact, hm⟩ | ⟨hno, hleaves⟩
  · refine ⟨fun k hk => ?_, fun _ => ⟨m, hm, hexact⟩, fun hno => absurd hfits hno, hzero⟩
    cases hk.symm.trans hm
    exact ⟨hexact, hfits⟩
  · refine ⟨fun k hk => ?_, fun hfits => absurd hfits hno, fun _ => hleaves, hzero⟩
    rcases hleaves with ⟨d, hd⟩ | hdivided
    · cases hk.symm.trans hd
    · cases hk.symm.trans hdivided

/-- The least integer divided by minus one is none of 64 bits, so the quotient is a double. -/
theorem least_integer_divided :
    let x : Expr := .binary .divide (.var "least") (.negate (.const (.int 1)))
    let e : Engine := (Engine.bare .standard).changed "least" (.int Int64.minValue)
    x.IsArithmetic ∧ (∀ name ∈ x.reads, ∃ k, e.value? name = some (.int k)) ∧
      e.exactValue? x = some 9223372036854775808 ∧ ¬ e.Fits x ∧
      ∃ d, (runner 1).result .query 0 e x = .ok (.double d) := by
  intro x e
  have hx : x.IsArithmetic := .binary rfl (.var "least") (.negate (.int 1))
  have hvalue : e.value? "least" = some (.int Int64.minValue) := rfl
  have hints : ∀ name ∈ x.reads, ∃ k, e.value? name = some (.int k) := by
    intro name hname
    cases List.mem_singleton.mp hname
    exact ⟨_, hvalue⟩
  have hexact : e.exactValue? x = some 9223372036854775808 := by decide +kernel
  have hno : ¬ e.Fits x := by
    intro hfits
    obtain ⟨k, hk⟩ := hfits x x.mem_nodes
    have hcast : (k.toInt : ℚ) = 9223372036854775808 := Option.some.inj (hk.symm.trans hexact)
    have hlarge : k.toInt = 9223372036854775808 := mod_cast hcast
    have hlt := k.toInt_lt
    omega
  obtain ⟨-, -, hleaves, hzero⟩ := integers_exact hx hints (runner 1) .query 0
  refine ⟨hx, hints, hexact, hno, (hleaves hno).resolve_right fun hfails => ?_⟩
  -- the one division of the tree has minus one for its divisor
  obtain ⟨left, right, hmem, -, hright⟩ := hzero.mp hfails
  have hminus : (runner 1).result .query 0 e (.negate (.const (.int 1))) = .ok (.int (-1)) := rfl
  simp only [x, Expr.nodes, List.mem_append, List.mem_cons, List.not_mem_nil, Expr.binary.injEq,
    reduceCtorEq, or_false] at hmem
  rw [hmem.2.2, hminus] at hright
  cases hright

end Cascade
