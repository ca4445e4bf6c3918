import Cascade.Engine.Operations
import Mathlib.Data.List.Forall2
import Mathlib.Logic.Relation

/-!
# How arguments of a sum are grouped does not matter

The built-in `sum` takes lists among its arguments, and lists within lists. What it comes to depends
only on the leaves, the values that are not lists, in their order from left to right: their doubles are
added one after the other, beginning with zero, and the first leaf that is no number is the error. The
addition of doubles is not associative, so it is this order that the total stands for; nothing here
asks what the addition comes to.

§1 the leaves of values; §2 adding leaf by leaf; §3 what a sum comes to; §4 regrouping.
-/

namespace Cascade

/-! ## §1 Leaves -/

namespace Value

/-- Is the value a list? -/
def isList : Value → Bool
  | .list _ => true
  | _ => false

mutual

/-- **The leaves of a value**, from left to right: those of its items, or the value itself if it is no
list. -/
def leaves : Value → List Value
  | .list items => leavesAll items
  | v => [v]

/-- The leaves of values, one value after the other. -/
def leavesAll : List Value → List Value
  | [] => []
  | v :: vs => leaves v ++ leavesAll vs

end

theorem leavesAll_append (vs ws : List Value) :
    leavesAll (vs ++ ws) = leavesAll vs ++ leavesAll ws := by
  induction vs with
  | nil => rfl
  | cons v vs ih => rw [List.cons_append, leavesAll, leavesAll, ih, List.append_assoc]

/-- A list in the place of its items changes no leaf. -/
theorem leavesAll_group (front group back : List Value) :
    leavesAll (front ++ .list group :: back) = leavesAll (front ++ group ++ back) := by
  rw [leavesAll_append, leavesAll_append, leavesAll_append, leavesAll, leaves, List.append_assoc]

mutual

/-- **No leaf is a list.** -/
theorem isList_of_mem_leaves : ∀ (v : Value) {u : Value}, u ∈ v.leaves → u.isList = false
  | .list items, _, hu => isList_of_mem_leavesAll items hu
  | .int _, _, hu | .double _, _, hu | .string _, _, hu | .bool _, _, hu => by
    rw [List.mem_singleton.mp hu]
    rfl

theorem isList_of_mem_leavesAll :
    ∀ (vs : List Value) {u : Value}, u ∈ leavesAll vs → u.isList = false
  | v :: vs, _, hu =>
    (List.mem_append.mp hu).elim (isList_of_mem_leaves v) (isList_of_mem_leavesAll vs)

end

/-- Only a number has a double; anything else is the error. -/
theorem toDouble_of_not_numeric {v : Value} (h : v.isNumeric = false) :
    v.toDouble = .error (.invalidConversion .double v) := by
  cases v with
  | int n => cases h
  | double x => cases h
  | _ => rfl

theorem toDouble_of_numeric {v : Value} (h : v.isNumeric = true) : ∃ x, v.toDouble = .ok x := by
  cases v with
  | int n => exact ⟨_, rfl⟩
  | double x => exact ⟨x, rfl⟩
  | _ => cases h

end Value

namespace Builtin

open Value

/-! ## §2 Adding leaf by leaf -/

/-- Values are added in turn, as long as there is no error. -/
theorem addAll_append (total : Float) (vs ws : List Value) :
    addAll total (vs ++ ws) = addAll total vs >>= fun total => addAll total ws := by
  induction vs generalizing total with
  | nil => rfl
  | cons v vs ih =>
    rw [List.cons_append, addAll, addAll]
    cases addTo total v with
    | error e => rfl
    | ok total => exact ih total

mutual

/-- **Adding a value adds its leaves.** -/
theorem addTo_leaves (total : Float) : ∀ v : Value, addTo total v = addAll total v.leaves
  | .list items => addAll_leaves total items
  | .int _ | .double _ | .string _ | .bool _ => rfl

theorem addAll_leaves (total : Float) :
    ∀ vs : List Value, addAll total vs = addAll total (leavesAll vs)
  | [] => rfl
  | v :: vs => by
    rw [leavesAll, addAll_append, ← addTo_leaves total v, addAll]
    cases addTo total v with
    | error e => rfl
    | ok total => exact addAll_leaves total vs

end

/-! ## §3 What a sum comes to -/

/-- Values that are no lists are added by their doubles, if all of them have one. -/
theorem addAll_eq_foldl {vs : List Value} (h : ∀ v ∈ vs, v.isList = false) (total : Float) :
    addAll total vs = (vs.mapM toDouble).map fun xs => xs.foldl (· + ·) total := by
  induction vs generalizing total with
  | nil => rfl
  | cons v vs ih =>
    obtain ⟨hv, hvs⟩ := List.forall_mem_cons.mp h
    have hadd : addTo total v = v.toDouble.map (total + ·) := by
      cases v with
      | list items => cases hv
      | _ => rfl
    rw [addAll, hadd, List.mapM_cons]
    cases v.toDouble with
    | error e => rfl
    | ok x =>
      refine (ih hvs (total + x)).trans ?_
      show _ = (vs.mapM toDouble >>= fun xs => pure (x :: xs)).map _
      cases vs.mapM toDouble with
      | error e => rfl
      | ok xs => rfl

theorem sum_eq_foldl (args : List Value) :
    sum args = ((leavesAll args).mapM toDouble).map fun xs => .double (xs.foldl (· + ·) 0.0) := by
  rw [sum, addAll_leaves, addAll_eq_foldl fun v hv => isList_of_mem_leavesAll args hv]
  cases (leavesAll args).mapM toDouble with
  | error e => rfl
  | ok xs => rfl

theorem mapM_toDouble_of_numeric {vs : List Value} (h : ∀ v ∈ vs, v.isNumeric = true) :
    ∃ xs, List.Forall₂ (fun v x => v.toDouble = .ok x) vs xs ∧ vs.mapM toDouble = .ok xs := by
  induction vs with
  | nil => exact ⟨[], .nil, rfl⟩
  | cons v vs ih =>
    obtain ⟨hv, hvs⟩ := List.forall_mem_cons.mp h
    obtain ⟨x, hx⟩ := toDouble_of_numeric hv
    obtain ⟨xs, hxs, hread⟩ := ih hvs
    refine ⟨x :: xs, .cons hx hxs, ?_⟩
    rw [List.mapM_cons, hx, hread]
    rfl

/-- The first value that is no number is the error of reading values as doubles. -/
theorem mapM_toDouble_of_first {front back : List Value} {v : Value}
    (hfront : ∀ u ∈ front, u.isNumeric = true) (hv : v.isNumeric = false) :
    (front ++ v :: back).mapM toDouble = .error (.invalidConversion .double v) := by
  induction front with
  | nil =>
    rw [List.nil_append, List.mapM_cons, toDouble_of_not_numeric hv]
    rfl
  | cons u front ih =>
    obtain ⟨hu, hrest⟩ := List.forall_mem_cons.mp hfront
    obtain ⟨x, hx⟩ := toDouble_of_numeric hu
    rw [List.cons_append, List.mapM_cons, hx, ih hrest]
    rfl

/-- **The same leaves, the same sum**, whether it is a total or an error. -/
theorem sum_congr {args others : List Value} (h : leavesAll args = leavesAll others) :
    sum args = sum others := by
  rw [sum_eq_foldl, sum_eq_foldl, h]

end Builtin

/-! ## §4 Regrouping -/

namespace Value

/-- **Neighbouring values put into a list**, in the row itself or, at any depth, within one of its
lists. With no value between `front` and `back` it is an empty list that is put in. -/
inductive Grouping : List Value → List Value → Prop
  | group (front group back : List Value) :
      Grouping (front ++ group ++ back) (front ++ .list group :: back)
  | inside {items others : List Value} (front back : List Value) : Grouping items others →
      Grouping (front ++ .list items :: back) (front ++ .list others :: back)

/-- Rows that come from each other by putting values into lists and taking them out again. -/
def Regrouped : List Value → List Value → Prop := Relation.EqvGen Grouping

theorem Grouping.leavesAll_eq {vs ws : List Value} (h : Grouping vs ws) :
    leavesAll vs = leavesAll ws := by
  induction h with
  | group front group back => exact (leavesAll_group front group back).symm
  | @inside items others front back _ ih =>
    rw [leavesAll_group, leavesAll_group, leavesAll_append, leavesAll_append front, ih,
      ← leavesAll_append front, ← leavesAll_append]

theorem Grouping.within {vs ws : List Value} (h : Grouping vs ws) (front back : List Value) :
    Grouping (front ++ vs ++ back) (front ++ ws ++ back) := by
  cases h with
  | group inner group outer =>
    simpa only [List.append_assoc, List.cons_append] using
      Grouping.group (front ++ inner) group (outer ++ back)
  | inside inner outer h =>
    simpa only [List.append_assoc, List.cons_append] using
      Grouping.inside (front ++ inner) (outer ++ back) h

theorem Regrouped.within {vs ws : List Value} (h : Regrouped vs ws) (front back : List Value) :
    Regrouped (front ++ vs ++ back) (front ++ ws ++ back) := by
  induction h with
  | rel _ _ h => exact .rel _ _ (h.within front back)
  | refl _ => exact .refl _
  | symm _ _ _ ih => exact .symm _ _ ih
  | trans _ _ _ _ _ ih₁ ih₂ => exact .trans _ _ _ ih₁ ih₂

mutual

/-- A value comes apart into its leaves, list by list. -/
theorem regrouped_leaves : ∀ v : Value, Regrouped [v] v.leaves
  | .list items => .trans _ _ _
    (.symm _ _ (.rel _ _ (by simpa using Grouping.group [] items []))) (regrouped_leavesAll items)
  | .int _ | .double _ | .string _ | .bool _ => .refl _

theorem regrouped_leavesAll : ∀ vs : List Value, Regrouped vs (leavesAll vs)
  | [] => .refl _
  | v :: vs => by
    have hrest := (regrouped_leavesAll vs).within v.leaves []
    rw [List.append_nil, List.append_nil] at hrest
    exact .trans _ _ _ ((regrouped_leaves v).within [] vs) hrest

end

/-- **To be regrouped is to have the same leaves.** -/
theorem regrouped_iff {vs ws : List Value} : Regrouped vs ws ↔ leavesAll vs = leavesAll ws := by
  constructor
  · intro h
    induction h with
    | rel _ _ h => exact h.leavesAll_eq
    | refl _ => rfl
    | symm _ _ _ ih => exact ih.symm
    | trans _ _ _ _ _ ih₁ ih₂ => exact ih₁.trans ih₂
  · intro h
    exact .trans _ _ _ (h ▸ regrouped_leavesAll vs) (.symm _ _ (regrouped_leavesAll ws))

end Value

namespace Builtin

open Value

/-- **A sum ignores how its arguments are grouped.** It is the sum of the leaves, none of which is a
list: if all of them are numbers, their doubles added from left to right to zero, and otherwise the
error of the first that is none. So putting arguments into lists, taking them out and putting in empty
lists, at any depth, gives the same outcome. -/
theorem sum_ignores_grouping (args : List Value) :
    (∀ v ∈ leavesAll args, v.isList = false) ∧
    sum args = sum (leavesAll args) ∧
    ((∀ v ∈ leavesAll args, v.isNumeric = true) →
      ∃ xs, List.Forall₂ (fun v x => v.toDouble = .ok x) (leavesAll args) xs ∧
        sum args = .ok (.double (xs.foldl (· + ·) 0.0))) ∧
    (∀ front v back, leavesAll args = front ++ v :: back →
      (∀ u ∈ front, u.isNumeric = true) → v.isNumeric = false →
        sum args = .error (.invalidConversion .double v)) ∧
    ∀ others, Regrouped args others → sum args = sum others := by
  refine ⟨fun v => isList_of_mem_leavesAll args, ?_, ?_, ?_, ?_⟩
  · exact sum_congr (regrouped_iff.mp (regrouped_leavesAll args))
  · intro hall
    obtain ⟨xs, hxs, hread⟩ := mapM_toDouble_of_numeric hall
    exact ⟨xs, hxs, by rw [sum_eq_foldl, hread]; rfl⟩
  · intro front v back hleaves hfront hv
    rw [sum_eq_foldl, hleaves, mapM_toDouble_of_first hfront hv]
    rfl
  · intro others h
    exact sum_congr (regrouped_iff.mp h)

/-- Of `1, [2, []], "x", [true]` the string is the error, and so it is of `[1], 2, [], ["x", true]`. -/
theorem sum_ignores_grouping_of_nested :
    sum [.int 1, .list [.int 2, .list []], .string "x", .list [.bool true]] =
      .error (.invalidConversion .double (.string "x")) ∧
    sum [.int 1, .list [.int 2, .list []], .string "x", .list [.bool true]] =
      sum [.list [.int 1], .int 2, .list [], .list [.string "x", .bool true]] :=
  have h := sum_ignores_grouping [.int 1, .list [.int 2, .list []], .string "x", .list [.bool true]]
  ⟨h.2.2.2.1 [.int 1, .int 2] (.string "x") [.bool true] rfl (by decide) rfl,
    h.2.2.2.2 _ (regrouped_iff.mpr rfl)⟩

end Builtin

end Cascade
