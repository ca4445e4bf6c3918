import Mathlib.Data.List.Nodup
import Cascade.Expr

/-!
# The remembering forms of a tree

A tree is evaluated under a number, and its remembering forms are numbered from there on, a form before
the forms inside of it and those from left to right. The list of the forms with their numbers says so
without evaluating anything. It leaves out no number and gives none twice, so a number stands for one
form.

§1 the forms; §2 their numbers.
-/

namespace Cascade

namespace Expr

/-! ## §1 The forms -/

mutual

/-- **The remembering forms of a tree**, each with the number that it is evaluated under if the tree is
numbered from `n` on. -/
def forms (n : Nat) : Expr → List (Nat × Expr)
  | const _ | var _ | glob _ => []
  | assign _ inner | negate inner => forms n inner
  | binary _ first second | seq first second | ifThen first second =>
    forms n first ++ forms (n + first.memories) second
  | ifThenElse test onTrue onFalse =>
    forms n test ++ forms (n + test.memories) onTrue ++
      forms (n + test.memories + onTrue.memories) onFalse
  | edgeIf test onTrue onFalse =>
    (n, edgeIf test onTrue onFalse) ::
      (forms (n + 1) test ++ forms (n + 1 + test.memories) onTrue ++
        forms (n + 1 + test.memories + onTrue.memories) onFalse)
  | atChange watch action =>
    (n, atChange watch action) ::
      (forms (n + 1) watch ++ forms (n + 1 + watch.memories) action)
  | block es | call _ es => formsAll n es

/-- The remembering forms of a list of trees. -/
def formsAll (n : Nat) : List Expr → List (Nat × Expr)
  | [] => []
  | e :: es => forms n e ++ formsAll (n + e.memories) es

end

/-! ## §2 Their numbers -/

mutual

/-- **The forms of a tree are numbered one after the other**, so no two of them share a memory. -/
theorem numbers_forms (n : Nat) :
    ∀ e : Expr, (forms n e).map Prod.fst = List.range' n e.memories
  | const _ | var _ | glob _ => rfl
  | assign _ inner | negate inner => numbers_forms n inner
  | binary _ first second | seq first second | ifThen first second => by
    rw [forms, List.map_append, numbers_forms n first, numbers_forms _ second, memories,
      List.range'_append_1]
  | ifThenElse test onTrue onFalse => by
    rw [forms, List.map_append, List.map_append, numbers_forms n test, numbers_forms _ onTrue,
      numbers_forms _ onFalse, memories, List.range'_append_1, Nat.add_assoc n, List.range'_append_1]
  | edgeIf test onTrue onFalse => by
    have hone : (edgeIf test onTrue onFalse).memories =
        test.memories + onTrue.memories + onFalse.memories + 1 := by
      rw [memories]
      omega
    rw [forms, List.map_cons, List.map_append, List.map_append, numbers_forms _ test,
      numbers_forms _ onTrue, numbers_forms _ onFalse, hone, List.range'_append_1,
      Nat.add_assoc (n + 1), List.range'_append_1, List.range'_succ]
  | atChange watch action => by
    have hone : (atChange watch action).memories = watch.memories + action.memories + 1 := by
      rw [memories]
      omega
    rw [forms, List.map_cons, List.map_append, numbers_forms _ watch, numbers_forms _ action, hone,
      List.range'_append_1, List.range'_succ]
  | block es | call _ es => numbers_formsAll n es

theorem numbers_formsAll (n : Nat) :
    ∀ es : List Expr, (formsAll n es).map Prod.fst = List.range' n (memoriesAll es)
  | [] => rfl
  | e :: es => by
    rw [formsAll, List.map_append, numbers_forms n e, numbers_formsAll _ es, memoriesAll,
      List.range'_append_1]

end

variable {n k : Nat} {e f g : Expr}

/-- A tree has one memory for each number from the first one on. -/
theorem exists_mem_forms_iff : (∃ f, (k, f) ∈ e.forms n) ↔ n ≤ k ∧ k < n + e.memories := by
  rw [← List.mem_range'_1, ← numbers_forms, List.mem_map]
  constructor
  · rintro ⟨f, hf⟩
    exact ⟨(k, f), hf, rfl⟩
  · rintro ⟨⟨_, f⟩, hf, rfl⟩
    exact ⟨f, hf⟩

/-- **A number stands for one form.** -/
theorem form_unique (hf : (k, f) ∈ e.forms n) (hg : (k, g) ∈ e.forms n) : f = g := by
  have hnodup : ((e.forms n).map Prod.fst).Nodup := by
    rw [numbers_forms]
    exact List.nodup_range'
  exact congrArg Prod.snd (List.inj_on_of_nodup_map hnodup hf hg rfl)

end Expr

end Cascade
