import Cascade.Proofs.Forms
import Cascade.Proofs.Step
import Cascade.Proofs.Writing

/-!
# Comparing what is done on two engines

Two ways to run rules can be compared on two engines in more senses than one: they come to the same
answer and to related engines, or they do so until something of a certain kind happens. Whatever the
sense, the argument goes along with the actions. If a comparison passes from the parts of an action to
the whole, then two ways to run rules that compare in the few things that a tree, a line or a native
function asks for compare in everything.

§1 comparisons; §2 what engines with the same values show; §3 trees; §4 setting symbols; §5 lines of
data; §6 native functions.
-/

namespace Cascade

/-! ## §1 Comparisons -/

/-- **A sense in which actions on two engines compare.** From engines that are related anything may go
on; an action that is put together from others compares if these do. -/
structure Comparison where
  related : Engine → Engine → Prop
  holds : ∀ {α : Type}, Act α → Act α → Engine → Engine → Prop
  pure : ∀ {α : Type} (a : α) {e e' : Engine}, related e e' →
    holds (Pure.pure a) (Pure.pure a) e e'
  bind : ∀ {α β : Type} {x y : Act α} {f g : α → Act β} {e e' : Engine}, holds x y e e' →
    (∀ a {e e' : Engine}, related e e' → holds (f a) (g a) e e') → holds (x >>= f) (y >>= g) e e'
  look : ∀ {α : Type} {f g : Engine → Act α} {e e' : Engine}, holds (f e) (g e') e e' →
    holds (get >>= f) (get >>= g) e e'

namespace Comparison

variable (C : Comparison) {e e' : Engine}

/-- A failing evaluation leaves out what comes next on both sides. -/
theorem evalBind {x y : Eval α} {f g : α → Eval β} (h : C.holds x.run y.run e e')
    (hnext : ∀ a {e e'}, C.related e e' → C.holds (f a).run (g a).run e e') :
    C.holds (x >>= f).run (y >>= g).run e e' := by
  refine C.bind (f := ExceptT.bindCont f) (g := ExceptT.bindCont g) h ?_
  rintro (error | a) e e' hrelated
  · exact C.pure _ hrelated
  · exact hnext a hrelated

/-- An action within an evaluation. -/
theorem lift {x y : Act α} {f g : α → Eval β} (h : C.holds x y e e')
    (hnext : ∀ a {e e'}, C.related e e' → C.holds (f a).run (g a).run e e') :
    C.holds ((liftM x : Eval α) >>= f).run ((liftM y : Eval α) >>= g).run e e' :=
  C.bind h hnext

/-- Looking at the engines within an evaluation. -/
theorem lookEval {f g : Engine → Eval β} (h : C.holds (f e).run (g e').run e e') :
    C.holds (get >>= f).run (get >>= g).run e e' := by
  show C.holds (get >>= fun e => (f e).run : Act _) (get >>= fun e => (g e).run) e e'
  exact C.look h

/-- A change of the engines within an evaluation. -/
theorem modifyEval {k : Engine → Engine} {f g : Unit → Eval β}
    (h : C.holds (modify k : Act Unit) (modify k) e e')
    (hnext : ∀ {e e'}, C.related e e' → C.holds (f ()).run (g ()).run e e') :
    C.holds (MonadState.modifyGet (fun e => ((), k e)) >>= f).run
      (MonadState.modifyGet (fun e => ((), k e)) >>= g).run e e' :=
  C.bind h fun _ _ _ hrelated => hnext hrelated

/-- A result that is there already. -/
theorem result (r : Except EvalError α) (h : C.related e e') :
    C.holds (liftM r : Eval α).run (liftM r : Eval α).run e e' := by
  cases r with
  | ok a => exact C.pure _ h
  | error error => exact C.pure _ h

/-- Actions that compare one by one compare when done in turn. -/
theorem forM {x y : α → Act PUnit}
    (h : ∀ a {e e'}, C.related e e' → C.holds (x a) (y a) e e') (l : List α)
    (hrelated : C.related e e') : C.holds (l.forM x) (l.forM y) e e' := by
  induction l generalizing e e' with
  | nil => exact C.pure _ hrelated
  | cons a l ih => exact C.bind (h a hrelated) fun _ _ _ hrelated => ih hrelated

end Comparison

namespace Engine

/-! ## §2 What related engines show -/

theorem mem_bound {e : Engine} {name : String} {v : Value} :
    (name, v) ∈ e.bound ↔ e.value? name = some v := by
  simp only [bound, List.mem_filterMap, Option.map_eq_some_iff, value?, Option.bind_eq_some_iff]
  constructor
  · rintro ⟨⟨other, s⟩, hs, w, hw, heq⟩
    cases heq
    exact ⟨s, Table.mem_entries_iff.mp hs, hw⟩
  · rintro ⟨s, hs, hv⟩
    exact ⟨(name, s), Table.mem_entries_iff.mpr hs, v, hv, rfl⟩

theorem pairwise_bound (e : Engine) : e.bound.Pairwise fun a b => a.1 < b.1 := by
  refine e.symbols.ascending.filterMap _ fun p q hlt p' hp q' hq => ?_
  obtain ⟨_, -, rfl⟩ := Option.map_eq_some_iff.mp hp
  obtain ⟨_, -, rfl⟩ := Option.map_eq_some_iff.mp hq
  exact hlt

/-- **Engines with the same values show the same symbols**, unset ones being shown by neither. -/
theorem bound_eq {e e' : Engine} (h : ∀ name, e'.value? name = e.value? name) :
    e'.bound = e.bound := by
  refine Table.entries_ext (pairwise_bound e') (pairwise_bound e) ?_
  rintro ⟨name, v⟩
  rw [mem_bound, mem_bound, h]

end Engine

/-! ## §3 Trees -/

namespace Comparison

variable (C : Comparison) {run run' : Runner} {owner : Owner} {n : Nat}

/-- **Two evaluations compare from wherever they may go on.** -/
def Throughout (x y : Eval α) : Prop := ∀ {e e' : Engine}, C.related e e' → C.holds x.run y.run e e'

/-- **An `edge_if` compares if its parts do**, and if its truth is remembered under its number on both
sides, where it is the same. -/
theorem edgeIf {test onTrue onFalse : Expr}
    (truth : ∀ {e e'}, C.related e e' →
      e'.memories.truth ⟨owner, n⟩ = e.memories.truth ⟨owner, n⟩)
    (branch : ∀ {e e'}, C.related e e' → ∀ {b}, b ≠ e.memories.truth ⟨owner, n⟩ →
      C.holds (modify (Engine.branch ⟨owner, n⟩ b)) (modify (Engine.branch ⟨owner, n⟩ b)) e e')
    (htest : C.Throughout (run.eval owner (n + 1) test) (run'.eval owner (n + 1) test))
    (honTrue : C.Throughout (run.eval owner (n + 1 + test.memories) onTrue)
      (run'.eval owner (n + 1 + test.memories) onTrue))
    (honFalse : C.Throughout (run.eval owner (n + 1 + test.memories + onTrue.memories) onFalse)
      (run'.eval owner (n + 1 + test.memories + onTrue.memories) onFalse)) :
    C.Throughout (run.eval owner n (.edgeIf test onTrue onFalse))
      (run'.eval owner n (.edgeIf test onTrue onFalse)) := by
  intro e e' hR
  simp only [Runner.eval]
  refine C.evalBind (htest hR) fun v _ _ hR => ?_
  refine C.evalBind (C.result _ hR) fun now _ _ hR => C.lookEval ?_
  rw [truth hR]
  split
  · exact C.pure _ hR
  · next hnow =>
    refine C.modifyEval (branch hR hnow) fun hR => ?_
    split
    · exact honTrue hR
    · exact honFalse hR

/-- **An `at` compares if its parts do**, and if what it watches is remembered under its number on both
sides, where it is the same. -/
theorem atChange {watch action : Expr}
    (seen : ∀ {e e'}, C.related e e' → e'.memories.seen ⟨owner, n⟩ = e.memories.seen ⟨owner, n⟩)
    (act : ∀ {e e'}, C.related e e' → ∀ {v},
      Value.sameOption (e.memories.seen ⟨owner, n⟩) (some v) = false →
      C.holds (modify (Engine.act ⟨owner, n⟩ v)) (modify (Engine.act ⟨owner, n⟩ v)) e e')
    (hwatch : C.Throughout (run.eval owner (n + 1) watch) (run'.eval owner (n + 1) watch))
    (haction : C.Throughout (run.eval owner (n + 1 + watch.memories) action)
      (run'.eval owner (n + 1 + watch.memories) action)) :
    C.Throughout (run.eval owner n (.atChange watch action))
      (run'.eval owner n (.atChange watch action)) := by
  intro e e' hR
  simp only [Runner.eval]
  refine C.evalBind (hwatch hR) fun v _ _ hR => C.lookEval ?_
  rw [seen hR]
  split
  · exact C.pure _ hR
  · next hseen =>
    refine C.modifyEval (act hR (Bool.eq_false_iff.mpr hseen)) fun hR => ?_
    exact haction hR

end Comparison

/-- **Two ways to run rules compare on all that a tree does besides remembering**: related engines show
a tree the same, and what it may read, set and call compares. -/
structure Runner.OnLeaves (C : Comparison) (maySet mayCall : String → Prop) (run run' : Runner) :
    Prop where
  value? : ∀ {e e'}, C.related e e' → ∀ name, e'.value? name = e.value? name
  touch : ∀ {e e'}, C.related e e' → ∀ name,
    C.holds (modify (Engine.touch name)) (modify (Engine.touch name)) e e'
  set : ∀ {name}, maySet name → ∀ v {e e'}, C.related e e' →
    C.holds (run.set name v) (run'.set name v) e e'
  call : ∀ {name}, mayCall name → ∀ args {e e'}, C.related e e' →
    C.holds (run.call name args).run (run'.call name args).run e e'

/-- **Two ways to run rules compare on forms** of an owner: on everything else that a tree does, and on
each of these forms, evaluated under the number that is given with it, as soon as they compare on its
parts. -/
structure Runner.OnForms (C : Comparison) (owner : Owner) (maySet mayCall : String → Prop)
    (fs : List (Nat × Expr)) (run run' : Runner) : Prop
    extends run.OnLeaves C maySet mayCall run' where
  edgeIf : ∀ {n test onTrue onFalse}, (n, .edgeIf test onTrue onFalse) ∈ fs →
    C.Throughout (run.eval owner (n + 1) test) (run'.eval owner (n + 1) test) →
    C.Throughout (run.eval owner (n + 1 + test.memories) onTrue)
      (run'.eval owner (n + 1 + test.memories) onTrue) →
    C.Throughout (run.eval owner (n + 1 + test.memories + onTrue.memories) onFalse)
      (run'.eval owner (n + 1 + test.memories + onTrue.memories) onFalse) →
    C.Throughout (run.eval owner n (.edgeIf test onTrue onFalse))
      (run'.eval owner n (.edgeIf test onTrue onFalse))
  atChange : ∀ {n watch action}, (n, .atChange watch action) ∈ fs →
    C.Throughout (run.eval owner (n + 1) watch) (run'.eval owner (n + 1) watch) →
    C.Throughout (run.eval owner (n + 1 + watch.memories) action)
      (run'.eval owner (n + 1 + watch.memories) action) →
    C.Throughout (run.eval owner n (.atChange watch action))
      (run'.eval owner n (.atChange watch action))

namespace Runner.OnLeaves

variable {C : Comparison} {maySet mayCall : String → Prop} {run run' : Runner}

theorem readSymbol (h : run.OnLeaves C maySet mayCall run') (name : String) :
    C.Throughout (Runner.readSymbol name) (Runner.readSymbol name) := by
  intro e e' hR
  unfold Runner.readSymbol
  refine C.modifyEval (h.touch hR name) fun htouched => C.lookEval ?_
  rw [h.value? htouched]
  split
  · exact C.pure _ htouched
  · exact C.pure _ htouched

theorem glob (h : run.OnLeaves C maySet mayCall run') (pattern : String) :
    C.Throughout (do return (← get).valuesOf pattern) (do return (← get).valuesOf pattern) := by
  intro e e' hR
  refine C.lookEval ?_
  rw [Engine.valuesOf, Engine.valuesOf, Engine.boundBy, Engine.boundBy,
    Engine.bound_eq (h.value? hR)]
  exact C.pure _ hR

end Runner.OnLeaves

namespace Runner.OnForms

variable {C : Comparison} {owner : Owner} {maySet mayCall : String → Prop}
  {fs : List (Nat × Expr)} {run run' : Runner}

mutual

/-- **Evaluating a tree compares** if evaluating its forms does, each of them under the number that it
is listed with. -/
theorem eval (h : run.OnForms C owner maySet mayCall fs run') (n : Nat) :
    ∀ (x : Expr), x.forms n ⊆ fs → (∀ name ∈ x.targets, maySet name) →
      (∀ name ∈ x.callees, mayCall name) → C.Throughout (run.eval owner n x) (run'.eval owner n x)
  | .const v, _, _, _, _, _, hR => C.pure _ hR
  | .var name, _, _, _, _, _, hR => h.readSymbol name hR
  | .glob pattern, _, _, _, _, _, hR => h.glob pattern hR
  | .assign target value, hforms, hset, hcall, _, _, hR => by
    simp only [Expr.targets, List.mem_cons, forall_eq_or_imp] at hset
    simp only [Expr.callees] at hcall
    simp only [Expr.forms] at hforms
    simp only [Runner.eval]
    refine C.evalBind (h.eval n value hforms hset.2 hcall hR) fun v _ _ hR => ?_
    exact C.lift (h.set hset.1 v hR) fun _ _ _ hR => C.pure _ hR
  | .binary op left right, hforms, hset, hcall, _, _, hR => by
    simp only [Expr.targets, List.mem_append, or_imp, forall_and] at hset
    simp only [Expr.callees, List.mem_append, or_imp, forall_and] at hcall
    simp only [Expr.forms, List.append_subset] at hforms
    simp only [Runner.eval]
    refine C.evalBind (h.eval n left hforms.1 hset.1 hcall.1 hR) fun l _ _ hR => ?_
    refine C.evalBind (h.eval _ right hforms.2 hset.2 hcall.2 hR) fun r _ _ hR => ?_
    exact C.result _ hR
  | .negate inner, hforms, hset, hcall, _, _, hR => by
    simp only [Expr.targets] at hset
    simp only [Expr.callees] at hcall
    simp only [Expr.forms] at hforms
    simp only [Runner.eval]
    exact C.evalBind (h.eval n inner hforms hset hcall hR) fun v _ _ hR => C.result _ hR
  | .seq first second, hforms, hset, hcall, _, _, hR => by
    simp only [Expr.targets, List.mem_append, or_imp, forall_and] at hset
    simp only [Expr.callees, List.mem_append, or_imp, forall_and] at hcall
    simp only [Expr.forms, List.append_subset] at hforms
    simp only [Runner.eval]
    refine C.evalBind (h.eval n first hforms.1 hset.1 hcall.1 hR) fun _ _ _ hR => ?_
    exact h.eval _ second hforms.2 hset.2 hcall.2 hR
  | .block stmts, hforms, hset, hcall, _, _, hR => by
    simp only [Expr.targets] at hset
    simp only [Expr.callees] at hcall
    simp only [Expr.forms] at hforms
    simp only [Runner.eval]
    exact h.evalBlock n .neutral stmts hforms hset hcall hR
  | .ifThen test branch, hforms, hset, hcall, _, _, hR => by
    simp only [Expr.targets, List.mem_append, or_imp, forall_and] at hset
    simp only [Expr.callees, List.mem_append, or_imp, forall_and] at hcall
    simp only [Expr.forms, List.append_subset] at hforms
    simp only [Runner.eval]
    refine C.evalBind (h.eval n test hforms.1 hset.1 hcall.1 hR) fun v _ _ hR => ?_
    refine C.evalBind (C.result _ hR) fun b _ _ hR => ?_
    split
    · exact h.eval _ branch hforms.2 hset.2 hcall.2 hR
    · exact C.pure _ hR
  | .ifThenElse test onTrue onFalse, hforms, hset, hcall, _, _, hR => by
    simp only [Expr.targets, List.mem_append, or_imp, forall_and] at hset
    simp only [Expr.callees, List.mem_append, or_imp, forall_and] at hcall
    simp only [Expr.forms, List.append_subset] at hforms
    simp only [Runner.eval]
    refine C.evalBind (h.eval n test hforms.1.1 hset.1.1 hcall.1.1 hR) fun v _ _ hR => ?_
    refine C.evalBind (C.result _ hR) fun b _ _ hR => ?_
    split
    · exact h.eval _ onTrue hforms.1.2 hset.1.2 hcall.1.2 hR
    · exact h.eval _ onFalse hforms.2 hset.2 hcall.2 hR
  | .edgeIf test onTrue onFalse, hforms, hset, hcall, _, _, hR => by
    simp only [Expr.targets, List.mem_append, or_imp, forall_and] at hset
    simp only [Expr.callees, List.mem_append, or_imp, forall_and] at hcall
    simp only [Expr.forms, List.cons_subset, List.append_subset] at hforms
    obtain ⟨hform, ⟨htest, honTrue⟩, honFalse⟩ := hforms
    refine h.edgeIf hform ?_ ?_ ?_ hR
    · exact h.eval (n + 1) test htest hset.1.1 hcall.1.1
    · exact h.eval _ onTrue honTrue hset.1.2 hcall.1.2
    · exact h.eval _ onFalse honFalse hset.2 hcall.2
  | .atChange watch action, hforms, hset, hcall, _, _, hR => by
    simp only [Expr.targets, List.mem_append, or_imp, forall_and] at hset
    simp only [Expr.callees, List.mem_append, or_imp, forall_and] at hcall
    simp only [Expr.forms, List.cons_subset, List.append_subset] at hforms
    obtain ⟨hform, hwatch, haction⟩ := hforms
    refine h.atChange hform ?_ ?_ hR
    · exact h.eval (n + 1) watch hwatch hset.1 hcall.1
    · exact h.eval _ action haction hset.2 hcall.2
  | .call name args, hforms, hset, hcall, _, _, hR => by
    simp only [Expr.targets] at hset
    simp only [Expr.callees, List.mem_cons, forall_eq_or_imp] at hcall
    simp only [Expr.forms] at hforms
    simp only [Runner.eval]
    refine C.evalBind (h.evalAll n args hforms hset hcall.2 hR) fun vs _ _ hR => ?_
    exact h.call hcall.1 vs hR

theorem evalBlock (h : run.OnForms C owner maySet mayCall fs run') (n : Nat) (last : Value) :
    ∀ (xs : List Expr), Expr.formsAll n xs ⊆ fs → (∀ name ∈ Expr.targetsAll xs, maySet name) →
      (∀ name ∈ Expr.calleesAll xs, mayCall name) →
        C.Throughout (run.evalBlock owner n last xs) (run'.evalBlock owner n last xs)
  | [], _, _, _, _, _, hR => C.pure _ hR
  | x :: xs, hforms, hset, hcall, _, _, hR => by
    simp only [Expr.targetsAll, List.mem_append, or_imp, forall_and] at hset
    simp only [Expr.calleesAll, List.mem_append, or_imp, forall_and] at hcall
    simp only [Expr.formsAll, List.append_subset] at hforms
    simp only [Runner.evalBlock]
    refine C.evalBind (h.eval n x hforms.1 hset.1 hcall.1 hR) fun v _ _ hR => ?_
    exact h.evalBlock _ v xs hforms.2 hset.2 hcall.2 hR

theorem evalAll (h : run.OnForms C owner maySet mayCall fs run') (n : Nat) :
    ∀ (xs : List Expr), Expr.formsAll n xs ⊆ fs → (∀ name ∈ Expr.targetsAll xs, maySet name) →
      (∀ name ∈ Expr.calleesAll xs, mayCall name) →
        C.Throughout (run.evalAll owner n xs) (run'.evalAll owner n xs)
  | [], _, _, _, _, _, hR => C.pure _ hR
  | x :: xs, hforms, hset, hcall, _, _, hR => by
    simp only [Expr.targetsAll, List.mem_append, or_imp, forall_and] at hset
    simp only [Expr.calleesAll, List.mem_append, or_imp, forall_and] at hcall
    simp only [Expr.formsAll, List.append_subset] at hforms
    simp only [Runner.evalAll]
    refine C.evalBind (h.eval n x hforms.1 hset.1 hcall.1 hR) fun v _ _ hR => ?_
    exact C.evalBind (h.evalAll _ xs hforms.2 hset.2 hcall.2 hR) fun vs _ _ hR => C.pure _ hR

end

end Runner.OnForms

/-- **Each form of a tree is evaluated under its listed number.** Whatever passes from the parts of an
action to the whole, and holds of what a tree does besides remembering, holds of the evaluation of the
tree as soon as it holds of that of each of its forms under the number that the form is listed with,
and under no other. -/
theorem Runner.OnLeaves.eval_of_forms {C : Comparison} {owner : Owner}
    {maySet mayCall : String → Prop} {run run' : Runner}
    (h : run.OnLeaves C maySet mayCall run') {n : Nat} {x : Expr}
    (hforms : ∀ p ∈ x.forms n, C.Throughout (run.eval owner p.1 p.2) (run'.eval owner p.1 p.2))
    (hset : ∀ name ∈ x.targets, maySet name) (hcall : ∀ name ∈ x.callees, mayCall name) :
    C.Throughout (run.eval owner n x) (run'.eval owner n x) := by
  have honForms : run.OnForms C owner maySet mayCall (x.forms n) run' :=
    ⟨h, fun hform _ _ _ => hforms _ hform, fun hform _ _ => hforms _ hform⟩
  intro e e' hR
  exact honForms.eval n x (List.Subset.refl _) hset hcall hR

/-- **Two ways to run rules compare on trees**: related engines show a tree the same, and what the
trees of an owner may do compares, as far as they assign to and call what they are allowed. -/
structure Runner.OnTrees (C : Comparison) (owner : Owner) (maySet mayCall : String → Prop)
    (run run' : Runner) : Prop extends run.OnLeaves C maySet mayCall run' where
  truth : ∀ {e e'}, C.related e e' → ∀ n,
    e'.memories.truth ⟨owner, n⟩ = e.memories.truth ⟨owner, n⟩
  seen : ∀ {e e'}, C.related e e' → ∀ n,
    e'.memories.seen ⟨owner, n⟩ = e.memories.seen ⟨owner, n⟩
  branch : ∀ {e e'}, C.related e e' → ∀ {n b}, b ≠ e.memories.truth ⟨owner, n⟩ →
    C.holds (modify (Engine.branch ⟨owner, n⟩ b)) (modify (Engine.branch ⟨owner, n⟩ b)) e e'
  act : ∀ {e e'}, C.related e e' → ∀ {n v},
    Value.sameOption (e.memories.seen ⟨owner, n⟩) (some v) = false →
    C.holds (modify (Engine.act ⟨owner, n⟩ v)) (modify (Engine.act ⟨owner, n⟩ v)) e e'

namespace Runner.OnTrees

variable {C : Comparison} {owner : Owner} {maySet mayCall : String → Prop} {run run' : Runner}

/-- To compare on trees is to compare on all forms, whatever their numbers. -/
theorem onForms (h : run.OnTrees C owner maySet mayCall run') (fs : List (Nat × Expr)) :
    run.OnForms C owner maySet mayCall fs run' where
  toOnLeaves := h.toOnLeaves
  edgeIf _ := C.edgeIf (fun hR => h.truth hR _) fun hR _ => h.branch hR
  atChange _ := C.atChange (fun hR => h.seen hR _) fun hR _ => h.act hR

/-- **Evaluating a tree compares**, whatever it is part of. -/
theorem eval (h : run.OnTrees C owner maySet mayCall run') (n : Nat) (x : Expr)
    (hset : ∀ name ∈ x.targets, maySet name) (hcall : ∀ name ∈ x.callees, mayCall name)
    {e e' : Engine} (hR : C.related e e') :
    C.holds (run.eval owner n x).run (run'.eval owner n x).run e e' :=
  (h.onForms (x.forms n)).eval n x (List.Subset.refl _) hset hcall hR

end Runner.OnTrees

/-! ## §4 Setting symbols -/

namespace Engine

/-- A symbol that changes keeps its observers. -/
theorem observers_changed (name : String) (v : Value) (e : Engine) :
    (e.changed name v).observers name = (e.symbolOf name).observers := by
  have hsymbol : (e.changed name v).symbols.get? name =
      some { e.symbolOf name with value := some v } := Table.get?_insert_self ..
  rw [observers, hsymbol]

end Engine

/-- **Setting a symbol**: if it changes, `%` takes its name, and then its observers are notified. -/
theorem run_set_eq (run : Runner) (name : String) (v : Value) (e : Engine) :
    (run.set name v).run e =
      if (e.symbolOf name).holds v then ((), e.touch name)
      else if name = Symbol.lastChanged then ((), e.changed name v)
      else
        ((e.symbolOf name).observers.forM run.notify).run
          ((e.changed name v).store Symbol.lastChanged (.string name)).2 := by
  have hread : (run.set name v).run e =
      (if (e.store name v).1 then
        if name ≠ Symbol.lastChanged then do
          let observers := (← get).observers name
          let _ ← modifyGet (Engine.store Symbol.lastChanged (.string name))
          observers.forM run.notify
        else return ()
      else return () : Act Unit).run (e.store name v).2 := rfl
  rw [hread, Engine.store_eq]
  by_cases hholds : (e.symbolOf name).holds v = true
  · rw [if_pos hholds, if_pos hholds]
    rfl
  · rw [if_neg hholds, if_neg hholds, if_pos rfl, ← Engine.observers_changed name v e]
    by_cases hlast : name = Symbol.lastChanged
    · rw [if_neg fun hne : name ≠ _ => hne hlast, if_pos hlast]
      rfl
    · rw [if_pos hlast, if_neg hlast]
      rfl

/-- Storing a value, as an action that looks at the engine first. -/
theorem Engine.modify_store (name : String) (v : Value) :
    (modify fun e : Engine => (e.store name v).2 : Act Unit) = (do
      if ((← get).symbolOf name).holds v then modify (Engine.touch name)
      else modify (Engine.changed name v)) := by
  refine funext fun e => ?_
  show ((), (e.store name v).2) =
    (if (e.symbolOf name).holds v then modify (Engine.touch name)
      else modify (Engine.changed name v) : Act Unit).run e
  rw [Engine.store_eq]
  split <;> rfl

/-- Setting a symbol, as an action that looks at the engine first. -/
theorem Runner.set_eq (run : Runner) (name : String) (v : Value) :
    run.set name v = (do
      let e ← get
      if (e.symbolOf name).holds v then modify (Engine.touch name)
      else if name = Symbol.lastChanged then modify (Engine.changed name v)
      else do
        modify (Engine.changed name v)
        modify fun e => (e.store Symbol.lastChanged (.string name)).2
        (e.symbolOf name).observers.forM run.notify) := by
  refine funext fun e => (run_set_eq run name v e).trans ?_
  show _ = (if (e.symbolOf name).holds v then modify (Engine.touch name)
      else if name = Symbol.lastChanged then modify (Engine.changed name v)
      else do
        modify (Engine.changed name v)
        modify fun e => (e.store Symbol.lastChanged (.string name)).2
        (e.symbolOf name).observers.forM run.notify : Act Unit).run e
  split
  · rfl
  · split <;> rfl

/-- **Setting a symbol compares** where becoming a symbol, changing and notifying do. -/
theorem Comparison.set {C : Comparison} {run run' : Runner}
    (value? : ∀ {e e'}, C.related e e' → ∀ name, e'.value? name = e.value? name)
    (touch : ∀ {e e'}, C.related e e' → ∀ name,
      C.holds (modify (Engine.touch name)) (modify (Engine.touch name)) e e')
    (changed : ∀ {e e'}, C.related e e' → ∀ name v,
      C.holds (modify (Engine.changed name v)) (modify (Engine.changed name v)) e e')
    (serve : ∀ {e e'}, C.related e e' → ∀ name {m m'}, C.related m m' →
      C.holds ((e.symbolOf name).observers.forM run.notify)
        ((e'.symbolOf name).observers.forM run'.notify) m m')
    (name : String) (v : Value) {e e' : Engine} (h : C.related e e') :
    C.holds (run.set name v) (run'.set name v) e e' := by
  -- a value that one of the symbols holds the other holds too
  have hholds : ∀ {e e'}, C.related e e' → ∀ name v,
      (e'.symbolOf name).holds v = (e.symbolOf name).holds v := by
    intro e e' h name v
    rw [Symbol.holds, Symbol.holds, Engine.symbolOf_value, Engine.symbolOf_value, value? h]
  have hstore : ∀ {e e'}, C.related e e' → ∀ name v,
      C.holds (modify fun e => (e.store name v).2) (modify fun e => (e.store name v).2) e e' := by
    intro e e' h name v
    rw [Engine.modify_store]
    refine C.look ?_
    rw [hholds h]
    split
    · exact touch h name
    · exact changed h name v
  rw [Runner.set_eq, Runner.set_eq]
  refine C.look ?_
  rw [hholds h]
  split
  · exact touch h name
  · split
    · exact changed h name v
    · refine C.bind (changed h name v) fun _ _ _ hnow => ?_
      exact C.bind (hstore hnow _ _) fun _ _ _ hmarked => serve h name hmarked

/-! ## §5 Lines of data -/

/-- A hit binds what one of the triggers has captured and runs its rule. -/
theorem Trigger.exists_of_firstHit? {triggers : List Trigger} {line : String} {hit : Hit}
    (h : Trigger.firstHit? triggers line = some hit) :
    ∃ t ∈ triggers, ∃ c, hit = ⟨Trigger.bindings t.pattern c, t.rule⟩ := by
  obtain ⟨t, ht, hhit⟩ := List.exists_of_findSome?_eq_some h
  obtain ⟨c, -, rfl⟩ := Option.map_eq_some_iff.mp hhit
  exact ⟨t, ht, c, rfl⟩

/-- **Two ways to run rules compare on data**: related engines have the same triggers, and setting
the symbols and running the rules that are allowed compares. -/
structure Runner.OnData (C : Comparison) (maySet : String → Prop) (mayFire : RuleId → Prop)
    (run run' : Runner) : Prop where
  triggers : ∀ {e e'}, C.related e e' → e'.triggers = e.triggers
  allowed : ∀ {e e'}, C.related e e' → ∀ t ∈ e.triggers, t.pattern.Writes maySet ∧ mayFire t.rule
  remark : ∀ {e e'}, C.related e e' → ∀ {event}, Event.isRemark event = true →
    C.holds (record event) (record event) e e'
  set : ∀ {name}, maySet name → ∀ v {e e'}, C.related e e' →
    C.holds (run.set name v) (run'.set name v) e e'
  fire : ∀ {id}, mayFire id → ∀ {e e'}, C.related e e' → C.holds (run.fire id) (run'.fire id) e e'

namespace Runner.OnData

variable {C : Comparison} {maySet : String → Prop} {mayFire : RuleId → Prop} {run run' : Runner}
  {e e' : Engine}

/-- Setting several symbols compares if each may be set. -/
theorem setAll (h : run.OnData C maySet mayFire run') {bindings : List (String × Value)}
    (hbindings : ∀ b ∈ bindings, maySet b.1) (hR : C.related e e') :
    C.holds (run.setAll bindings) (run'.setAll bindings) e e' := by
  induction bindings generalizing e e' with
  | nil => exact C.pure _ hR
  | cons b bindings ih =>
    obtain ⟨hfirst, hrest⟩ := List.forall_mem_cons.mp hbindings
    exact C.bind (h.set hfirst b.2 hR) fun _ _ _ hR => ih hrest hR

theorem feedContent (h : run.OnData C maySet mayFire run') {content : String}
    (hkey : ∀ {name text}, Line.assignment? content = some (name, text) → maySet name)
    (hR : C.related e e') :
    C.holds (run.feedContent content) (run'.feedContent content) e e' := by
  unfold Runner.feedContent
  refine C.look ?_
  rw [h.triggers hR]
  split
  · next hit hhit =>
    obtain ⟨t, ht, c, rfl⟩ := Trigger.exists_of_firstHit? hhit
    obtain ⟨hwrites, hfire⟩ := h.allowed hR t ht
    exact C.bind (h.setAll (hwrites c) hR) fun _ _ _ hR => h.fire hfire hR
  · split
    · next hassign => exact h.set (hkey hassign) _ hR
    · exact h.remark hR rfl

/-- **Feeding a line of data compares.** -/
theorem feedData (h : run.OnData C maySet mayFire run') {line : String}
    (hline : Line.Writes maySet line) (hR : C.related e e') :
    C.holds (run.feedData line) (run'.feedData line) e e' := by
  unfold Line.Writes at hline
  unfold Runner.feedData
  split
  · exact C.pure _ hR
  · next hread =>
    rw [hread] at hline
    exact h.feedContent hline hR
  · exact h.remark hR rfl

end Runner.OnData

/-! ## §6 Native functions -/

/-- **Two ways to run rules compare on all that a native function asks for**, calls of other functions
apart, as far as it writes the symbols that it may. -/
structure Runner.OnRequests (C : Comparison) (maySet : String → Prop) (run run' : Runner) :
    Prop extends run.OnData C maySet (fun _ => True) run' where
  value? : ∀ {e e'}, C.related e e' → ∀ name, e'.value? name = e.value? name
  functions : ∀ {e e'}, C.related e e' → e'.functions = e.functions
  writes : ∀ {e e'}, C.related e e' → ∀ {name f}, e.functions.get? name = some f →
    Native.Writes maySet f.function
  touch : ∀ {e e'}, C.related e e' → ∀ name,
    C.holds (modify (Engine.touch name)) (modify (Engine.touch name)) e e'
  count : ∀ {e e'}, C.related e e' → ∀ {name f}, e.functions.get? name = some f →
    C.holds (modify (Engine.countCall name f)) (modify (Engine.countCall name f)) e e'
  define : ∀ {e e'}, C.related e e' → ∀ key {source}, SourceWrites maySet source →
    C.holds (modifyGet (Engine.define key source)) (modifyGet (Engine.define key source)) e e'
  remove : ∀ {e e'}, C.related e e' → ∀ key,
    C.holds (modifyGet (Engine.remove key)) (modifyGet (Engine.remove key)) e e'
  defineTrigger : ∀ {e e'}, C.related e e' → ∀ {pattern source},
    PatternWrites maySet pattern ∧ SourceWrites maySet source →
    C.holds (modifyGet (Engine.defineTrigger pattern source))
      (modifyGet (Engine.defineTrigger pattern source)) e e'
  ask : ∀ {e e'}, C.related e e' → ∀ id, C.holds (run.ask id) (run'.ask id) e e'

namespace Runner.OnRequests

variable {C : Comparison} {maySet : String → Prop} {run run' : Runner} {inner inner' : Caller}
  {e e' : Engine}

theorem tryFeed (h : run.OnRequests C maySet run') {line : String}
    (hline : Line.Writes maySet line) (hR : C.related e e') :
    C.holds (run.tryFeed line) (run'.tryFeed line) e e' := by
  unfold Line.Writes at hline
  unfold Runner.tryFeed
  split
  · exact C.pure _ hR
  · next hread =>
    rw [hread] at hline
    exact C.bind (h.define hR _ hline) fun _ _ _ hR => C.pure _ hR
  · exact h.remove hR _
  · next hread =>
    rw [hread] at hline
    exact C.bind (h.defineTrigger hR hline) fun _ _ _ hR => C.pure _ hR
  · exact C.pure _ hR
  · next hread =>
    rw [hread] at hline
    exact C.bind (h.feedContent hline hR) fun _ _ _ hR => C.pure _ hR

/-- **Feeding a line compares**, whatever it is for. -/
theorem feed (h : run.OnRequests C maySet run') {line : String} (hline : Line.Writes maySet line)
    (hR : C.related e e') : C.holds (run.feed line) (run'.feed line) e e' := by
  refine C.bind (h.tryFeed hline hR) fun answer _ _ hR => ?_
  cases answer with
  | ok => exact C.pure _ hR
  | error error => exact h.remark hR rfl

/-- **What a native function asks for compares** if it makes no calls, or if calls compare. -/
theorem perform (h : run.OnRequests C maySet run') {call : HostCall} (hwrites : call.Writes maySet)
    (hcall : call.CallFree ∨ ∀ name args {e e'}, C.related e e' →
      C.holds (inner name args).run (inner' name args).run e e')
    (hR : C.related e e') :
    C.holds (run.perform inner call).run (run'.perform inner' call).run e e' := by
  -- each request is an action that compares, and what comes after it compares by induction
  induction call generalizing e e' with
  | answer result =>
    cases result with
    | ok v => exact C.pure _ hR
    | error error => exact C.pure _ hR
  | print line next ih => exact C.lift (h.remark hR rfl) fun _ _ _ hR => ih hwrites hcall hR
  | note text next ih => exact C.lift (h.remark hR rfl) fun _ _ _ hR => ih hwrites hcall hR
  | report text next ih => exact C.lift (h.remark hR rfl) fun _ _ _ hR => ih hwrites hcall hR
  | look next ih =>
    refine C.lookEval ?_
    rw [Engine.bound_eq (h.value? hR)]
    exact ih e.bound (hwrites _) (hcall.imp_left (· _)) hR
  | read name next ih =>
    refine C.modifyEval (h.touch hR name) fun {e e'} hR => C.lookEval ?_
    rw [h.value? hR]
    exact ih (e.value? name) (hwrites _) (hcall.imp_left (· _)) hR
  | set name v next ih =>
    exact C.lift (h.set hwrites.1 v hR) fun _ _ _ hR => ih hwrites.2 hcall hR
  | feed line next ih =>
    exact C.lift (h.tryFeed hwrites.1 hR) fun r _ _ hR =>
      ih r (hwrites.2 r) (hcall.imp_left (· _)) hR
  | submit line next ih =>
    exact C.lift (h.feed hwrites.1 hR) fun _ _ _ hR => ih hwrites.2 hcall hR
  | feedData line next ih =>
    exact C.lift (h.feedData hwrites.1 hR) fun _ _ _ hR => ih hwrites.2 hcall hR
  | define key source next ih =>
    exact C.lift (h.define hR key hwrites.1) fun r _ _ hR =>
      ih r (hwrites.2 r) (hcall.imp_left (· _)) hR
  | remove key next ih =>
    exact C.lift (h.remove hR key) fun r _ _ hR => ih r (hwrites r) (hcall.imp_left (· _)) hR
  | defineTrigger pattern source next ih =>
    exact C.lift (h.defineTrigger hR hwrites.1) fun r _ _ hR =>
      ih r (hwrites.2 r) (hcall.imp_left (· _)) hR
  | run id next ih =>
    exact C.lift (h.ask hR id) fun r _ _ hR => ih r (hwrites r) (hcall.imp_left (· _)) hR
  | call name args next ih =>
    rcases hcall with hfree | hcall
    · exact hfree.elim
    · exact C.lift (hcall name args hR) fun r _ _ hR => ih r (hwrites r) (.inr hcall) hR

theorem callWith (h : run.OnRequests C maySet run') (name : String) (args : List Value)
    (hcall : e.CallFree ∨ ∀ name args {e e'}, C.related e e' →
      C.holds (inner name args).run (inner' name args).run e e')
    (hR : C.related e e') :
    C.holds (run.callWith inner name args).run (run'.callWith inner' name args).run e e' := by
  unfold Runner.callWith
  refine C.lookEval ?_
  rw [h.functions hR]
  split
  · exact C.pure _ hR
  · next f hf =>
    have hwrites : Native.Writes maySet f.function := h.writes hR hf
    refine C.modifyEval (h.count hR hf) fun hR => h.perform (hwrites _ _) ?_ hR
    exact hcall.imp_left fun hfree => hfree name f hf _ _

/-- **Calls compare** however deep calls of functions by functions may nest, if there are none or to
find no room for one compares. -/
theorem caller (h : run.OnRequests C maySet run')
    (hcrowd : (∀ {e e'}, C.related e e' → e.CallFree) ∨ ∀ name {e e'}, C.related e e' →
      C.holds (record (.crowded name)) (record (.crowded name)) e e')
    (room : Nat) (name : String) (args : List Value) (hR : C.related e e') :
    C.holds (run.caller room name args).run (run'.caller room name args).run e e' := by
  induction room generalizing name args e e' with
  | zero =>
    refine h.callWith name args ?_ hR
    rcases hcrowd with hfree | hcrowd
    · exact .inl (hfree hR)
    · exact .inr fun name _ _ _ hR => C.lift (hcrowd name hR) fun _ _ _ hR => C.pure _ hR
  | succ room ih => exact h.callWith name args (.inr fun name args _ _ hR => ih name args hR) hR

end Runner.OnRequests

end Cascade
