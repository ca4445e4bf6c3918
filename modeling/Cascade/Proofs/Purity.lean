import Cascade.Proofs.Agreement
import Cascade.Proofs.Glob

/-!
# Trees that only read

A tree without assignments, calls and remembering forms leaves an engine as it is, but that names
become symbols by being read: symbols that are not set, subscribed to by the rules with a matching
pattern. What the tree comes to is told by the values of the symbols that its dependencies cover: two
engines that look the same there give the same, whoever owns the tree and however rules are run.

§1 pure trees; §2 engines that look the same; §3 evaluations told by the view; §4 pure trees are;
§5 what a pure tree reads and leaves.
-/

namespace Cascade

/-! ## §1 Pure trees -/

namespace Expr

mutual

/-- **Has the tree no assignment, no call and no remembering form?** -/
def isPure : Expr → Bool
  | const _ | var _ | glob _ => true
  | assign _ _ | edgeIf _ _ _ | atChange _ _ | call _ _ => false
  | binary _ left right => isPure left && isPure right
  | negate inner => isPure inner
  | seq first second => isPure first && isPure second
  | block stmts => arePure stmts
  | ifThen test branch => isPure test && isPure branch
  | ifThenElse test onTrue onFalse => isPure test && isPure onTrue && isPure onFalse

/-- Are all the trees so? -/
def arePure : List Expr → Bool
  | [] => true
  | e :: es => isPure e && arePure es

end

end Expr

namespace Engine

/-! ## §2 Engines that look the same -/

/-- **Names have become symbols at most**, each of them not set and observed by the rules with a
pattern that covers it. -/
structure Spoken (e e' : Engine) : Prop where
  frame : e' = { e with symbols := e'.symbols }
  symbol? : ∀ name, e'.symbols.get? name = e.symbols.get? name ∨ e.symbols.get? name = none ∧
    e'.symbols.get? name = some (Symbol.fresh.observeAll (e.subscribers name))

namespace Spoken

variable {a b c : Engine}

theorem refl (e : Engine) : Spoken e e := ⟨rfl, fun _ => Or.inl rfl⟩

theorem subscribers (h : Spoken a b) (name : String) : b.subscribers name = a.subscribers name := by
  rw [h.frame]
  rfl

theorem value? (h : Spoken a b) (name : String) : b.value? name = a.value? name := by
  unfold Engine.value?
  rcases h.symbol? name with hsame | ⟨hnone, hnew⟩
  · rw [hsame]
  · rw [hnone, hnew, Option.bind_some, Symbol.observeAll_value]
    rfl

theorem trans (hab : Spoken a b) (hbc : Spoken b c) : Spoken a c := by
  refine ⟨by rw [hbc.frame, hab.frame], fun name => ?_⟩
  have hfirst := hab.symbol? name
  rcases hbc.symbol? name with hsame | ⟨hnone, hnew⟩
  · rwa [hsame]
  · -- what is no symbol in between is none at the start, and has the same subscribers
    rw [hnone] at hfirst
    rw [hab.subscribers] at hnew
    rcases hfirst with hstart | ⟨-, hsome⟩
    · exact Or.inr ⟨hstart.symm, hnew⟩
    · cases hsome

theorem touch (name : String) (e : Engine) : Spoken e (e.touch name) := by
  refine ⟨rfl, fun other => ?_⟩
  rw [Engine.touch, Table.get?_insert]
  split
  · next heq =>
    subst heq
    unfold symbolOf
    cases hsymbol : e.symbols.get? other with
    | none => exact Or.inr ⟨rfl, rfl⟩
    | some s => exact Or.inl rfl
  · exact Or.inl rfl

end Spoken

/-- **Two engines look the same** where the dependencies cover. -/
def SameView (ds : List String) (e e' : Engine) : Prop :=
  ∀ name, (∃ d ∈ ds, Glob.covers d name = true) → e'.value? name = e.value? name

/-- Names that become symbols are not seen. -/
theorem SameView.spoken {ds : List String} {a a' b b' : Engine} (h : SameView ds a b)
    (ha : Spoken a a') (hb : Spoken b b') : SameView ds a' b' := by
  intro name hname
  rw [hb.value?, ha.value?]
  exact h name hname

/-! ### What a pattern sees -/

/-- **A pattern sees the same** where it covers. -/
theorem valuesOf_eq {ds : List String} {e e' : Engine} (h : SameView ds e e') {pattern : String}
    (hpattern : pattern ∈ ds) : e'.valuesOf pattern = e.valuesOf pattern := by
  have hbound : e'.boundBy pattern = e.boundBy pattern := by
    unfold boundBy
    refine Table.entries_ext ((pairwise_bound e').filter _) ((pairwise_bound e).filter _) ?_
    rintro ⟨name, v⟩
    simp only [List.mem_filter, mem_bound, and_congr_left_iff]
    intro hcover
    -- only covered names pass the filter, and there the view is the same
    rw [h name ⟨pattern, hpattern, hcover⟩]
  rw [valuesOf, valuesOf, hbound]

end Engine

/-! ## §3 Evaluations told by the view -/

open Engine

/-- **Two evaluations come to the same on engines that look the same**, and only speak of names. -/
def ViewOnly (ds : List String) (x y : Eval α) : Prop :=
  ∀ e e', SameView ds e e' → (x.run.run e).1 = (y.run.run e').1 ∧
    Spoken e (x.run.run e).2 ∧ Spoken e' (y.run.run e').2

namespace ViewOnly

variable {ds : List String}

theorem pure (a : α) : ViewOnly ds (Pure.pure a : Eval α) (Pure.pure a) :=
  fun _ _ _ => ⟨rfl, .refl _, .refl _⟩

theorem result (r : Except EvalError α) : ViewOnly ds (liftM r : Eval α) (liftM r) := by
  cases r with
  | ok a => exact pure a
  | error error => exact fun _ _ _ => ⟨rfl, .refl _, .refl _⟩

theorem bind {x y : Eval α} {f g : α → Eval β} (h : ViewOnly ds x y)
    (hnext : ∀ a, ViewOnly ds (f a) (g a)) : ViewOnly ds (x >>= f) (y >>= g) := by
  intro e e' hview
  have hx : (x >>= f).run.run e = (ExceptT.bindCont f (x.run.run e).1).run (x.run.run e).2 := rfl
  have hy : (y >>= g).run.run e' = (ExceptT.bindCont g (y.run.run e').1).run (y.run.run e').2 := rfl
  obtain ⟨hsame, hspoken, hspoken'⟩ := h e e' hview
  rw [hx, hy, ← hsame]
  cases (x.run.run e).1 with
  | error error => exact ⟨rfl, hspoken, hspoken'⟩
  | ok a =>
    obtain ⟨hsame, hnext, hnext'⟩ := hnext a _ _ (hview.spoken hspoken hspoken')
    exact ⟨hsame, hspoken.trans hnext, hspoken'.trans hnext'⟩

theorem readSymbol {name : String} (hname : name ∈ ds) :
    ViewOnly ds (Runner.readSymbol name) (Runner.readSymbol name) := by
  intro e e' hview
  have hvalue : e'.value? name = e.value? name := hview name ⟨name, hname, Glob.covers_self name⟩
  unfold Runner.readSymbol
  rw [run_modify, run_look, run_modify, run_look, value?_touch, value?_touch, hvalue]
  cases e.value? name with
  | none => exact ⟨rfl, .touch name e, .touch name e'⟩
  | some v => exact ⟨rfl, .touch name e, .touch name e'⟩

theorem glob {pattern : String} (hpattern : pattern ∈ ds) :
    ViewOnly ds (do return (← get).valuesOf pattern) (do return (← get).valuesOf pattern) := by
  intro e e' hview
  have hseen : e'.valuesOf pattern = e.valuesOf pattern := valuesOf_eq hview hpattern
  exact ⟨congrArg Except.ok hseen.symm, .refl _, .refl _⟩

end ViewOnly

/-! ## §4 Pure trees -/

namespace Runner

mutual

/-- **What a pure tree comes to is told by the view** of what it reads. -/
theorem eval_viewOnly {ds : List String} (run run' : Runner) (owner owner' : Owner) (n n' : Nat) :
    ∀ (x : Expr), x.isPure = true → (∀ d ∈ x.reads, d ∈ ds) →
      ViewOnly ds (run.eval owner n x) (run'.eval owner' n' x)
  | .const v, _, _ => .pure v
  | .var name, _, hreads => .readSymbol (hreads name (List.mem_singleton_self name))
  | .glob pattern, _, hreads => .glob (hreads pattern (List.mem_singleton_self pattern))
  | .binary op left right, hpure, hreads => by
    simp only [Expr.isPure, Bool.and_eq_true] at hpure
    simp only [Expr.reads, List.mem_append, or_imp, forall_and] at hreads
    simp only [Runner.eval]
    refine .bind (eval_viewOnly run run' owner owner' n n' left hpure.1 hreads.1) fun l => ?_
    exact .bind (eval_viewOnly run run' owner owner' _ _ right hpure.2 hreads.2) fun r => .result _
  | .negate inner, hpure, hreads => by
    simp only [Expr.isPure] at hpure
    simp only [Expr.reads] at hreads
    simp only [Runner.eval]
    exact .bind (eval_viewOnly run run' owner owner' n n' inner hpure hreads) fun v => .result _
  | .seq first second, hpure, hreads => by
    simp only [Expr.isPure, Bool.and_eq_true] at hpure
    simp only [Expr.reads, List.mem_append, or_imp, forall_and] at hreads
    simp only [Runner.eval]
    refine .bind (eval_viewOnly run run' owner owner' n n' first hpure.1 hreads.1) fun _ => ?_
    exact eval_viewOnly run run' owner owner' _ _ second hpure.2 hreads.2
  | .block stmts, hpure, hreads => by
    simp only [Expr.isPure] at hpure
    simp only [Expr.reads] at hreads
    simp only [Runner.eval]
    exact evalBlock_viewOnly run run' owner owner' n n' .neutral stmts hpure hreads
  | .ifThen test branch, hpure, hreads => by
    simp only [Expr.isPure, Bool.and_eq_true] at hpure
    simp only [Expr.reads, List.mem_append, or_imp, forall_and] at hreads
    simp only [Runner.eval]
    refine .bind (eval_viewOnly run run' owner owner' n n' test hpure.1 hreads.1) fun v => ?_
    refine .bind (.result _) fun b => ?_
    split
    · exact eval_viewOnly run run' owner owner' _ _ branch hpure.2 hreads.2
    · exact .pure _
  | .ifThenElse test onTrue onFalse, hpure, hreads => by
    simp only [Expr.isPure, Bool.and_eq_true] at hpure
    simp only [Expr.reads, List.mem_append, or_imp, forall_and] at hreads
    simp only [Runner.eval]
    refine .bind (eval_viewOnly run run' owner owner' n n' test hpure.1.1 hreads.1.1) fun v => ?_
    refine .bind (.result _) fun b => ?_
    split
    · exact eval_viewOnly run run' owner owner' _ _ onTrue hpure.1.2 hreads.1.2
    · exact eval_viewOnly run run' owner owner' _ _ onFalse hpure.2 hreads.2

theorem evalBlock_viewOnly {ds : List String} (run run' : Runner) (owner owner' : Owner)
    (n n' : Nat) (last : Value) :
    ∀ (xs : List Expr), Expr.arePure xs = true → (∀ d ∈ Expr.readsAll xs, d ∈ ds) →
      ViewOnly ds (run.evalBlock owner n last xs) (run'.evalBlock owner' n' last xs)
  | [], _, _ => .pure last
  | x :: xs, hpure, hreads => by
    simp only [Expr.arePure, Bool.and_eq_true] at hpure
    simp only [Expr.readsAll, List.mem_append, or_imp, forall_and] at hreads
    simp only [Runner.evalBlock]
    refine .bind (eval_viewOnly run run' owner owner' n n' x hpure.1 hreads.1) fun v => ?_
    exact evalBlock_viewOnly run run' owner owner' _ _ v xs hpure.2 hreads.2

end

end Runner

/-! ## §5 What a pure tree reads and leaves -/

/-- **A pure tree reads its dependencies only and writes nothing.** On two engines with the same values
under the names that its dependencies cover it comes to the same value or the same error, whatever a run
of a rule does; and on each of them nothing has happened, no value has changed, and new symbols are
those that reading a name makes. -/
theorem pure_reads_dependencies {x : Expr} (hpure : x.isPure = true) {e e' : Engine}
    (hview : SameView x.dependencies e e') (run run' : Runner) (owner owner' : Owner) (n n' : Nat) :
    ((run.eval owner n x).run.run e).1 = ((run'.eval owner' n' x).run.run e').1 ∧
      Spoken e ((run.eval owner n x).run.run e).2 ∧
      Spoken e' ((run'.eval owner' n' x).run.run e').2 :=
  Runner.eval_viewOnly run run' owner owner' n n' x hpure
    (fun _ hd => Expr.mem_dependencies.mpr hd) e e' hview

/-- A tree with a pattern and a missing name fails in the same way on an engine in which another symbol
has changed. The name becomes a symbol with the rule that waits for it. -/
theorem missing_name_read :
    let x : Expr := .seq (.glob "b*") (.negate (.var "missing"))
    let e : Engine := { Engine.bare .standard with wildcards := [("m*", ⟨0⟩)] }
    let e' : Engine := e.changed "z" (.int 2)
    let outcome := ((runner 1).eval .query 0 x).run.run e
    let outcome' := ((runner 1).eval .query 0 x).run.run e'
    x.isPure = true ∧ SameView x.dependencies e e' ∧
      outcome.1 = .error (.undefinedSymbol "missing") ∧ outcome'.1 = outcome.1 ∧
      outcome'.2.symbols.get? "missing" = some ⟨none, [⟨0⟩]⟩ ∧
      outcome'.2.journal = e'.journal := by
  intro x e e' outcome outcome'
  have hpure : x.isPure = true := rfl
  have hunread : ∀ d ∈ x.dependencies, Glob.covers d "z" = false := by decide
  have hview : SameView x.dependencies e e' := by
    rintro name ⟨d, hd, hcover⟩
    have hother : name ≠ "z" := by
      rintro rfl
      exact Bool.false_ne_true ((hunread d hd).symm.trans hcover)
    rw [value?_changed, if_neg hother]
  obtain ⟨hsame, -, hspoken⟩ :=
    pure_reads_dependencies hpure hview (runner 1) (runner 1) .query .query 0 0
  have hquiet : outcome'.2.journal = e'.journal := by
    show (((runner 1).eval .query 0 x).run.run e').2.journal = e'.journal
    rw [hspoken.frame]
  exact ⟨hpure, hview, rfl, hsame.symm, rfl, hquiet⟩

end Cascade
