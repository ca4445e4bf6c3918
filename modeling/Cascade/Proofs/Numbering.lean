import Cascade.Proofs.Forms
import Cascade.Proofs.Identity
import Cascade.Proofs.Watching

/-!
# What starts under a number

The journal tells the start of a form by the identity of a rule and a number. The tree of a rule is
evaluated under the identity of the rule, each form of it under the number that it is listed with, and
nothing else starts under an identity. So what is told under a number is told of the one form of the
rule's tree that has the number, however runs, definitions and native functions nest, and what is known
of an `edge_if` or an `at` by its number is known of that form.

§1 trees stay as they are; §2 starts of listed forms; §3 ways to run rules; §4 all levels, operations
and histories.
-/

namespace Cascade

namespace Engine

/-! ## §1 Trees stay as they are -/

/-- **Of the rules that were there at the start** those that are still there have the trees that they
had. -/
structure Since (start e : Engine) : Prop where
  size : start.rules.size ≤ e.rules.size
  tree : ∀ {id r}, id.slot < start.rules.size → e.rules.get? id = some r →
    ∃ old, start.rules.get? id = some old ∧ old.body = r.body

namespace Since

variable {start e e' : Engine}

theorem of_rules (hrules : e'.rules = e.rules) : Since e e' := by
  refine ⟨Nat.le_of_eq (congrArg Rules.size hrules.symm), fun {id r} _ hr => ⟨r, ?_, rfl⟩⟩
  rwa [← hrules]

theorem refl (e : Engine) : Since e e := of_rules rfl

theorem trans (h : Since start e) (h' : Since e e') : Since start e' := by
  refine ⟨Nat.le_trans h.size h'.size, fun {id r} hid hr => ?_⟩
  obtain ⟨between, hbetween, hbody'⟩ := h'.tree (Nat.lt_of_lt_of_le hid h.size) hr
  obtain ⟨old, hold, hbody⟩ := h.tree hid hbetween
  exact ⟨old, hold, hbody.trans hbody'⟩

theorem same (h : Since start e) (hrules : e'.rules = e.rules) : Since start e' :=
  h.trans (of_rules hrules)

/-- **A move leaves the trees as they are.** -/
theorem of_move (hmove : Move e e') : Since e e' := by
  refine ⟨hmove.size_le, fun {id r} hid hr => ?_⟩
  rcases hmove.get? hr with hold | rfl
  · exact hold
  · exact absurd hid (Nat.lt_irrefl _)

end Since

end Engine

/-! ## §2 Starts of listed forms -/

/-- **A form starts what an event tells**: an `edge_if` its branches, and an `at` its actions. -/
def Event.IsStartOf (f : Expr) : Event → Prop
  | .branched _ _ => ∃ test onTrue onFalse, f = .edgeIf test onTrue onFalse
  | .acted _ _ => ∃ watch action, f = .atChange watch action
  | _ => False

namespace Engine

/-- **What is told of a rule is told of the forms of its tree**, each under the number that it is listed
with. -/
structure Listed (e : Engine) : Prop where
  known : ∀ {event id k}, event ∈ e.journal → event.form? = some ⟨.rule id, k⟩ →
    id.slot < e.rules.size
  form : ∀ {event id k r}, event ∈ e.journal → event.form? = some ⟨.rule id, k⟩ →
    e.rules.get? id = some r → ∃ f, (k, f) ∈ r.body.forms 0 ∧ event.IsStartOf f

namespace Listed

variable {start e e' : Engine}

/-- Nothing more is told of rules. -/
theorem of_since (h : e.Listed) (hsince : Since e e')
    (hjournal : ∀ {event id k}, event ∈ e'.journal → event.form? = some ⟨.rule id, k⟩ →
      event ∈ e.journal) : e'.Listed where
  known hmem hform := Nat.lt_of_lt_of_le (h.known (hjournal hmem hform) hform) hsince.size
  form hmem hform hr := by
    have hbefore := hjournal hmem hform
    obtain ⟨old, hold, hbody⟩ := hsince.tree (h.known hbefore hform) hr
    rw [← hbody]
    exact h.form hbefore hform hold

theorem of_same (h : e.Listed) (hsince : Since e e') (hjournal : e'.journal = e.journal) :
    e'.Listed := by
  refine h.of_since hsince fun hmem _ => ?_
  rwa [← hjournal]

/-- One more event, by which no form of a rule starts. -/
theorem of_cons (h : e.Listed) (hsince : Since e e') {event : Event}
    (hevent : ∀ id k, event.form? ≠ some ⟨.rule id, k⟩) (hjournal : e'.journal = event :: e.journal) :
    e'.Listed := by
  refine h.of_since hsince fun {other id k} hmem hform => ?_
  rw [hjournal, List.mem_cons] at hmem
  rcases hmem with rfl | hbefore
  · exact absurd hform (hevent id k)
  · exact hbefore

/-- **A form of a rule's tree starts**, the tree being the one that the rule had when its evaluation
started. -/
theorem of_start (h : e.Listed) (hsince : Since start e) {id : RuleId} {rule : Rule}
    (hr : start.rules.get? id = some rule) {k : Nat} {f : Expr} (hf : (k, f) ∈ rule.body.forms 0)
    {event : Event} (hstart : event.IsStartOf f) (hform : event.form? = some ⟨.rule id, k⟩)
    (hrules : e'.rules = e.rules) (hjournal : e'.journal = event :: e.journal) : e'.Listed := by
  have hslot : id.slot < start.rules.size := Rules.slot_lt hr
  constructor
  · intro other id' k' hmem hother
    rw [hrules]
    rw [hjournal, List.mem_cons] at hmem
    rcases hmem with rfl | hbefore
    · cases hform.symm.trans hother
      exact Nat.lt_of_lt_of_le hslot hsince.size
    · exact h.known hbefore hother
  · intro other id' k' r hmem hother hr'
    rw [hrules] at hr'
    rw [hjournal, List.mem_cons] at hmem
    rcases hmem with rfl | hbefore
    · cases hform.symm.trans hother
      obtain ⟨old, hold, hbody⟩ := hsince.tree hslot hr'
      cases hr.symm.trans hold
      exact ⟨f, hbody ▸ hf, hstart⟩
    · exact h.form hbefore hother hr'

theorem record (h : e.Listed) {event : Event} (hevent : ∀ id k, event.form? ≠ some ⟨.rule id, k⟩) :
    (e.record event).Listed :=
  h.of_cons (.of_rules rfl) hevent rfl

theorem branch (h : e.Listed) (hsince : Since start e) {id : RuleId} {rule : Rule}
    (hr : start.rules.get? id = some rule) {k : Nat} {test onTrue onFalse : Expr}
    (hf : (k, .edgeIf test onTrue onFalse) ∈ rule.body.forms 0) (b : Bool) :
    (e.branch ⟨.rule id, k⟩ b).Listed := by
  have hstart : Event.IsStartOf (.edgeIf test onTrue onFalse) (.branched ⟨.rule id, k⟩ b) :=
    ⟨test, onTrue, onFalse, rfl⟩
  exact h.of_start hsince hr hf hstart rfl rfl rfl

theorem act (h : e.Listed) (hsince : Since start e) {id : RuleId} {rule : Rule}
    (hr : start.rules.get? id = some rule) {k : Nat} {watch action : Expr}
    (hf : (k, .atChange watch action) ∈ rule.body.forms 0) (v : Value) :
    (e.act ⟨.rule id, k⟩ v).Listed := by
  have hstart : Event.IsStartOf (.atChange watch action) (.acted ⟨.rule id, k⟩ v) :=
    ⟨watch, action, rfl⟩
  exact h.of_start hsince hr hf hstart rfl rfl rfl

theorem enter (h : e.Listed) (id : RuleId) : (e.enter id).Listed := by
  refine h.of_cons (.of_rules rfl) ?_ rfl
  exact fun _ _ => nofun

theorem leave (h : e.Listed) (id : RuleId) : (e.leave id).Listed := by
  refine h.of_cons (.of_rules rfl) ?_ rfl
  exact fun _ _ => nofun

theorem keep (h : e.Listed) (id : RuleId) (r : Except EvalError Value) :
    Since e (e.keep id r) ∧ (e.keep id r).Listed := by
  cases r with
  | error error => exact ⟨.refl e, h⟩
  | ok v =>
    have hkept : Since e (e.keepResult id v) := .of_move (.keepResult id v)
    exact ⟨hkept, h.of_same hkept rfl⟩

end Listed

end Engine

/-! ## §3 Ways to run rules -/

open Engine

/-- **By a run the forms of trees start that are listed in them**, and no tree becomes another. -/
def Runner.Lists (run : Runner) : Prop :=
  ∀ id {e : Engine}, e.Listed →
    Since e ((run id).run.run e).2 ∧ ((run id).run.run e).2.Listed

namespace Runner.Lists

variable {run : Runner} {e : Engine}

/-- No form of a rule starts by anything but a tree. -/
theorem concur (h : run.Lists) (start : Engine) :
    run.Concur (fun e => Since start e ∧ e.Listed) run := by
  have hmove : ∀ {e e'}, Since start e ∧ e.Listed → Move e e' →
      (e'.journal = e.journal ∨ ∃ event : Event, event.form? = none ∧
        e'.journal = event :: e.journal) → Since start e' ∧ e'.Listed := by
    rintro e e' ⟨hsince, hlisted⟩ hmove (hjournal | ⟨event, hevent, hjournal⟩)
    · exact ⟨hsince.trans (.of_move hmove), hlisted.of_same (.of_move hmove) hjournal⟩
    · refine ⟨hsince.trans (.of_move hmove), hlisted.of_cons (.of_move hmove) ?_ hjournal⟩
      intro id k
      rw [hevent]
      nofun
  refine .of_runs (fun hS hplain => hmove hS (.step hplain.step) hplain.journal) ?_ ?_ (.inl ?_) ?_
  · exact fun name v _ hS => hmove hS (.change name v) (.inr ⟨_, rfl, rfl⟩)
  · intro event e hreport hS
    exact hmove hS (.report hreport) (.inr ⟨event, Event.form?_eq_none (.inr (.inl hreport)), rfl⟩)
  · exact fun name _ hS => hmove hS (.hitch rfl) (.inr ⟨_, rfl, rfl⟩)
  · rintro id e ⟨hsince, hlisted⟩
    obtain ⟨hran, hlater⟩ := h id hlisted
    exact ⟨rfl, hsince.trans hran, hlater⟩

/-- **The tree of a rule starts its forms under their numbers.** -/
theorem eval (h : run.Lists) {id : RuleId} {rule : Rule} (hr : e.rules.get? id = some rule)
    (he : e.Listed) :
    Since e ((run.eval (.rule id) 0 rule.body).run.run e).2 ∧
      ((run.eval (.rule id) 0 rule.body).run.run e).2.Listed := by
  refine ((h.concur e).eval ?_ ?_ ⟨.refl e, he⟩).2
  · rintro k test onTrue onFalse x b hf ⟨hsince, hlisted⟩ -
    exact ⟨hsince.same rfl, hlisted.branch hsince hr hf b⟩
  · rintro k watch action x v hf ⟨hsince, hlisted⟩ -
    exact ⟨hsince.same rfl, hlisted.act hsince hr hf v⟩

/-- By an expression by itself no form of a rule starts. -/
theorem evalQuery (h : run.Lists) {start : Engine} (x : Expr) (hS : Since start e ∧ e.Listed) :
    AgreeAt (fun e => Since start e ∧ e.Listed) (run.eval .query 0 x).run (run.eval .query 0 x).run
      e := by
  have hquery : ∀ {x y : Engine} {event : Event} {k}, Since start x ∧ x.Listed →
      event.form? = some ⟨.query, k⟩ → y.rules = x.rules → y.journal = event :: x.journal →
      Since start y ∧ y.Listed := by
    rintro x y event k ⟨hsince, hlisted⟩ hform hrules hjournal
    refine ⟨hsince.same hrules, hlisted.of_cons (.of_rules hrules) (fun id k => ?_) hjournal⟩
    rw [hform]
    nofun
  exact (h.concur start).eval (fun _ hS _ => hquery hS rfl rfl rfl)
    (fun _ hS _ => hquery hS rfl rfl rfl) hS

end Runner.Lists

/-! ## §4 All levels, operations and histories -/

/-- A run starts listed forms if the evaluation of the rule's tree does. -/
theorem lists_runRule {body : RuleId → Expr → Eval Value}
    (hbody : ∀ {id rule e}, e.rules.get? id = some rule → e.Listed →
      Since e ((body id rule.body).run.run e).2 ∧ ((body id rule.body).run.run e).2.Listed) :
    Runner.Lists (runRule body) := by
  intro id e he
  cases hr : e.rules.get? id with
  | none =>
    rw [runRule_gone hr]
    exact ⟨.refl e, he⟩
  | some rule =>
    cases hlimit : e.limitReached? with
    | some limit =>
      rw [runRule_refused hr hlimit]
      exact ⟨.of_rules rfl, he.record fun _ _ => nofun⟩
    | none =>
      obtain ⟨hsince, hran⟩ := hbody (e := e.enter id) hr (he.enter id)
      cases hrun : (body id rule.body).run.run (e.enter id) with
      | mk r e₁ =>
        rw [hrun] at hsince hran
        rw [runRule_ran hr hlimit hrun]
        obtain ⟨hkept, hlisted⟩ := (hran.leave id).keep id r
        have hentered : Since e (e.enter id) := .of_rules rfl
        have hleft : Since (e.enter id) (e₁.leave id) := hsince.same rfl
        exact ⟨(hentered.trans hleft).trans hkept, hlisted⟩

/-- **However many levels there are**, only listed forms start. -/
theorem lists_runner (levels : Nat) : (runner levels).Lists := by
  induction levels with
  | zero => exact lists_runRule fun _ he => ⟨.of_rules rfl, he.record fun _ _ => nofun⟩
  | succ levels ih => exact lists_runRule fun hr he => ih.eval hr he

/-- **By every operation only listed forms start.** -/
theorem Operation.lists (o : Operation) {e : Engine} (he : e.Listed) :
    (o.perform.run e).2.Listed := by
  have hruns : e.runner.Lists := lists_runner _
  rw [o.run_perform]
  refine (o.concur (hruns.concur e) (fun body _ hS => hruns.evalQuery body hS) ?_ ?_
    ⟨.refl e, he⟩).2.2
  · exact fun _ => ⟨.of_rules rfl, he.of_same (.of_rules rfl) rfl⟩
  · exact fun name f _ => ⟨.of_rules rfl, he.of_same (.of_rules rfl) rfl⟩

theorem listed_new (config : Config) : (Engine.new config).Listed := by
  rw [new_eq]
  exact ⟨nofun, nofun⟩

/-- **In every history only listed forms have started.** -/
theorem listed_history (config : Config) (ops : List Operation) : (history config ops).Listed :=
  after_keeps (S := Engine.Listed) (fun o _ _ he => o.lists he) (listed_new config)

/-- **What is told under a number is told of the one form that has the number.** In every history, each
number below that of the memories of a rule's tree stands for one form of the tree; branches are told
under it only if the form is an `edge_if`, and actions only if it is an `at`. Nothing is told of the rule
under any other number. -/
theorem told_under_number {config : Config} {ops : List Operation} {id : RuleId} {r : Rule}
    (h : (history config ops).rules.get? id = some r) (k : Nat) :
    let branches := starts ⟨.rule id, k⟩ (history config ops).trace
    let acts := actions ⟨.rule id, k⟩ (history config ops).trace
    (k < r.body.memories → ∃ f, (∀ g, (k, g) ∈ r.body.forms 0 ↔ g = f) ∧
      (branches ≠ [] → ∃ test onTrue onFalse, f = .edgeIf test onTrue onFalse) ∧
      (acts ≠ [] → ∃ watch action, f = .atChange watch action)) ∧
    (r.body.memories ≤ k → branches = [] ∧ acts = []) := by
  intro branches acts
  have hlisted := listed_history config ops
  have hbranches (hne : branches ≠ []) :
      ∃ f, (k, f) ∈ r.body.forms 0 ∧ ∃ test onTrue onFalse, f = .edgeIf test onTrue onFalse := by
    obtain ⟨b, hb⟩ := List.exists_mem_of_ne_nil _ hne
    exact hlisted.form (List.mem_reverse.mp (mem_starts.mp hb)) rfl h
  have hacts (hne : acts ≠ []) :
      ∃ f, (k, f) ∈ r.body.forms 0 ∧ ∃ watch action, f = .atChange watch action := by
    obtain ⟨v, hv⟩ := List.exists_mem_of_ne_nil _ hne
    exact hlisted.form (List.mem_reverse.mp (mem_actions.mp hv)) rfl h
  constructor
  · intro hk
    obtain ⟨f, hf⟩ : ∃ f, (k, f) ∈ r.body.forms 0 := by
      rw [Expr.exists_mem_forms_iff]
      omega
    refine ⟨f, fun g => ⟨fun hg => Expr.form_unique hg hf, ?_⟩, fun hne => ?_, fun hne => ?_⟩
    · rintro rfl
      exact hf
    · obtain ⟨g, hg, hedge⟩ := hbranches hne
      rwa [Expr.form_unique hg hf] at hedge
    · obtain ⟨g, hg, hat⟩ := hacts hne
      rwa [Expr.form_unique hg hf] at hat
  · intro hk
    have hnone : ∀ f, (k, f) ∉ r.body.forms 0 := by
      intro f hf
      have hlt := (Expr.exists_mem_forms_iff.mp ⟨f, hf⟩).2
      omega
    constructor
    · by_contra hne
      obtain ⟨f, hf, -⟩ := hbranches hne
      exact hnone f hf
    · by_contra hne
      obtain ⟨f, hf, -⟩ := hacts hne
      exact hnone f hf

/-- The action of an `at` with an `edge_if` in it: the `at` has the number 0 and the `edge_if` 1. -/
example :
    let e := history ⟨some 2, false, 1⟩
      [.define "p" "at a do edge_if a > 1 then b = a else b = 0", .set "a" (.int 1),
        .set "a" (.int 2)]
    actions ⟨.rule ⟨0⟩, 0⟩ e.trace = [.int 1, .int 2] ∧ starts ⟨.rule ⟨0⟩, 1⟩ e.trace = [true] := by
  decide +kernel

end Cascade
