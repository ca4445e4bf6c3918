import Mathlib.Data.List.Chain
import Cascade.Proofs.History

/-!
# What the remembering forms do over time

An `edge_if` starts a branch when the truth of its condition is another than the one it remembers. The
memory is one cell for all evaluations of the form, and there can be evaluations inside of evaluations:
a condition or a branch may set symbols, rules run because of that, and among them the rule of the form
itself. No proof here follows that nesting. What an engine passes through, at whatever depth, is a
sequence of moves, and a move either leaves a form alone or is the start of a branch or an action of
it; so what holds of a form over time is an induction over moves.

§1 forms that are left alone; §2 what a move does to a form; §3 branches and the memory; §4 the
evaluation of an `edge_if`; §5 branches alternate.
-/

namespace Cascade

/-! ## §1 Forms that are left alone -/

namespace Engine

theorem trace_of_cons {e e' : Engine} {event : Event} (h : e'.journal = event :: e.journal) :
    e'.trace = e.trace ++ [event] := by
  rw [trace, h, List.reverse_cons, trace]

theorem trace_branch (e : Engine) (node : NodeRef) (b : Bool) :
    (e.branch node b).trace = e.trace ++ [.branched node b] :=
  trace_of_cons rfl

/-- **A form is left alone**: its memories stay and nothing is told of it. -/
structure Resting (node : NodeRef) (e e' : Engine) : Prop where
  truth : e'.memories.truth node = e.memories.truth node
  seen : e'.memories.seen node = e.memories.seen node
  trace : e'.trace = e.trace ∨
    ∃ event : Event, event.form? ≠ some node ∧ e'.trace = e.trace ++ [event]

namespace Resting

variable {node : NodeRef} {e e' : Engine}

/-- Whatever leaves memories and the journal alone leaves a form alone. -/
theorem of_same (hmemories : e'.memories = e.memories) (hjournal : e'.journal = e.journal) :
    Resting node e e' := by
  refine ⟨?_, ?_, Or.inl ?_⟩
  · rw [hmemories]
  · rw [hmemories]
  · rw [Engine.trace, hjournal, Engine.trace]

/-- An event that is not the start of a form leaves every form alone. -/
theorem of_event {event : Event} (hmemories : e'.memories = e.memories)
    (hjournal : e'.journal = event :: e.journal) (hevent : event.form? = none) :
    Resting node e e' := by
  have hform : event.form? ≠ some node := by
    rw [hevent]
    nofun
  refine ⟨?_, ?_, Or.inr ⟨event, hform, trace_of_cons hjournal⟩⟩
  · rw [hmemories]
  · rw [hmemories]

theorem branch {other : NodeRef} (hother : node ≠ other) (b : Bool) (e : Engine) :
    Resting node e (e.branch other b) where
  truth := by
    show (e.memories.setTruth other b).truth node = _
    rw [Memories.truth_setTruth, if_neg hother]
  seen := rfl
  trace := by
    refine Or.inr ⟨.branched other b, ?_, trace_branch e other b⟩
    intro heq
    exact hother (Option.some.inj heq).symm

theorem act {other : NodeRef} (hother : node ≠ other) (v : Value) (e : Engine) :
    Resting node e (e.act other v) where
  truth := rfl
  seen := by
    show (e.memories.setSeen other v).seen node = _
    rw [Memories.seen_setSeen, if_neg hother]
  trace := by
    refine Or.inr ⟨.acted other v, ?_, trace_of_cons rfl⟩
    intro heq
    exact hother (Option.some.inj heq).symm

/-- Only expressions by themselves have memories that are forgotten. -/
theorem forget (hnode : node.owner ≠ .query) (e : Engine) :
    Resting node e { e with memories := e.memories.forgetQuery } where
  truth := e.memories.truth_forgetQuery hnode
  seen := e.memories.seen_forgetQuery hnode
  trace := Or.inl rfl

end Resting

/-! ## §2 What a move does to a form -/

/-- **A step on a form of a rule**: it leaves the form alone, or the form starts a branch for a truth
that it does not remember, or its action for a value that it does not remember. -/
inductive OnForm (node : NodeRef) (e : Engine) : Engine → Prop
  | resting {e' : Engine} : Resting node e e' → OnForm node e e'
  | branch {b : Bool} : b ≠ e.memories.truth node → OnForm node e (e.branch node b)
  | act {v : Value} : Value.sameOption (e.memories.seen node) (some v) = false →
      OnForm node e (e.act node v)

variable {node : NodeRef} {e e' : Engine}

theorem Step.onForm (h : Step e e') (hnode : node.owner ≠ .query) : OnForm node e e' := by
  cases h with
  | remark hevent => exact .resting (.of_event rfl rfl (Event.form?_eq_none (.inl hevent)))
  | install =>
    exact .resting (.of_event (install_memories _ e) (install_journal _ e) rfl)
  | uninstall =>
    rcases uninstall_journal _ _ e with hjournal | hjournal
    · exact .resting (.of_same (uninstall_memories _ _ e) hjournal)
    · exact .resting (.of_event (uninstall_memories _ _ e) hjournal rfl)
  | addTrigger => exact .resting (.of_event rfl rfl rfl)
  | @branch other b hb =>
    by_cases hother : node = other
    · subst hother
      exact .branch hb
    · exact .resting (.branch hother b e)
  | @act other v hv =>
    by_cases hother : node = other
    · subst hother
      exact .act hv
    · exact .resting (.act hother v e)
  | forget => exact .resting (.forget hnode e)
  | _ => exact .resting (.of_same rfl rfl)

/-- **What a move does to a form of a rule.** -/
theorem Move.onForm (h : Move e e') (hnode : node.owner ≠ .query) : OnForm node e e' := by
  cases h with
  | step hstep => exact hstep.onForm hnode
  | register => exact .resting (.of_same rfl rfl)
  | change => exact .resting (.of_event rfl rfl rfl)
  | report hevent => exact .resting (.of_event rfl rfl (Event.form?_eq_none (.inr (.inl hevent))))
  | hitch hevent => exact .resting (.of_event rfl rfl (Event.form?_eq_none (.inr (.inr hevent))))
  | enter => exact .resting (.of_event rfl rfl rfl)
  | leave => exact .resting (.of_event rfl rfl rfl)
  | keepResult => exact .resting (.of_same rfl rfl)

/-- **What has happened is not undone**: what happens later comes after it. -/
theorem Moves.trace (h : Moves e e') : ∃ since, e'.trace = e.trace ++ since := by
  obtain ⟨new, hnew⟩ := h.journal
  refine ⟨new.reverse, ?_⟩
  rw [Engine.trace, ← hnew, List.reverse_append, Engine.trace]

end Engine

/-! ## §3 Branches and the memory -/

/-- The truth for which an event tells that a form started a branch. -/
def Event.branchOf? (node : NodeRef) : Event → Option Bool
  | .branched other b => if other = node then some b else none
  | _ => none

/-- **The branches that a form started**, in order of time, by the truths they are for. -/
def starts (node : NodeRef) (events : List Event) : List Bool :=
  events.filterMap (Event.branchOf? node)

section starts

variable {node : NodeRef} {events : List Event}

theorem mem_starts {b : Bool} : b ∈ starts node events ↔ .branched node b ∈ events := by
  rw [starts, List.mem_filterMap]
  constructor
  · rintro ⟨event, hmem, hb⟩
    cases event with
    | branched other b' =>
      rw [Event.branchOf?] at hb
      split at hb
      · next heq =>
        cases hb
        rwa [heq] at hmem
      · cases hb
    | _ => cases hb
  · intro hmem
    exact ⟨.branched node b, hmem, if_pos rfl⟩

theorem starts_append (events later : List Event) :
    starts node (events ++ later) = starts node events ++ starts node later :=
  List.filterMap_append

theorem starts_branched (b : Bool) (later : List Event) :
    starts node (.branched node b :: later) = b :: starts node later :=
  List.filterMap_cons_some (if_pos rfl)

/-- What tells of no start of the form tells of no branch of it. -/
theorem starts_of_form? {event : Event} (h : event.form? ≠ some node) :
    starts node [event] = [] := by
  cases event with
  | branched other b =>
    have hother : other ≠ node := by
      rintro rfl
      exact h rfl
    exact List.filterMap_cons_none (if_neg hother)
  | _ => rfl

end starts

namespace Engine

/-- **The branches of an `edge_if` alternate and its memory goes with them.** It starts with false, so
the branches alternate even with false put before them. -/
structure Alternates (node : NodeRef) (e : Engine) : Prop where
  chain : (false :: starts node e.trace).IsChain (· ≠ ·)
  memory : e.memories.truth node = (starts node e.trace).getLastD false

namespace Alternates

variable {node : NodeRef} {e e' : Engine}

theorem new (config : Config) (node : NodeRef) : (Engine.new config).Alternates node := by
  rw [new_eq]
  exact ⟨List.isChain_singleton false, rfl⟩

theorem of_starts (h : e.Alternates node) (htruth : e'.memories.truth node = e.memories.truth node)
    (hstarts : starts node e'.trace = starts node e.trace) : e'.Alternates node := by
  constructor
  · rw [hstarts]
    exact h.chain
  · rw [htruth, hstarts]
    exact h.memory

theorem resting (h : e.Alternates node) (hrest : Resting node e e') : e'.Alternates node := by
  refine h.of_starts hrest.truth ?_
  rcases hrest.trace with htrace | ⟨event, hevent, htrace⟩
  · rw [htrace]
  · rw [htrace, starts_append, starts_of_form? hevent, List.append_nil]

/-- **One more branch**, which is another than the last one since the memory is that one. -/
theorem branch (h : e.Alternates node) {b : Bool} (hb : b ≠ e.memories.truth node) :
    (e.branch node b).Alternates node := by
  have hstarts : starts node (e.branch node b).trace = starts node e.trace ++ [b] := by
    rw [trace_branch, starts_append, starts_branched]
    rfl
  have hlast : (false :: starts node e.trace).getLast? = some (e.memories.truth node) := by
    rw [List.getLast?_cons, ← List.getLastD_eq_getLast?, h.memory]
  constructor
  · rw [hstarts, ← List.cons_append, List.isChain_append]
    refine ⟨h.chain, List.isChain_singleton b, ?_⟩
    intro last hmem next hnext
    rw [hlast] at hmem
    cases hmem
    cases hnext
    exact hb.symm
  · rw [hstarts, List.getLastD_concat]
    show (e.memories.setTruth node b).truth node = b
    rw [Memories.truth_setTruth, if_pos rfl]

/-- **A move keeps the alternation.** -/
theorem move (h : e.Alternates node) (hmove : Move e e') (hnode : node.owner ≠ .query) :
    e'.Alternates node := by
  cases hmove.onForm hnode with
  | resting hrest => exact h.resting hrest
  | branch hb => exact h.branch hb
  | act _ =>
    refine h.of_starts rfl ?_
    rw [trace_of_cons (e := e) rfl, starts_append]
    exact List.append_nil _

/-- The first branch is that for true, and no two branches in a row are for the same. -/
theorem told (h : e.Alternates node) :
    (starts node e.trace).head? ≠ some false ∧ (starts node e.trace).IsChain (· ≠ ·) := by
  obtain ⟨hfirst, hchain⟩ := List.isChain_cons.mp h.chain
  exact ⟨fun hhead => hfirst false hhead rfl, hchain⟩

/-- **A branch is the last one as long as the other one has not been started**, and it is what the form
remembers. -/
theorem last (h : e.Alternates node) {before since : List Event} {b : Bool}
    (htrace : e.trace = before ++ .branched node b :: since) (hother : .branched node (!b) ∉ since) :
    .branched node b ∉ since ∧ e.memories.truth node = b := by
  have hstarts : starts node e.trace = starts node before ++ b :: starts node since := by
    rw [htrace, starts_append, starts_branched]
  have hnone : starts node since = [] := by
    -- the next branch after this one could only be the other one
    cases hsince : starts node since with
    | nil => rfl
    | cons next rest =>
      have hchain := h.told.2
      rw [hstarts, hsince, List.isChain_append_cons_cons] at hchain
      have hnext : next = !b := Bool.eq_not.mpr hchain.2.1.symm
      rw [hnext] at hsince
      exact absurd (mem_starts.mp (hsince ▸ List.mem_cons_self ..)) hother
  constructor
  · intro hmem
    rw [← mem_starts, hnone] at hmem
    cases hmem
  · rw [h.memory, hstarts, hnone, List.getLastD_concat]

end Alternates

end Engine

open Engine

/-- **The branches of an `edge_if` of a rule alternate at every moment of every history.** -/
theorem alternates_history {config : Config} {ops : List Operation} {e : Engine}
    (h : Moves (history config ops) e) {node : NodeRef} (hnode : node.owner ≠ .query) :
    e.Alternates node := by
  have hmoves : Moves (Engine.new config) e := (course_history config ops).moves.trans h
  exact hmoves.keeps (fun halternates hmove => halternates.move hmove hnode) (.new config node)

/-- A rule that sets off itself: inside of the branch for true the same form starts the one for false,
and inside of that the one for true again, before the depth is used up. -/
example :
    starts ⟨.rule ⟨0⟩, 0⟩ (history ⟨some 3, false, 1⟩
      [.define "p" "edge_if a > 0 then a = -1 else a = 1", .set "a" (.int 1)]).trace =
        [true, false, true] := by
  decide +kernel

/-! ## §4 The evaluation of an `edge_if` -/

section run

variable {x : Eval α} {f : α → Eval β} {e e₁ : Engine}

/-- What a part of an evaluation comes to is what the rest is given. -/
theorem run_bind_ok {a : α} (h : x.run.run e = (.ok a, e₁)) :
    (x >>= f).run.run e = (f a).run.run e₁ := by
  show (ExceptT.bindCont f (x.run.run e).1).run (x.run.run e).2 = _
  rw [h]
  rfl

/-- The failure of a part of an evaluation is that of the whole. -/
theorem run_bind_error {error : EvalError} (h : x.run.run e = (.error error, e₁)) :
    (x >>= f).run.run e = (.error error, e₁) := by
  show (ExceptT.bindCont f (x.run.run e).1).run (x.run.run e).2 = _
  rw [h]
  rfl

theorem run_result (r : Except EvalError α) (e : Engine) : (liftM r : Eval α).run.run e = (r, e) :=
  rfl

end run

namespace Runner

variable (run : Runner) (owner : Owner) (n : Nat) (test onTrue onFalse : Expr)

/-- **What the condition of an `edge_if` comes to**: its truth, if its value has one, and the engine
when it has been evaluated. -/
def judge (e : Engine) : Except EvalError Bool × Engine :=
  let p := (run.eval owner (n + 1) test).run.run e
  (p.1.bind Value.toBool, p.2)

/-- The branch of an `edge_if` for a truth. -/
def evalBranch (b : Bool) : Eval Value :=
  if b then run.eval owner (n + 1 + test.memories) onTrue
  else run.eval owner (n + 1 + test.memories + onTrue.memories) onFalse

/-- **The evaluation of an `edge_if`**: the memory is read when the condition has been evaluated, and
written before the branch is. -/
theorem eval_edgeIf (e : Engine) :
    (run.eval owner n (.edgeIf test onTrue onFalse)).run.run e =
      match run.judge owner n test e with
      | (.error error, e₁) => (.error error, e₁)
      | (.ok b, e₁) =>
        if b = e₁.memories.truth ⟨owner, n⟩ then (.ok .neutral, e₁)
        else
          (run.evalBranch owner n test onTrue onFalse b).run.run (e₁.branch ⟨owner, n⟩ b) := by
  rw [eval, judge]
  cases htest : (run.eval owner (n + 1) test).run.run e with
  | mk r e₁ =>
    cases r with
    | error error => exact run_bind_error htest
    | ok v =>
      rw [run_bind_ok htest]
      show _ = match (v.toBool, e₁) with | (.error error, e₁) => _ | (.ok b, e₁) => _
      cases v.toBool with
      | error error => exact run_bind_error (run_result (.error error) e₁)
      | ok b =>
        rw [run_bind_ok (run_result (.ok b) e₁), run_look]
        show _ = if b = e₁.memories.truth ⟨owner, n⟩ then _ else _
        split
        · rfl
        · rfl

variable {run owner n test onTrue onFalse} {e e₁ : Engine}

/-- A condition that fails or has no truth ends the evaluation there and then. -/
theorem eval_edgeIf_of_error {error : EvalError}
    (h : run.judge owner n test e = (.error error, e₁)) :
    (run.eval owner n (.edgeIf test onTrue onFalse)).run.run e = (.error error, e₁) := by
  rw [eval_edgeIf, h]

/-- A truth that is remembered starts nothing. -/
theorem eval_edgeIf_of_eq {b : Bool} (h : run.judge owner n test e = (.ok b, e₁))
    (hb : b = e₁.memories.truth ⟨owner, n⟩) :
    (run.eval owner n (.edgeIf test onTrue onFalse)).run.run e = (.ok .neutral, e₁) := by
  rw [eval_edgeIf, h]
  exact if_pos hb

/-- Any other truth is remembered and starts its branch. -/
theorem eval_edgeIf_of_ne {b : Bool} (h : run.judge owner n test e = (.ok b, e₁))
    (hb : b ≠ e₁.memories.truth ⟨owner, n⟩) :
    (run.eval owner n (.edgeIf test onTrue onFalse)).run.run e =
      (run.evalBranch owner n test onTrue onFalse b).run.run (e₁.branch ⟨owner, n⟩ b) := by
  rw [eval_edgeIf, h]
  exact if_neg hb

end Runner

section moves

variable {e e₁ : Engine} (he : e.Canonical) {levels : Nat} {owner : Owner} {n : Nat} {test : Expr}
include he

/-- The evaluation of a part of a tree is made of moves. -/
theorem moves_eval (levels : Nat) (owner : Owner) (n : Nat) (tree : Expr) :
    Moves e (((runner levels).eval owner n tree).run.run e).2 :=
  (((courses_runner levels).agree he).eval owner n tree .rest).2.moves

theorem moves_judge {r : Except EvalError Bool}
    (h : (runner levels).judge owner n test e = (r, e₁)) : Moves e e₁ := by
  have hengine : (((runner levels).eval owner (n + 1) test).run.run e).2 = e₁ :=
    congrArg Prod.snd h
  rw [← hengine]
  exact moves_eval he levels owner (n + 1) test

theorem moves_evalBranch (levels : Nat) (owner : Owner) (n : Nat) (test onTrue onFalse : Expr)
    (b : Bool) :
    Moves e (((runner levels).evalBranch owner n test onTrue onFalse b).run.run e).2 := by
  cases b with
  | true => exact moves_eval he levels owner _ onTrue
  | false => exact moves_eval he levels owner _ onFalse

end moves

/-! ## §5 Branches alternate -/

/-- **The branches of an `edge_if` alternate**, that for true first, at every moment of every history,
however evaluations of the form are nested in each other and whether they fail or not; and its memory is
the truth of the last one. An evaluation whose condition fails or has no truth leaves everything as the
condition left it; so does one whose truth is remembered, which has the neutral value. Any other truth
is remembered and starts its branch. After that, whatever becomes of the evaluation, a failure included,
and as long as the condition has not been found otherwise, which would have started the other branch,
the branch is not started again and an evaluation with the same truth has the neutral value.

In the tree of the rule the form is the one that is listed under the number `n`: a tree evaluates each of
its forms under the number that it is listed with (`Runner.OnLeaves.eval_of_forms`), and what is told
under a number is told of the one form that has it (`told_under_number`). -/
theorem branches_alternate {config : Config} {ops : List Operation} {e : Engine}
    (h : Moves (history config ops) e) (id : RuleId) (n : Nat) (test onTrue onFalse : Expr) :
    let node : NodeRef := ⟨.rule id, n⟩
    let judge (levels : Nat) := (runner levels).judge (.rule id) n test
    let form (levels : Nat) :=
      ((runner levels).eval (.rule id) n (.edgeIf test onTrue onFalse)).run.run
    ((starts node e.trace).head? ≠ some false ∧ (starts node e.trace).IsChain (· ≠ ·) ∧
      e.memories.truth node = (starts node e.trace).getLastD false) ∧
    ∀ {levels e₁},
      (∀ {error}, judge levels e = (.error error, e₁) → form levels e = (.error error, e₁)) ∧
      (∀ {b}, judge levels e = (.ok b, e₁) → b = e₁.memories.truth node →
        form levels e = (.ok .neutral, e₁)) ∧
      ∀ {b}, judge levels e = (.ok b, e₁) → b ≠ e₁.memories.truth node →
        form levels e = ((runner levels).evalBranch (.rule id) n test onTrue onFalse b).run.run
          (e₁.branch node b) ∧
        ∀ {r e₂ later}, form levels e = (r, e₂) → Moves e₂ later →
          ∃ since, later.trace = e₁.trace ++ .branched node b :: since ∧
            (.branched node (!b) ∉ since → .branched node b ∉ since ∧
              ∀ {levels again}, judge levels again = (.ok b, later) →
                form levels again = (.ok .neutral, later)) := by
  intro node judge form
  have hnode : node.owner ≠ .query := nofun
  have halternates : e.Alternates node := alternates_history h hnode
  refine ⟨⟨halternates.told.1, halternates.told.2, halternates.memory⟩, fun {levels e₁} => ?_⟩
  refine ⟨Runner.eval_edgeIf_of_error, Runner.eval_edgeIf_of_eq, fun {b} hjudge hb => ?_⟩
  refine ⟨Runner.eval_edgeIf_of_ne hjudge hb, fun {r e₂ later} hform hlater => ?_⟩
  -- the branch is evaluated from the moment of its start, and that moment belongs to the history
  have hcanonical : e.Canonical := (canonical_history config ops).moves h
  have hstart : Moves e (e₁.branch node b) :=
    (moves_judge hcanonical hjudge).tail (.step (.branch hb))
  have hbranch : Moves (e₁.branch node b) e₂ := by
    have hend : (((runner levels).evalBranch (.rule id) n test onTrue onFalse b).run.run
        (e₁.branch node b)).2 = e₂ := by
      rw [← Runner.eval_edgeIf_of_ne hjudge hb]
      exact congrArg Prod.snd hform
    rw [← hend]
    exact moves_evalBranch (hcanonical.moves hstart) levels (.rule id) n test onTrue onFalse b
  obtain ⟨since, hsince⟩ := Moves.trace (hbranch.trans hlater)
  have htrace : later.trace = e₁.trace ++ .branched node b :: since := by
    rw [hsince, trace_branch, List.append_assoc]
    rfl
  refine ⟨since, htrace, fun hother => ?_⟩
  have hafter : later.Alternates node :=
    alternates_history (h.trans (hstart.trans (hbranch.trans hlater))) hnode
  obtain ⟨hagain, hmemory⟩ := hafter.last htrace hother
  exact ⟨hagain, fun hjudge => Runner.eval_edgeIf_of_eq hjudge hmemory.symm⟩

/-- An engine with a rule that remembers the truth of `a`, which is set, and whose branches read symbols
that are not. -/
def unreadable : Engine :=
  history ⟨some 2, false, 1⟩
    [.set "a" (.int 1), .define "p" "edge_if a then missing else absent"]

/-- A branch that fails is not tried again while the condition stays true. -/
theorem failing_branch_waits :
    let form := (runner 1).eval (.rule ⟨0⟩) 0 (.edgeIf (.var "a") (.var "missing") (.var "absent"))
    let e := (form.run.run unreadable).2
    (unreadable.rules.get? ⟨0⟩).map Rule.body =
        some (.edgeIf (.var "a") (.var "missing") (.var "absent")) ∧
      form.run.run unreadable = (.error (.undefinedSymbol "missing"), e) ∧
      form.run.run e = (.ok .neutral, e.touch "a") ∧
      starts ⟨.rule ⟨0⟩, 0⟩ (e.touch "a").trace = [true] := by
  intro form e
  have hmoment : Moves (history ⟨some 2, false, 1⟩
    [.set "a" (.int 1), .define "p" "edge_if a then missing else absent"]) unreadable := .refl
  have hjudge : (runner 1).judge (.rule ⟨0⟩) 0 (.var "a") unreadable =
      (.ok true, unreadable.touch "a") := rfl
  have hagain : (runner 1).judge (.rule ⟨0⟩) 0 (.var "a") e = (.ok true, e.touch "a") := rfl
  have hfresh : true ≠ (unreadable.touch "a").memories.truth ⟨.rule ⟨0⟩, 0⟩ := by decide +kernel
  have herror : form.run.run unreadable = (.error (.undefinedSymbol "missing"), e) := rfl
  have hstarts : starts ⟨.rule ⟨0⟩, 0⟩ (e.touch "a").trace = [true] := by decide +kernel
  obtain ⟨-, hform⟩ := branches_alternate hmoment ⟨0⟩ 0 (.var "a") (.var "missing") (.var "absent")
  obtain ⟨-, hlater⟩ := hform.2.2 hjudge hfresh
  obtain ⟨since, htrace, hwait⟩ := hlater herror (.single (.step (.touch "a")))
  have hother : .branched ⟨.rule ⟨0⟩, 0⟩ false ∉ since := by
    have hall := hstarts
    rw [htrace, starts_append, starts_branched, List.append_eq_singleton_iff] at hall
    intro hmem
    rw [← mem_starts] at hmem
    rcases hall with ⟨-, hall⟩ | ⟨-, hall⟩
    · rw [(List.cons.inj hall).2] at hmem
      cases hmem
    · cases hall
  exact ⟨rfl, herror, (hwait hother).2 hagain, hstarts⟩

end Cascade
