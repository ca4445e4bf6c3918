import Cascade.Proofs.Remembering

/-!
# What an `at` does over time

An `at` starts its action when the value that it watches is not the same as the one it remembers, and
what it remembers is the value for which it started its action last. Sameness is structural: an integer
is another value than the double that it equals, and a value with a NaN in it is another one each time.

As with an `edge_if`, evaluations of the form may be nested in each other, in its watch as well as in
its action, and no proof here follows that nesting: the invariant is kept by moves.

§1 the actions that were started; §2 actions and the memory; §3 the evaluation of an `at`; §4 actions
follow changes.
-/

namespace Cascade

/-! ## §1 The actions that were started -/

/-- The value for which an event tells that a form started its action. -/
def Event.actionOf? (node : NodeRef) : Event → Option Value
  | .acted other v => if other = node then some v else none
  | _ => none

/-- **The actions that a form started**, in order of time, by the values they are for. -/
def actions (node : NodeRef) (events : List Event) : List Value :=
  events.filterMap (Event.actionOf? node)

section actions

variable {node : NodeRef}

theorem mem_actions {events : List Event} {v : Value} :
    v ∈ actions node events ↔ .acted node v ∈ events := by
  rw [actions, List.mem_filterMap]
  constructor
  · rintro ⟨event, hmem, hv⟩
    cases event with
    | acted other w =>
      rw [Event.actionOf?] at hv
      split at hv
      · next heq =>
        cases hv
        rwa [heq] at hmem
      · cases hv
    | _ => cases hv
  · intro hmem
    exact ⟨.acted node v, hmem, if_pos rfl⟩

theorem actions_append (events later : List Event) :
    actions node (events ++ later) = actions node events ++ actions node later :=
  List.filterMap_append

theorem actions_acted (v : Value) (later : List Event) :
    actions node (.acted node v :: later) = v :: actions node later :=
  List.filterMap_cons_some (if_pos rfl)

/-- What tells of no start of the form tells of no action of it. -/
theorem actions_of_form? {event : Event} (h : event.form? ≠ some node) :
    actions node [event] = [] := by
  cases event with
  | acted other v =>
    have hother : other ≠ node := by
      rintro rfl
      exact h rfl
    exact List.filterMap_cons_none (if_neg hother)
  | _ => rfl

end actions

namespace Engine

theorem trace_act (e : Engine) (node : NodeRef) (v : Value) :
    (e.act node v).trace = e.trace ++ [.acted node v] :=
  trace_of_cons rfl

/-! ## §2 Actions and the memory -/

/-- **An `at` acts on changes and its memory goes with its actions**: no two actions in a row are for
the same value, and the value of the last one is remembered, none before the first. -/
structure ActsOnChange (node : NodeRef) (e : Engine) : Prop where
  chain : (actions node e.trace).IsChain fun v w => v.same w = false
  memory : e.memories.seen node = (actions node e.trace).getLast?

namespace ActsOnChange

variable {node : NodeRef} {e e' : Engine}

theorem new (config : Config) (node : NodeRef) : (Engine.new config).ActsOnChange node := by
  rw [new_eq]
  exact ⟨.nil, rfl⟩

theorem of_actions (h : e.ActsOnChange node) (hseen : e'.memories.seen node = e.memories.seen node)
    (hactions : actions node e'.trace = actions node e.trace) : e'.ActsOnChange node := by
  constructor
  · rw [hactions]
    exact h.chain
  · rw [hseen, hactions]
    exact h.memory

theorem resting (h : e.ActsOnChange node) (hrest : Resting node e e') : e'.ActsOnChange node := by
  refine h.of_actions hrest.seen ?_
  rcases hrest.trace with htrace | ⟨event, hevent, htrace⟩
  · rw [htrace]
  · rw [htrace, actions_append, actions_of_form? hevent, List.append_nil]

/-- **One more action**, for another value than the last one since the memory is that one. -/
theorem act (h : e.ActsOnChange node) {v : Value}
    (hv : Value.sameOption (e.memories.seen node) (some v) = false) :
    (e.act node v).ActsOnChange node := by
  have hactions : actions node (e.act node v).trace = actions node e.trace ++ [v] := by
    rw [trace_act, actions_append, actions_acted]
    rfl
  constructor
  · rw [hactions, List.isChain_append]
    refine ⟨h.chain, List.isChain_singleton v, ?_⟩
    intro last hlast next hnext
    cases hnext
    rw [h.memory, hlast] at hv
    exact hv
  · rw [hactions, List.getLast?_concat]
    show (e.memories.setSeen node v).seen node = some v
    rw [Memories.seen_setSeen, if_pos rfl]

/-- **A move keeps to it.** -/
theorem move (h : e.ActsOnChange node) (hmove : Move e e') (hnode : node.owner ≠ .query) :
    e'.ActsOnChange node := by
  cases hmove.onForm hnode with
  | resting hrest => exact h.resting hrest
  | act hv => exact h.act hv
  | branch _ =>
    refine h.of_actions rfl ?_
    rw [trace_branch, actions_append]
    exact List.append_nil _

/-- **After an action the next one is for another value**, and as long as there is none its value is
remembered. -/
theorem since (h : e.ActsOnChange node) {before since : List Event} {v : Value}
    (htrace : e.trace = before ++ .acted node v :: since) :
    (∀ w, (actions node since).head? = some w → v.same w = false) ∧
      (actions node since = [] → e.memories.seen node = some v) := by
  have hactions : actions node e.trace = actions node before ++ v :: actions node since := by
    rw [htrace, actions_append, actions_acted]
  have hchain := h.chain
  rw [hactions, List.isChain_append, List.isChain_cons] at hchain
  refine ⟨fun w hw => hchain.2.1.1 w hw, fun hnone => ?_⟩
  rw [h.memory, hactions, hnone, List.getLast?_concat]

end ActsOnChange

end Engine

open Engine

/-- **The actions of an `at` of a rule follow changes at every moment of every history.** -/
theorem actsOnChange_history {config : Config} {ops : List Operation} {e : Engine}
    (h : Moves (history config ops) e) {node : NodeRef} (hnode : node.owner ≠ .query) :
    e.ActsOnChange node := by
  have hmoves : Moves (Engine.new config) e := (course_history config ops).moves.trans h
  exact hmoves.keeps (fun hacts hmove => hacts.move hmove hnode) (.new config node)

section moments

variable {config : Config} {ops : List Operation} {e later : Engine} {node : NodeRef}

/-- An action that was started has been started for ever. -/
theorem actions_ne_nil (h : Moves e later) (hactions : actions node e.trace ≠ []) :
    actions node later.trace ≠ [] := by
  obtain ⟨since, hsince⟩ := h.trace
  rw [hsince, actions_append]
  exact List.append_ne_nil_of_left_ne_nil hactions _

/-- **What follows the start of an action**: the next one is for another value, and until there is one
the value is remembered. -/
theorem since_act (h : Moves (history config ops) e) (hnode : node.owner ≠ .query) {v : Value}
    (hv : Value.sameOption (e.memories.seen node) (some v) = false)
    (hlater : Moves (e.act node v) later) :
    ∃ since, later.trace = e.trace ++ .acted node v :: since ∧
      (∀ w, (actions node since).head? = some w → v.same w = false) ∧
      (actions node since = [] → later.memories.seen node = some v) := by
  have hact : Move e (e.act node v) := .step (.act hv)
  have hafter : later.ActsOnChange node :=
    actsOnChange_history ((h.tail hact).trans hlater) hnode
  obtain ⟨since, hsince⟩ := hlater.trace
  have htrace : later.trace = e.trace ++ .acted node v :: since := by
    rw [hsince, trace_act, List.append_assoc]
    rfl
  exact ⟨since, htrace, hafter.since htrace⟩

end moments

/-- A rule that sets what it watches: inside of the action for 1 the same form starts the one for 2,
and inside of that the one for 3, after which the value stays. -/
example :
    actions ⟨.rule ⟨0⟩, 0⟩ (history ⟨some 9, false, 1⟩
      [.define "p" "at a do if a < 3 then a = a + 1", .set "a" (.int 1)]).trace =
        [.int 1, .int 2, .int 3] := by
  decide +kernel

/-! ## §3 The evaluation of an `at` -/

namespace Runner

variable (run : Runner) (owner : Owner) (n : Nat) (watch action : Expr)

/-- What an `at` watches. -/
def evalWatch : Eval Value := run.eval owner (n + 1) watch

/-- The action of an `at`. -/
def evalAction : Eval Value := run.eval owner (n + 1 + watch.memories) action

/-- **The evaluation of an `at`**: the memory is read when the watched value is known, and written
before the action is evaluated. -/
theorem eval_atChange (e : Engine) :
    (run.eval owner n (.atChange watch action)).run.run e =
      match (run.evalWatch owner n watch).run.run e with
      | (.error error, e₁) => (.error error, e₁)
      | (.ok v, e₁) =>
        if Value.sameOption (e₁.memories.seen ⟨owner, n⟩) (some v) then (.ok .neutral, e₁)
        else (run.evalAction owner n watch action).run.run (e₁.act ⟨owner, n⟩ v) := by
  rw [eval, evalWatch]
  cases hwatch : (run.eval owner (n + 1) watch).run.run e with
  | mk r e₁ =>
    cases r with
    | error error => exact run_bind_error hwatch
    | ok v =>
      rw [run_bind_ok hwatch, run_look]
      show _ = if Value.sameOption (e₁.memories.seen ⟨owner, n⟩) (some v) then _ else _
      split
      · rfl
      · rfl

variable {run owner n watch action} {e e₁ : Engine}

/-- A watch that fails ends the evaluation there and then. -/
theorem eval_atChange_of_error {error : EvalError}
    (h : (run.evalWatch owner n watch).run.run e = (.error error, e₁)) :
    (run.eval owner n (.atChange watch action)).run.run e = (.error error, e₁) := by
  rw [eval_atChange, h]

/-- A value that is remembered starts nothing. -/
theorem eval_atChange_of_same {v : Value}
    (h : (run.evalWatch owner n watch).run.run e = (.ok v, e₁))
    (hv : Value.sameOption (e₁.memories.seen ⟨owner, n⟩) (some v) = true) :
    (run.eval owner n (.atChange watch action)).run.run e = (.ok .neutral, e₁) := by
  rw [eval_atChange, h]
  exact if_pos hv

/-- Any other value is remembered and starts the action. -/
theorem eval_atChange_of_not_same {v : Value}
    (h : (run.evalWatch owner n watch).run.run e = (.ok v, e₁))
    (hv : Value.sameOption (e₁.memories.seen ⟨owner, n⟩) (some v) = false) :
    (run.eval owner n (.atChange watch action)).run.run e =
      (run.evalAction owner n watch action).run.run (e₁.act ⟨owner, n⟩ v) := by
  rw [eval_atChange, h]
  exact if_neg (Bool.eq_false_iff.mp hv)

end Runner

/-- What an evaluation comes to, it comes to by moves. -/
theorem moves_of_eval {levels n : Nat} {owner : Owner} {tree : Expr} {e e₁ : Engine}
    {r : Except EvalError Value} (he : e.Canonical)
    (h : ((runner levels).eval owner n tree).run.run e = (r, e₁)) : Moves e e₁ := by
  have hengine : (((runner levels).eval owner n tree).run.run e).2 = e₁ := congrArg Prod.snd h
  rw [← hengine]
  exact moves_eval he levels owner n tree

/-! ## §4 Actions follow changes -/

/-- **An `at` acts exactly on change**, at every moment of every history, however evaluations of the
form are nested in each other and whether they fail or not: no two actions in a row are for the same
value. An evaluation whose watch fails leaves everything as the watch left it. So does one whose value
is the same as that of the last action; it has the neutral value. Any other evaluation whose watch
succeeds starts the action; so the first one does, for there is no action before it, and at every moment
after it there is one. Once an action has been started, whatever becomes of it, a failure included, the
next action is for another value, and until there is one an evaluation with the same value has the
neutral value.

In the tree of the rule the form is the one that is listed under the number `n`: a tree evaluates each of
its forms under the number that it is listed with (`Runner.OnLeaves.eval_of_forms`), and what is told
under a number is told of the one form that has it (`told_under_number`). -/
theorem acts_on_change {config : Config} {ops : List Operation} {e : Engine}
    (h : Moves (history config ops) e) (id : RuleId) (n : Nat) (watch action : Expr) :
    let node : NodeRef := ⟨.rule id, n⟩
    let look (levels : Nat) := ((runner levels).evalWatch (.rule id) n watch).run.run
    let form (levels : Nat) :=
      ((runner levels).eval (.rule id) n (.atChange watch action)).run.run
    ((actions node e.trace).IsChain fun v w => v.same w = false) ∧
    ∀ {levels e₁},
      (∀ {error}, look levels e = (.error error, e₁) → form levels e = (.error error, e₁)) ∧
      ∀ {v}, look levels e = (.ok v, e₁) →
        (∀ {later}, Moves (form levels e).2 later → actions node later.trace ≠ []) ∧
        (∀ {w}, (actions node e₁.trace).getLast? = some w → w.same v = true →
          form levels e = (.ok .neutral, e₁)) ∧
        ((∀ w, (actions node e₁.trace).getLast? = some w → w.same v = false) →
          form levels e =
            ((runner levels).evalAction (.rule id) n watch action).run.run (e₁.act node v) ∧
          ∀ {r e₂ later}, form levels e = (r, e₂) → Moves e₂ later →
            ∃ since, later.trace = e₁.trace ++ .acted node v :: since ∧
              (∀ w, (actions node since).head? = some w → v.same w = false) ∧
              (actions node since = [] →
                ∀ {levels again u}, look levels again = (.ok u, later) → v.same u = true →
                  form levels again = (.ok .neutral, later))) := by
  intro node look form
  have hnode : node.owner ≠ .query := nofun
  refine ⟨(actsOnChange_history h hnode).chain, fun {levels e₁} => ?_⟩
  refine ⟨Runner.eval_atChange_of_error, fun {v} hlook => ?_⟩
  -- the moment at which the watch is done belongs to the history, so the memory is the last action
  have hcanonical : e.Canonical := (canonical_history config ops).moves h
  have hwatch : Moves e e₁ := moves_of_eval hcanonical hlook
  have hmoment : Moves (history config ops) e₁ := h.trans hwatch
  have hmemory : e₁.memories.seen node = (actions node e₁.trace).getLast? :=
    (actsOnChange_history hmoment hnode).memory
  have hsame (hseen : Value.sameOption (e₁.memories.seen node) (some v) = true) :
      form levels e = (.ok .neutral, e₁) := Runner.eval_atChange_of_same hlook hseen
  have hother (hseen : Value.sameOption (e₁.memories.seen node) (some v) = false) :
      form levels e =
        ((runner levels).evalAction (.rule id) n watch action).run.run (e₁.act node v) :=
    Runner.eval_atChange_of_not_same hlook hseen
  have hbody (hseen : Value.sameOption (e₁.memories.seen node) (some v) = false) :
      Moves (e₁.act node v) (form levels e).2 := by
    have hstart : Move e₁ (e₁.act node v) := .step (.act hseen)
    rw [hother hseen]
    exact moves_eval (hcanonical.moves (hwatch.tail hstart)) levels _ _ action
  refine ⟨fun {later} hlater => ?_, fun {w} hlast hw => hsame ?_, fun hnew => ?_⟩
  · cases hseen : Value.sameOption (e₁.memories.seen node) (some v) with
    | true =>
      -- what is remembered is the value of an action
      rw [hsame hseen] at hlater
      refine actions_ne_nil hlater fun hnone => ?_
      rw [hmemory, hnone] at hseen
      cases hseen
    | false =>
      obtain ⟨since, htrace, -⟩ := since_act hmoment hnode hseen ((hbody hseen).trans hlater)
      rw [htrace, actions_append, actions_acted]
      exact List.append_ne_nil_of_right_ne_nil _ (List.cons_ne_nil v _)
  · rw [hmemory, hlast]
    exact hw
  · have hseen : Value.sameOption (e₁.memories.seen node) (some v) = false := by
      rw [hmemory]
      cases hlast : (actions node e₁.trace).getLast? with
      | none => rfl
      | some w => exact hnew w hlast
    refine ⟨hother hseen, fun {r e₂ later} hform hlater => ?_⟩
    have hend : (form levels e).2 = e₂ := congrArg Prod.snd hform
    rw [← hend] at hlater
    obtain ⟨since, htrace, hnext, hwait⟩ :=
      since_act hmoment hnode hseen ((hbody hseen).trans hlater)
    refine ⟨since, htrace, hnext, fun hnone {levels again u} hagain hu => ?_⟩
    refine Runner.eval_atChange_of_same hagain ?_
    rw [hwait hnone]
    exact hu

/-- An engine with a rule that watches `a`, which is set, and whose action reads a symbol that is not. -/
def unheard : Engine :=
  history ⟨some 2, false, 1⟩ [.set "a" (.int 1), .define "p" "at a do missing"]

/-- An action that fails is not tried again while the watched value stays the same. -/
theorem failing_action_waits :
    let form := (runner 1).eval (.rule ⟨0⟩) 0 (.atChange (.var "a") (.var "missing"))
    let e := (form.run.run unheard).2
    (unheard.rules.get? ⟨0⟩).map Rule.body = some (.atChange (.var "a") (.var "missing")) ∧
      form.run.run unheard = (.error (.undefinedSymbol "missing"), e) ∧
      form.run.run e = (.ok .neutral, e.touch "a") ∧
      actions ⟨.rule ⟨0⟩, 0⟩ (e.touch "a").trace = [.int 1] := by
  intro form e
  have hmoment : Moves (history ⟨some 2, false, 1⟩
    [.set "a" (.int 1), .define "p" "at a do missing"]) unheard := .refl
  have hlook : ((runner 1).evalWatch (.rule ⟨0⟩) 0 (.var "a")).run.run unheard =
      (.ok (.int 1), unheard.touch "a") := rfl
  have hagain : ((runner 1).evalWatch (.rule ⟨0⟩) 0 (.var "a")).run.run e =
      (.ok (.int 1), e.touch "a") := rfl
  have hfresh : actions ⟨.rule ⟨0⟩, 0⟩ (unheard.touch "a").trace = [] := by decide +kernel
  have hfirst : ∀ w, (actions ⟨.rule ⟨0⟩, 0⟩ (unheard.touch "a").trace).getLast? = some w →
      w.same (.int 1) = false := by
    rw [hfresh]
    nofun
  have herror : form.run.run unheard = (.error (.undefinedSymbol "missing"), e) := rfl
  have hactions : actions ⟨.rule ⟨0⟩, 0⟩ (e.touch "a").trace = [.int 1] := by decide +kernel
  obtain ⟨-, hform⟩ := acts_on_change hmoment ⟨0⟩ 0 (.var "a") (.var "missing")
  obtain ⟨-, hlater⟩ := (hform.2 hlook).2.2 hfirst
  obtain ⟨since, htrace, -, hwait⟩ := hlater herror (.single (.step (.touch "a")))
  have hnone : actions ⟨.rule ⟨0⟩, 0⟩ since = [] := by
    have hall := hactions
    rw [htrace, actions_append, actions_acted, hfresh] at hall
    exact (List.cons.inj hall).2
  exact ⟨rfl, herror, hwait hnone hagain rfl, hactions⟩

end Cascade
