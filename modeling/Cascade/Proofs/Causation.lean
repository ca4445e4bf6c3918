import Cascade.Proofs.Confinement
import Cascade.Proofs.Nesting

/-!
# What brings what about in a cascade

While a cascade goes on there is a stack of rules whose trees are being evaluated, each of them started
by what the one below has set. What happens at any moment is due to the innermost rule: it sets the
symbols that its tree assigns to, and the rules that observe these are the next that can start.

All this can be read off the journal. Where only built-in functions can be called nothing else has a
part in it, and a rule that has not started is as it was.

§1 the running rules; §2 what is due; §3 rules that are unmoved; §4 tracing a cascade; §5 what keeps
the trace; §6 attempts at all levels; §7 setting a symbol and feeding a line.
-/

namespace Cascade

/-! ## §1 The running rules -/

/-- **The rules whose evaluation is going on**, the innermost first, as the journal of a cascade tells
them. -/
def running : List Event → List RuleId
  | [] => []
  | .began id :: before => id :: running before
  | .ended _ :: before => (running before).tail
  | _ :: before => running before

/-- A rule that is running has begun. -/
theorem began_of_mem_running {journal : List Event} {id : RuleId} (h : id ∈ running journal) :
    .began id ∈ journal := by
  induction journal with
  | nil => cases h
  | cons event before ih =>
    cases event with
    | began other =>
      rcases List.mem_cons.mp h with rfl | h
      · exact List.mem_cons_self ..
      · exact List.mem_cons_of_mem _ (ih h)
    | ended other => exact List.mem_cons_of_mem _ (ih (List.mem_of_mem_tail h))
    | _ => exact List.mem_cons_of_mem _ (ih h)

/-- Only the beginning and the end of a run change what is running. -/
theorem running_cons_of_other {event : Event} (h : event.isBeginning = false ∧ event.isEnd = false)
    (before : List Event) : running (event :: before) = running before := by
  obtain ⟨hbegin, hend⟩ := h
  cases event with
  | began => cases hbegin
  | ended => cases hend
  | _ => rfl

/-! ## §2 What is due -/

/-- **What may set off a cascade from outside**: symbols that may be set and rules that may be started
while no rule is running, and how many levels of nesting there are. -/
structure Origin where
  sets : String → Prop
  starts : RuleId → Prop
  levels : Nat

namespace Engine

section due

variable (e : Engine) (o : Origin)

/-- **What may be set** while some rules are running: what the tree of the innermost assigns to. -/
def MaySet : List RuleId → String → Prop
  | [], name => o.sets name
  | id :: _, name => ∃ r, e.rules.get? id = some r ∧ name ∈ r.body.targets

/-- **Which rule may start** while others are running: one that is notified of what may be set. -/
def MayStart (stack : List RuleId) (id : RuleId) : Prop :=
  (∃ name, e.MaySet o stack name ∧ id ∈ e.notified name) ∨ stack = [] ∧ o.starts id

/-- **Is an event due** while some rules are running? -/
def Due (stack : List RuleId) : Event → Prop
  | .changed name _ => name = Symbol.lastChanged ∨ e.MaySet o stack name
  | .began id => e.MayStart o stack id
  | .ended id => stack.head? = some id
  | .refused id => e.MayStart o stack id ∧
      ∃ n, e.config.maxDepth = some n ∧ n ≤ e.depth + stack.length
  | .exhausted id => stack.head? = some id ∧ o.levels < stack.length
  | .branched node _ | .acted node _ => ∃ id, stack.head? = some id ∧ node.owner = .rule id
  | .fired id => stack = [] ∧ o.starts id
  | .defined _ | .removed _ | .asked _ | .crowded _ => False
  | _ => True

/-- **Everything in a journal was due** when it happened. -/
def Justified : List Event → Prop
  | [] => True
  | event :: before => e.Due o (running before) event ∧ Justified before

end due

variable {e : Engine} {o : Origin}

theorem due_of_isRemark {event : Event} (h : event.isRemark = true) (stack : List RuleId) :
    e.Due o stack event := by
  cases event with
  | printed | reported | noted | lineRejected | lineIgnored => trivial
  | _ => cases h

/-- What was due in the whole was due in what came before. -/
theorem Justified.of_suffix {journal before : List Event} (h : e.Justified o journal)
    (hbefore : before <:+ journal) : e.Justified o before := by
  induction journal with
  | nil =>
    rw [List.suffix_nil.mp hbefore]
    trivial
  | cons event rest ih =>
    rcases List.suffix_cons_iff.mp hbefore with rfl | hrest
    · exact h
    · exact ih h.2 hrest

/-- Every event was due with what was running then. -/
theorem Justified.due {journal : List Event} (h : e.Justified o journal) {event : Event}
    (hmem : event ∈ journal) :
    ∃ before, event :: before <:+ journal ∧ e.Due o (running before) event := by
  obtain ⟨after, before, rfl⟩ := List.append_of_mem hmem
  have hsuffix : event :: before <:+ after ++ event :: before := List.suffix_append _ _
  exact ⟨before, hsuffix, (h.of_suffix hsuffix).1⟩

/-- **The stack of running rules is a path**: each rule in it was started by the one below. -/
inductive Chained (e : Engine) (o : Origin) : List RuleId → Prop
  | nil : Chained e o []
  | cons {id : RuleId} {stack : List RuleId} : e.MayStart o stack id → Chained e o stack →
      Chained e o (id :: stack)

theorem Chained.tail {stack : List RuleId} (h : e.Chained o stack) : e.Chained o stack.tail := by
  cases h with
  | nil => exact .nil
  | cons _ hrest => exact hrest

theorem Justified.chained {journal : List Event} (h : e.Justified o journal) :
    e.Chained o (running journal) := by
  induction journal with
  | nil => exact .nil
  | cons event before ih =>
    have hbefore : e.Chained o (running before) := ih h.2
    cases event with
    | began id => exact .cons h.1 hbefore
    | ended id => exact hbefore.tail
    | _ => exact hbefore

/-! ## §3 Rules that are unmoved -/

/-- **A rule is as it was**, its last result and its memories included. -/
structure Unmoved (id : RuleId) (e e' : Engine) : Prop where
  rule : e'.rules.get? id = e.rules.get? id
  truth : ∀ n, e'.memories.truth ⟨.rule id, n⟩ = e.memories.truth ⟨.rule id, n⟩
  seen : ∀ n, e'.memories.seen ⟨.rule id, n⟩ = e.memories.seen ⟨.rule id, n⟩

namespace Unmoved

variable {id : RuleId} {e e' e'' : Engine}

theorem trans (h : Unmoved id e e') (h' : Unmoved id e' e'') : Unmoved id e e'' :=
  ⟨h'.rule.trans h.rule, fun n => (h'.truth n).trans (h.truth n),
    fun n => (h'.seen n).trans (h.seen n)⟩

/-- What leaves rules and memories alone moves no rule. -/
theorem of_same (hrules : e'.rules = e.rules) (hmemories : e'.memories = e.memories) :
    Unmoved id e e' := by
  refine ⟨?_, fun n => ?_, fun n => ?_⟩
  · rw [hrules]
  · rw [hmemories]
  · rw [hmemories]

theorem branch {node : NodeRef} (hnode : node.owner ≠ .rule id) (b : Bool) (e : Engine) :
    Unmoved id e (e.branch node b) := by
  refine ⟨rfl, fun n => ?_, fun n => rfl⟩
  show (e.memories.setTruth node b).truth _ = _
  rw [Memories.truth_setTruth, if_neg]
  rintro rfl
  exact hnode rfl

theorem act {node : NodeRef} (hnode : node.owner ≠ .rule id) (v : Value) (e : Engine) :
    Unmoved id e (e.act node v) := by
  refine ⟨rfl, fun n => rfl, fun n => ?_⟩
  show (e.memories.setSeen node v).seen _ = _
  rw [Memories.seen_setSeen, if_neg]
  rintro rfl
  exact hnode rfl

theorem keep {other : RuleId} (hother : id ≠ other) (r : Except EvalError Value) (e : Engine) :
    Unmoved id e (e.keep other r) := by
  cases r with
  | error error => exact of_same rfl rfl
  | ok v =>
    refine ⟨?_, fun n => rfl, fun n => rfl⟩
    show (e.rules.update other _).get? id = _
    rw [Rules.get?_update, if_neg hother]

end Unmoved

/-! ## §4 Tracing a cascade -/

/-- Data that hits no trigger sets its key, if it has one. -/
theorem run_feedContent_of_miss {run : Runner} {content : String} {e : Engine}
    (hmiss : e.hit? content = none) :
    (run.feedContent content).run e =
      (match Line.assignment? content with
        | some (name, text) => run.set name (Value.readScalar text)
        | none => Cascade.record (.lineIgnored content) : Act Unit).run e := by
  have hlook : ∀ f : Engine → Act Unit, (get >>= f).run e = (f e).run e := fun _ => rfl
  unfold hit? at hmiss
  unfold Runner.feedContent
  rewrite [hlook, hmiss]
  cases Line.assignment? content <;> rfl

/-- **A cascade that has come from one engine to another**, with some rules running: rules, keys and
subscriptions are as they were, all that has happened was due, and a rule that has not begun is
unmoved. -/
structure Traced (start : Engine) (o : Origin) (stack : List RuleId) (e : Engine) : Prop where
  rules : SameRules start e
  observers : ∀ name, (e.symbolOf name).observers = (start.symbolOf name).observers
  depth : e.depth = start.depth + stack.length
  told : ∃ new, e.journal = new ++ start.journal ∧ running new = stack ∧ start.Justified o new ∧
    ∀ id, .began id ∉ new → Unmoved id start e

namespace Traced

variable {start : Engine} {stack stack' : List RuleId} {e e' : Engine}

theorem refl (start : Engine) (o : Origin) : Traced start o [] start :=
  ⟨.refl start, fun _ => rfl, rfl, [], rfl, rfl, trivial, fun _ _ => .of_same rfl rfl⟩

/-- One more event that was due, by which no rule is moved but the running ones. -/
theorem of_cons (h : Traced start o stack e) {event : Event} (hrules : SameRules start e')
    (hobservers : ∀ name, (e'.symbolOf name).observers = (e.symbolOf name).observers)
    (hdepth : e'.depth = start.depth + stack'.length) (hjournal : e'.journal = event :: e.journal)
    (hrunning : ∀ new, running new = stack → running (event :: new) = stack')
    (hdue : start.Due o stack event) (hunmoved : ∀ id, id ∉ stack → Unmoved id e e') :
    Traced start o stack' e' := by
  obtain ⟨new, hnew, rfl, hjustified, hrest⟩ := h.told
  refine ⟨hrules, fun name => (hobservers name).trans (h.observers name), hdepth, event :: new, ?_,
    hrunning new rfl, ⟨hdue, hjustified⟩, fun id hbegan => ?_⟩
  · rw [hjournal, hnew, List.cons_append]
  · have hbefore : .began id ∉ new := fun hmem => hbegan (List.mem_cons_of_mem _ hmem)
    have hstack : id ∉ running new := fun hmem => hbefore (began_of_mem_running hmem)
    exact (hrest id hbefore).trans (hunmoved id hstack)

/-- Nothing happened, and nothing that counts is different. -/
theorem of_same (h : Traced start o stack e) (hrules : SameRules start e')
    (hobservers : ∀ name, (e'.symbolOf name).observers = (e.symbolOf name).observers)
    (hdepth : e'.depth = e.depth) (hjournal : e'.journal = e.journal)
    (hsame : e'.rules = e.rules ∧ e'.memories = e.memories) : Traced start o stack e' := by
  obtain ⟨new, hnew, hstack, hjustified, hrest⟩ := h.told
  refine ⟨hrules, fun name => (hobservers name).trans (h.observers name), hdepth.trans h.depth, new,
    hjournal.trans hnew, hstack, hjustified, fun id hbegan => ?_⟩
  exact (hrest id hbegan).trans (.of_same hsame.1 hsame.2)

/-! ## §5 What keeps the trace -/

/-- An event by itself, neither the beginning nor the end of a run. -/
theorem record (h : Traced start o stack e) {event : Event}
    (hother : event.isBeginning = false ∧ event.isEnd = false) (hdue : start.Due o stack event) :
    Traced start o stack (e.record event) :=
  h.of_cons (h.rules.record event) (fun _ => rfl) h.depth rfl
    (fun new hnew => (running_cons_of_other hother new).trans hnew) hdue fun _ _ => .of_same rfl rfl

theorem report (h : Traced start o stack e) (id : RuleId) (r : Except EvalError Value) :
    Traced start o stack (e.report id r) := by
  cases r with
  | ok v => exact h
  | error error => exact h.record ⟨rfl, rfl⟩ trivial

theorem touch (h : Traced start o stack e) (name : String) : Traced start o stack (e.touch name) :=
  h.of_same (h.rules.touch name) (observers_symbolOf_touch e name) rfl rfl ⟨rfl, rfl⟩

theorem changed (h : Traced start o stack e) {name : String}
    (hname : name = Symbol.lastChanged ∨ start.MaySet o stack name) (v : Value) :
    Traced start o stack (e.changed name v) :=
  h.of_cons (h.rules.changed name v) (fun other => observers_symbolOf_changed e name other v)
    h.depth rfl (fun _ hnew => hnew) hname fun _ _ => .of_same rfl rfl

/-- `%` may be set at any time. -/
theorem store_last (h : Traced start o stack e) (v : Value) :
    Traced start o stack (e.store Symbol.lastChanged v).2 := by
  rw [store_eq]
  split
  · exact h.touch _
  · exact h.changed (.inl rfl) v

theorem branch {id : RuleId} (h : Traced start o (id :: stack) e) (n : Nat) (b : Bool) :
    Traced start o (id :: stack) (e.branch ⟨.rule id, n⟩ b) := by
  refine h.of_cons (h.rules.aside _ e.depth _) (fun _ => rfl) h.depth rfl (fun _ hnew => hnew)
    ⟨id, rfl, rfl⟩ fun other hother => .branch ?_ b e
  rintro heq
  cases heq
  exact hother (List.mem_cons_self ..)

theorem act {id : RuleId} (h : Traced start o (id :: stack) e) (n : Nat) (v : Value) :
    Traced start o (id :: stack) (e.act ⟨.rule id, n⟩ v) := by
  refine h.of_cons (h.rules.aside _ e.depth _) (fun _ => rfl) h.depth rfl (fun _ hnew => hnew)
    ⟨id, rfl, rfl⟩ fun other hother => .act ?_ v e
  rintro heq
  cases heq
  exact hother (List.mem_cons_self ..)

/-- A rule that may start begins. -/
theorem enter (h : Traced start o stack e) {id : RuleId} (hstart : start.MayStart o stack id) :
    Traced start o (id :: stack) (e.enter id) := by
  refine h.of_cons (h.rules.aside e.memories (e.depth + 1) _) (fun _ => rfl) ?_ rfl ?_ hstart
    fun _ _ => .of_same rfl rfl
  · show e.depth + 1 = _
    rw [h.depth, List.length_cons]
    omega
  · intro new hnew
    rw [running, hnew]

/-- The innermost rule ends. -/
theorem finish {id : RuleId} (h : Traced start o (id :: stack) e) (r : Except EvalError Value) :
    Traced start o stack (e.finish id r) := by
  have hleft : SameRules start (e.leave id) :=
    h.rules.aside e.memories (e.depth - 1) (.ended id :: e.journal)
  have hkept : Traced start o stack ((e.leave id).keep id r) := by
    have hdue : start.Due o (id :: stack) (.ended id) := rfl
    refine h.of_cons ?_ (fun name => ?_) ?_ ?_ ?_ hdue fun other hother => ?_
    · cases r with
      | ok v => exact hleft.keepResult id v
      | error error => exact hleft
    · cases r <;> rfl
    · rw [keep_depth]
      show e.depth - 1 = _
      rw [h.depth, List.length_cons]
      omega
    · cases r <;> rfl
    · intro new hnew
      rw [running, hnew, List.tail_cons]
    · have hne : other ≠ id := fun heq => hother (heq ▸ List.mem_cons_self ..)
      have hleave : Unmoved other e (e.leave id) := .of_same rfl rfl
      exact hleave.trans (.keep hne r (e.leave id))
  exact hkept.report id r

/-- Built-in functions leave the trace as it is. -/
theorem hears (hbuiltin : start.BuiltinsOnly) : Hears (While (Traced start o stack)) where
  value? := by rintro _ e ⟨rfl, -⟩ name; rfl
  functions := by rintro _ e ⟨rfl, -⟩; rfl
  quiet := by rintro _ e ⟨rfl, h⟩; exact (h.rules.builtinsOnly hbuiltin).quiet
  remark := by
    rintro _ e ⟨rfl, h⟩ event hremark
    have hother : event.isBeginning = false ∧ event.isEnd = false :=
      Event.not_turn (.inl (Event.isQuiet_of_isRemark hremark))
    exact ⟨rfl, h.record hother (due_of_isRemark hremark stack)⟩
  count := by
    rintro _ e ⟨rfl, h⟩ name f hf
    exact ⟨rfl, h.of_same (h.rules.countCall hf) (fun _ => rfl) rfl rfl ⟨rfl, rfl⟩⟩

/-! ## §6 Attempts at all levels -/

/-- **Attempts to run rules keep the trace**, as far as the rules may start. -/
def Attempts (start : Engine) (o : Origin) (stack : List RuleId) (run : Runner) : Prop :=
  ∀ {id}, start.MayStart o stack id → ∀ {e}, Traced start o stack e →
    Traced start o stack (run.attempt e id)

variable {run : Runner} {levels : Nat}

/-- Setting a symbol that may be set keeps the trace: its observers may start. -/
theorem set (hattempts : Attempts start o stack run) (hcanonical : start.Canonical) {name : String}
    (hname : start.MaySet o stack name) (v : Value) (h : Traced start o stack e) :
    Traced start o stack ((run.set name v).run e).2 := by
  rw [run_set_eq]
  split
  · exact h.touch name
  · have hchanged : Traced start o stack (e.changed name v) := h.changed (.inr hname) v
    split
    · exact hchanged
    · next hlast =>
      have hobservers : ∀ id ∈ (e.symbolOf name).observers, start.MayStart o stack id := by
        intro id hid
        rw [h.observers, hcanonical.follows.symbolOf] at hid
        refine .inl ⟨name, hname, ?_⟩
        rw [notified, if_neg hlast]
        exact hid
      have hserved : ∀ (ids : List RuleId), (∀ id ∈ ids, start.MayStart o stack id) →
          ∀ {e}, Traced start o stack e → Traced start o stack (ids.foldl run.attempt e) := by
        intro ids
        induction ids with
        | nil => exact fun _ _ h => h
        | cons id ids ih =>
          intro hids e h
          have hfirst := hattempts (hids id (List.mem_cons_self ..)) h
          exact ih (fun other hother => hids other (List.mem_cons_of_mem _ hother)) hfirst
      rw [run_forM_notify]
      exact hserved _ hobservers (hchanged.store_last _)

/-- An attempt keeps the trace if the evaluation of the rule's tree does. -/
theorem attempt {body : RuleId → Expr → Eval Value} {id : RuleId}
    (hstart : start.MayStart o stack id)
    (hbody : ∀ {r : Rule}, start.rules.get? id = some r → ∀ {e}, Traced start o (id :: stack) e →
      Traced start o (id :: stack) ((body id r.body).run.run e).2)
    (h : Traced start o stack e) :
    Traced start o stack (Runner.attempt (runRule body) e id) := by
  cases hr : e.rules.get? id with
  | none =>
    rw [attempt_gone hr]
    exact h
  | some rule =>
    cases hlimit : e.limitReached? with
    | some limit =>
      have hdepth : ∃ n, start.config.maxDepth = some n ∧ n ≤ start.depth + stack.length := by
        rw [← h.depth, ← h.rules.config]
        obtain ⟨hmax, hle⟩ := Option.filter_eq_some_iff.mp hlimit
        exact ⟨limit, hmax, by simpa using hle⟩
      have hdue : start.Due o stack (.refused id) := ⟨hstart, hdepth⟩
      rw [attempt_refused hr hlimit]
      exact (h.record ⟨rfl, rfl⟩ hdue).report id _
    | none =>
      -- the tree is still the one that the rule had at the start
      obtain ⟨r, hstartrule, htree⟩ := h.rules.body hr
      rw [attempt_ran hr hlimit, ← htree]
      exact (hbody hstartrule (h.enter hstart)).finish _

/-- **Attempts keep the trace at all levels of nesting.** -/
theorem attempts (hbuiltin : start.BuiltinsOnly) (hcanonical : start.Canonical)
    (hlevels : levels + stack.length = o.levels) : Attempts start o stack (Cascade.runner levels) := by
  -- a tree is evaluated with one level less and one more rule on the stack
  induction levels generalizing stack with
  | zero =>
    intro id hstart e h
    refine h.attempt hstart fun {r} _ {e} h => ?_
    have hdue : start.Due o (id :: stack) (.exhausted id) := by
      refine ⟨rfl, ?_⟩
      rw [List.length_cons]
      omega
    exact h.record ⟨rfl, rfl⟩ hdue
  | succ levels ih =>
    intro id hstart e h
    have hdeeper : Attempts start o (id :: stack) (Cascade.runner levels) := by
      apply ih
      rw [List.length_cons]
      omega
    refine h.attempt hstart fun {r} hr {e} h => ?_
    have halike : (Cascade.runner levels).Alike (While (Traced start o (id :: stack))) (.rule id)
        (fun name => name ∈ r.body.targets) (fun _ => True) (Cascade.runner levels) := by
      refine .of_kept (fun h name => h.touch name) (fun h n b _ => h.branch n b)
        (fun h n v _ => h.act n v) (fun hname v e h => ?_) (fun _ args e h => ?_)
      · exact ⟨rfl, rfl, h.set hdeeper hcanonical ⟨r, hr, hname⟩ v⟩
      · exact (hears hbuiltin).call _ args ⟨rfl, h⟩
    exact (halike.eval 0 r.body (fun _ hname => hname) (fun _ _ => trivial) ⟨rfl, h⟩).2.2

/-! ## §7 Setting a symbol and feeding a line -/

/-- **Setting a symbol from outside** keeps the trace of a cascade that it may set off. -/
theorem of_set (hbuiltin : start.BuiltinsOnly) (hcanonical : start.Canonical) {name : String}
    (hname : o.sets name) (v : Value) :
    Traced start o [] (((Cascade.runner o.levels).set name v).run start).2 := by
  have hset : start.MaySet o [] name := hname
  exact (refl start o).set (attempts hbuiltin hcanonical rfl) hcanonical hset v

/-- **Feeding a line of data from outside**, if any symbol and any trigger may set off a cascade. -/
theorem of_feedData (hbuiltin : start.BuiltinsOnly) (hcanonical : start.Canonical)
    (hsets : ∀ name, o.sets name) (hstarts : ∀ t ∈ start.triggers, o.starts t.rule)
    (line : String) : Traced start o [] (((Cascade.runner o.levels).feedData line).run start).2 := by
  have hattempts : Attempts start o [] (Cascade.runner o.levels) :=
    attempts hbuiltin hcanonical rfl
  have hfed : (Cascade.runner o.levels).Fed (While (Traced start o [])) o.starts
      (Cascade.runner o.levels) := by
    refine ⟨?_, ?_, (hears hbuiltin).remark, ?_, ?_⟩
    · rintro e _ ⟨rfl, -⟩
      rfl
    · rintro e _ ⟨rfl, h⟩ t ht
      exact hstarts t (h.rules.triggers ▸ ht)
    · rintro name v e _ ⟨rfl, h⟩
      exact ⟨rfl, rfl, h.set hattempts hcanonical (hsets name) v⟩
    · rintro id hid _ e ⟨rfl, h⟩
      have hdue : start.Due o [] (.fired id) := ⟨rfl, hid⟩
      have hrun := hattempts (.inr ⟨rfl, hid⟩) (h.record ⟨rfl, rfl⟩ hdue)
      refine ⟨rfl, rfl, ?_⟩
      show Traced start o [] (((Cascade.runner o.levels).notify id).run (e.record (.fired id))).2
      rw [run_notify]
      exact hrun
  exact (hfed.feedData line ⟨rfl, refl start o⟩).2.2

/-- A line of data that hits no trigger sets off nothing but by its key. -/
theorem of_feedData_of_miss (hbuiltin : start.BuiltinsOnly) (hcanonical : start.Canonical)
    (hsets : ∀ name, o.sets name) {line : String}
    (hmiss : start.hit? (Line.content line) = none) :
    Traced start o [] (((Cascade.runner o.levels).feedData line).run start).2 := by
  have hremark : ∀ {event : Event}, event.isRemark = true →
      Traced start o [] (start.record event) := fun hevent =>
    (refl start o).record (Event.not_turn (.inl (Event.isQuiet_of_isRemark hevent)))
      (due_of_isRemark hevent [])
  unfold Runner.feedData
  split
  · exact refl start o
  · rw [run_feedContent_of_miss hmiss]
    split
    · exact of_set hbuiltin hcanonical (hsets _) _
    · exact hremark rfl
  · exact hremark rfl

end Traced

end Engine

end Cascade
