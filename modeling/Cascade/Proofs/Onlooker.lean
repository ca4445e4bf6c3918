import Cascade.Proofs.Confinement
import Cascade.Proofs.Ownership

/-!
# A rule that only looks on

A rule that assigns nothing and calls nothing may be defined beside the others without any of them
noticing. It observes symbols, so it takes turns in cascades; it may fail, be refused, remember what it
saw and make symbols of the names that it reads. Still, data comes to the same values, print-outs and
results as without it, and what happens is the same, but for what tells of the rule itself.

The engine without the rule and the one with it are walked through side by side. Names that the rule
reads may be symbols on one side only; but a symbol that comes to be later is observed as if it had been
there all along, so it is enough to compare symbols as they are or would come to be.

§1 what tells of a rule; §2 one engine beside another; §3 steps of both; §4 what the rule does alone;
§5 the definition; §6 nobody notices.
-/

namespace Cascade

/-! ## §1 What tells of a rule -/

namespace Event

/-- The rule of which an event tells that it runs, or that a run is attempted. -/
def subject? : Event → Option RuleId
  | .began id | .ended id | .refused id | .exhausted id => some id
  | .branched ⟨.rule id, _⟩ _ | .acted ⟨.rule id, _⟩ _ => some id
  | _ => none

/-- The rule of which an event tells that an attempt to run it is over. -/
def closed? : Event → Option RuleId
  | .ended id | .refused id => some id
  | _ => none

/-- Does an event tell of a rule, given the events before it, the latest first? The report of a failure
tells of the rule to which the attempt belongs that was over just before. -/
def isOwn (id : RuleId) (before : List Event) : Event → Bool
  | .ruleFailed _ _ => before.head?.bind closed? = some id
  | event => event.subject? = some id

theorem subject?_of_closed? {event : Event} {id : RuleId} (h : event.closed? = some id) :
    event.subject? = some id := by
  cases event with
  | ended | refused => exact h
  | _ => cases h

theorem isOwn_of_subject? {event : Event} {id : RuleId} (h : event.subject? = some id)
    (before : List Event) : event.isOwn id before = true := by
  cases event with
  | ruleFailed => cases h
  | _ => exact decide_eq_true h

theorem isOwn_of_other {event : Event} {id other : RuleId} (h : event.subject? = some other)
    (hne : other ≠ id) (before : List Event) : event.isOwn id before = false := by
  have hno : event.subject? ≠ some id := by
    rw [h]
    exact fun heq => hne (Option.some.inj heq)
  cases event with
  | ruleFailed => cases h
  | _ => exact decide_eq_false hno

end Event

/-- **What remains of a journal** without the events that tell of a rule. -/
def apart (id : RuleId) : List Event → List Event
  | [] => []
  | event :: before =>
    if event.isOwn id before then apart id before else event :: apart id before

/-- The line that an event tells to have been printed. -/
def Event.printed? : Event → Option String
  | .printed line => some line
  | _ => none

/-- What is printed does not tell of a rule. -/
theorem filterMap_printed?_apart (id : RuleId) (journal : List Event) :
    (apart id journal).filterMap Event.printed? = journal.filterMap Event.printed? := by
  induction journal with
  | nil => rfl
  | cons event before ih =>
    rw [apart]
    split
    · next hown =>
      have hsilent : event.printed? = none := by
        cases event with
        | printed => cases hown
        | _ => rfl
      rw [ih, List.filterMap_cons_none hsilent]
    · rw [List.filterMap_cons, List.filterMap_cons, ih]

/-- **Two journals tell the same** since two starts, but for what the second tells of a rule. -/
def TellSame (id : RuleId) (start start' journal journal' : List Event) : Prop :=
  ∃ new new', journal = new ++ start ∧ journal' = new' ++ start' ∧ apart id new' = new

namespace TellSame

variable {id : RuleId} {start start' journal journal' : List Event}

theorem refl : TellSame id start start' start start' := ⟨[], [], rfl, rfl, rfl⟩

theorem both (h : TellSame id start start' journal journal') {event : Event}
    (hother : ∀ before, event.isOwn id before = false) :
    TellSame id start start' (event :: journal) (event :: journal') := by
  obtain ⟨new, new', rfl, rfl, hsame⟩ := h
  refine ⟨event :: new, event :: new', rfl, rfl, ?_⟩
  rw [apart, if_neg (by simp [hother]), hsame]

/-- The end of an attempt to run another rule, and the report of its failure. -/
theorem failed (h : TellSame id start start' journal journal') {event : Event} {other : RuleId}
    (hclosed : event.closed? = some other) (hne : other ≠ id) (key : String) (error : EvalError) :
    TellSame id start start' (.ruleFailed key error :: event :: journal)
      (.ruleFailed key error :: event :: journal') := by
  obtain ⟨new, new', rfl, rfl, hsame⟩ := h
  refine ⟨.ruleFailed key error :: event :: new, .ruleFailed key error :: event :: new', rfl, rfl, ?_⟩
  have hreport : (Event.ruleFailed key error).isOwn id (event :: new') = false := by
    refine decide_eq_false fun heq => hne ?_
    exact Option.some.inj (hclosed.symm.trans heq)
  have hend := Event.isOwn_of_other (Event.subject?_of_closed? hclosed) hne new'
  rw [apart, if_neg (by simp [hreport]), apart, if_neg (by simp [hend]), hsame]

theorem own (h : TellSame id start start' journal journal') {event : Event}
    (hown : event.subject? = some id) : TellSame id start start' journal (event :: journal') := by
  obtain ⟨new, new', rfl, rfl, hsame⟩ := h
  refine ⟨new, event :: new', rfl, rfl, ?_⟩
  rw [apart, if_pos (Event.isOwn_of_subject? hown new'), hsame]

theorem own_all (h : TellSame id start start' journal journal') {events : List Event}
    (hown : ∀ event ∈ events, event.subject? = some id) :
    TellSame id start start' journal (events ++ journal') := by
  induction events with
  | nil => exact h
  | cons event events ih =>
    have hlater := ih fun other hother => hown other (List.mem_cons_of_mem _ hother)
    exact hlater.own (hown event (List.mem_cons_self ..))

/-- The end of an attempt to run the rule, and the report of its failure. -/
theorem failed_own (h : TellSame id start start' journal journal') {event : Event}
    (hclosed : event.closed? = some id) (key : String) (error : EvalError) :
    TellSame id start start' journal (.ruleFailed key error :: event :: journal') := by
  obtain ⟨new, new', rfl, rfl, hsame⟩ := h
  refine ⟨new, .ruleFailed key error :: event :: new', rfl, rfl, ?_⟩
  have hreport : (Event.ruleFailed key error).isOwn id (event :: new') = true :=
    decide_eq_true hclosed
  have hend := Event.isOwn_of_subject? (Event.subject?_of_closed? hclosed) new'
  rw [apart, if_pos hreport, apart, if_pos hend, hsame]

end TellSame

/-! ## §2 One engine beside another -/

/-- **A tree only looks on** if it assigns nothing and calls nothing. It may branch and remember. -/
def Expr.OnlyLooks (tree : Expr) : Prop := tree.targets = [] ∧ tree.callees = []

namespace Engine

/-- **One engine beside another** that has one more rule, which only looks on. -/
structure Beside (id : RuleId) (start start' : List Event) (e e' : Engine) : Prop where
  config : e'.config = e.config
  depth : e'.depth = e.depth
  functions : e'.functions = e.functions
  quiet : e.QuietFunctions
  triggers : e'.triggers = e.triggers
  armed : ∀ t ∈ e.triggers, t.rule ≠ id
  value? : ∀ name, e'.value? name = e.value? name
  /-- The rule is notified last, if at all. -/
  observers : ∀ name, ∃ others,
    (e'.symbolOf name).observers = (e.symbolOf name).observers ++ others ∧
      (∀ other ∈ (e.symbolOf name).observers, other ≠ id) ∧ ∀ other ∈ others, other = id
  rules : ∀ {other}, other ≠ id → e'.rules.get? other = e.rules.get? other
  looks : ∃ r, e'.rules.get? id = some r ∧ r.body.OnlyLooks
  truth : ∀ {node}, node.owner ≠ .rule id → e'.memories.truth node = e.memories.truth node
  seen : ∀ {node}, node.owner ≠ .rule id → e'.memories.seen node = e.memories.seen node
  journal : TellSame id start start' e.journal e'.journal

/-! ## §3 Steps of both -/

namespace Beside

variable {id other : RuleId} {start start' : List Event} {e e' : Engine}

/-- Something happens on both sides that does not tell of the rule. -/
theorem record (h : Beside id start start' e e') {event : Event}
    (hother : ∀ before, event.isOwn id before = false) :
    Beside id start start' (e.record event) (e'.record event) :=
  { h with journal := h.journal.both hother }

theorem touch (h : Beside id start start' e e') (name : String) :
    Beside id start start' (e.touch name) (e'.touch name) :=
  { h with
    value? := fun other => by rw [value?_touch, value?_touch, h.value?]
    observers := fun other => by
      rw [observers_symbolOf_touch, observers_symbolOf_touch]
      exact h.observers other }

theorem changed (h : Beside id start start' e e') (name : String) (v : Value) :
    Beside id start start' (e.changed name v) (e'.changed name v) :=
  { h with
    value? := fun other => by rw [value?_changed, value?_changed, h.value?]
    observers := fun other => by
      rw [observers_symbolOf_changed, observers_symbolOf_changed]
      exact h.observers other
    journal := h.journal.both fun _ => rfl }

theorem countCall (h : Beside id start start' e e') {name : String} {f : Cascade.Registered}
    (hf : e.functions.get? name = some f) :
    Beside id start start' (e.countCall name f) (e'.countCall name f) :=
  { h with
    functions := by
      rw [Engine.countCall, Engine.countCall, h.functions]
    quiet := by
      intro other g hg count args
      rw [Engine.countCall, Table.get?_insert] at hg
      split at hg
      · cases hg
        exact h.quiet hf count args
      · exact h.quiet hg count args }

/-- A form of another rule that remembers does so on both sides. -/
theorem branch (h : Beside id start start' e e') (hne : other ≠ id) (n : Nat) (b : Bool) :
    Beside id start start' (e.branch ⟨.rule other, n⟩ b) (e'.branch ⟨.rule other, n⟩ b) :=
  { h with
    truth := fun {node} hnode => by
      show (e'.memories.setTruth _ b).truth node = (e.memories.setTruth _ b).truth node
      rw [Memories.truth_setTruth, Memories.truth_setTruth, h.truth hnode]
    journal := h.journal.both (Event.isOwn_of_other rfl hne) }

theorem act (h : Beside id start start' e e') (hne : other ≠ id) (n : Nat) (v : Value) :
    Beside id start start' (e.act ⟨.rule other, n⟩ v) (e'.act ⟨.rule other, n⟩ v) :=
  { h with
    seen := fun {node} hnode => by
      show (e'.memories.setSeen _ v).seen node = (e.memories.setSeen _ v).seen node
      rw [Memories.seen_setSeen, Memories.seen_setSeen, h.seen hnode]
    journal := h.journal.both (Event.isOwn_of_other rfl hne) }

theorem keyOf (h : Beside id start start' e e') (hne : other ≠ id) :
    e'.keyOf other = e.keyOf other := by
  rw [Engine.keyOf, Engine.keyOf, h.rules hne]

theorem refuse (h : Beside id start start' e e') (hne : other ≠ id) (limit : Nat) :
    Beside id start start' (e.refuse other limit) (e'.refuse other limit) := by
  refine { h with journal := ?_ }
  show TellSame id start start' (.ruleFailed (e.keyOf other) _ :: .refused other :: e.journal)
    (.ruleFailed (e'.keyOf other) _ :: .refused other :: e'.journal)
  rw [h.keyOf hne]
  exact h.journal.failed rfl hne _ _

theorem enter (h : Beside id start start' e e') (hne : other ≠ id) :
    Beside id start start' (e.enter other) (e'.enter other) :=
  { h with
    depth := congrArg (· + 1) h.depth
    journal := h.journal.both (Event.isOwn_of_other rfl hne) }

theorem finish (h : Beside id start start' e e') (hne : other ≠ id)
    (r : Except EvalError Value) :
    Beside id start start' (e.finish other r) (e'.finish other r) := by
  have hrules : ∀ {rule}, rule ≠ id →
      (e'.finish other r).rules.get? rule = (e.finish other r).rules.get? rule := by
    intro rule hrule
    rw [get?_finish, get?_finish, h.rules hne, h.rules hrule]
  have hlooks : (e'.finish other r).rules.get? id = e'.rules.get? id := by
    rw [get?_finish, if_neg (Ne.symm hne)]
  have hjournal : TellSame id start start' (e.finish other r).journal (e'.finish other r).journal := by
    cases r with
    | ok v => exact h.journal.both (Event.isOwn_of_other rfl hne)
    | error error =>
      show TellSame id start start' (.ruleFailed (e.keyOf other) _ :: .ended other :: e.journal)
        (.ruleFailed (e'.keyOf other) _ :: .ended other :: e'.journal)
      rw [h.keyOf hne]
      exact h.journal.failed rfl hne _ _
  rw [finish_frame other r e, finish_frame other r e']
  exact
    { h with
      depth := congrArg (· - 1) h.depth
      rules := hrules
      looks := hlooks ▸ h.looks
      journal := hjournal }

end Beside

/-! ## §4 What the rule does alone -/

/-- **What the tree of a rule does that only looks on**: it remembers what it saw, and makes symbols of
names. -/
structure Aside (id : RuleId) (s x : Engine) : Prop where
  frame : x = { s with symbols := x.symbols, memories := x.memories, journal := x.journal }
  value? : ∀ name, x.value? name = s.value? name
  observers : ∀ name, (x.symbolOf name).observers = (s.symbolOf name).observers
  truth : ∀ {node}, node.owner ≠ .rule id → x.memories.truth node = s.memories.truth node
  seen : ∀ {node}, node.owner ≠ .rule id → x.memories.seen node = s.memories.seen node
  journal : ∃ own, x.journal = own ++ s.journal ∧ ∀ event ∈ own, event.subject? = some id

namespace Aside

variable {id : RuleId} {s x : Engine}

theorem refl (id : RuleId) (s : Engine) : Aside id s s :=
  ⟨rfl, fun _ => rfl, fun _ => rfl, fun _ => rfl, fun _ => rfl, [], rfl, nofun⟩

/-- One more event that tells of the rule, with or without a memory of its own. -/
theorem record (h : Aside id s x) {event : Event} (hown : event.subject? = some id) :
    Aside id s (x.record event) := by
  obtain ⟨own, hjournal, hall⟩ := h.journal
  refine ⟨?_, h.value?, h.observers, h.truth, h.seen, event :: own, ?_, ?_⟩
  · rw [h.frame]
    rfl
  · exact congrArg (event :: ·) hjournal
  · intro other hmem
    rcases List.mem_cons.mp hmem with rfl | hmem
    · exact hown
    · exact hall other hmem

theorem touch (h : Aside id s x) (name : String) : Aside id s (x.touch name) := by
  refine ⟨?_, fun other => ?_, fun other => ?_, h.truth, h.seen, h.journal⟩
  · rw [h.frame]
    rfl
  · rw [value?_touch, h.value?]
  · rw [observers_symbolOf_touch, h.observers]

theorem branch (h : Aside id s x) (n : Nat) (b : Bool) :
    Aside id s (x.branch ⟨.rule id, n⟩ b) := by
  have hremember : Aside id s { x with memories := x.memories.setTruth ⟨.rule id, n⟩ b } := by
    refine ⟨?_, h.value?, h.observers, fun {node} hnode => ?_, h.seen, h.journal⟩
    · rw [h.frame]
    · have hne : node ≠ ⟨.rule id, n⟩ := fun heq => hnode (by rw [heq])
      rw [Memories.truth_setTruth, if_neg hne, h.truth hnode]
  exact hremember.record rfl

theorem act (h : Aside id s x) (n : Nat) (v : Value) : Aside id s (x.act ⟨.rule id, n⟩ v) := by
  have hremember : Aside id s { x with memories := x.memories.setSeen ⟨.rule id, n⟩ v } := by
    refine ⟨?_, h.value?, h.observers, h.truth, fun {node} hnode => ?_, h.journal⟩
    · rw [h.frame]
    · have hne : node ≠ ⟨.rule id, n⟩ := fun heq => hnode (by rw [heq])
      rw [Memories.seen_setSeen, if_neg hne, h.seen hnode]
  exact hremember.record rfl

/-- A tree that may neither assign nor call can do nothing else. -/
theorem alike (id : RuleId) (s : Engine) (run : Runner) :
    run.Alike (While (Aside id s)) (.rule id) (fun _ => False) (fun _ => False) run :=
  .of_kept (fun h name => h.touch name) (fun h n b _ => h.branch n b) (fun h n v _ => h.act n v)
    (fun hno => hno.elim) fun hno => hno.elim

theorem eval (run : Runner) (id : RuleId) {tree : Expr} (h : tree.OnlyLooks) (s : Engine) :
    Aside id s ((run.eval (.rule id) 0 tree).run.run s).2 := by
  have hset : ∀ name ∈ tree.targets, False := by simp [h.1]
  have hcall : ∀ name ∈ tree.callees, False := by simp [h.2]
  exact ((alike id s run).eval 0 tree hset hcall ⟨rfl, .refl id s⟩).2.2

end Aside

namespace Beside

variable {id : RuleId} {start start' : List Event} {e e' : Engine}

/-- What the rule does between the beginning of its run and the end. -/
theorem finish_own (h : Beside id start start' e e') {x : Engine} (hx : Aside id (e'.enter id) x)
    (r : Except EvalError Value) : Beside id start start' e (x.finish id r) := by
  have hframe := hx.frame
  have hrules : x.rules = e'.rules := by
    rw [hframe]
    rfl
  have hlooks : ∃ rule, (x.finish id r).rules.get? id = some rule ∧ rule.body.OnlyLooks := by
    obtain ⟨rule, hrule, hlooks⟩ := h.looks
    rw [get?_finish, if_pos rfl, hrules, hrule]
    cases r with
    | ok v => exact ⟨_, rfl, hlooks⟩
    | error error => exact ⟨_, rfl, hlooks⟩
  have hjournal : TellSame id start start' e.journal (x.finish id r).journal := by
    obtain ⟨own, heq, hall⟩ := hx.journal
    have hran : TellSame id start start' e.journal x.journal := by
      rw [heq]
      exact (h.journal.own rfl).own_all hall
    cases r with
    | ok v => exact hran.own rfl
    | error error => exact hran.failed_own rfl _ _
  have hget : ∀ {other}, other ≠ id → (x.finish id r).rules.get? other = e.rules.get? other := by
    intro other hne
    rw [get?_finish, if_neg hne, hrules, h.rules hne]
  rw [finish_frame id r x]
  exact
    { config := (congrArg Engine.config hframe).trans h.config
      depth := (congrArg (Engine.depth · - 1) hframe).trans h.depth
      functions := (congrArg Engine.functions hframe).trans h.functions
      quiet := h.quiet
      triggers := (congrArg Engine.triggers hframe).trans h.triggers
      armed := h.armed
      value? := fun name => (hx.value? name).trans (h.value? name)
      observers := fun name => by
        obtain ⟨others, hsame, hrest⟩ := h.observers name
        exact ⟨others, (hx.observers name).trans hsame, hrest⟩
      rules := hget
      looks := hlooks
      truth := fun hnode => (hx.truth hnode).trans (h.truth hnode)
      seen := fun hnode => (hx.seen hnode).trans (h.seen hnode)
      journal := hjournal }

/-- **An attempt to run the rule passes the first engine by**, whatever room there is. -/
theorem alone (h : Beside id start start' e e') (levels : Nat) :
    Beside id start start' e ((Cascade.runner levels).attempt e' id) := by
  obtain ⟨r, hr, hlooks⟩ := h.looks
  have hattempt : ∀ body : RuleId → Expr → Eval Value,
      Aside id (e'.enter id) ((body id r.body).run.run (e'.enter id)).2 →
        Beside id start start' e (Runner.attempt (runRule body) e' id) := by
    intro body hbody
    cases hlimit : e'.limitReached? with
    | some limit =>
      rw [attempt_refused hr hlimit]
      exact { h with journal := h.journal.failed_own rfl _ _ }
    | none =>
      rw [attempt_ran hr hlimit]
      exact h.finish_own hbody _
  cases levels with
  | zero => exact hattempt noRoom ((Aside.refl id _).record rfl)
  | succ levels => exact hattempt _ (Aside.eval (Cascade.runner levels) id hlooks _)

/-- **An engine beside another stays there**, whatever data comes to both. -/
theorem accord (id : RuleId) (start start' : List Event) :
    Accord (Beside id start start') fun other => other ≠ id where
  value? h := h.value?
  functions h := h.functions
  quiet h := h.quiet
  remark h event hremark := h.record fun _ => by
    cases event with
    | printed | reported | noted | lineRejected | lineIgnored => rfl
    | _ => cases hremark
  count h _ _ hf := h.countCall hf
  config h := h.config
  triggers h := h.triggers
  armed h := h.armed
  truth h _ hne _ := h.truth fun heq => hne (Owner.rule.inj heq)
  seen h _ hne _ := h.seen fun heq => hne (Owner.rule.inj heq)
  body h _ hne := by rw [h.rules hne]
  limit h := by rw [limitReached?, limitReached?, h.config, h.depth]
  observers h name := by
    obtain ⟨others, hsame, hold, hnew⟩ := h.observers name
    exact ⟨others, hsame, hold, fun other hother => not_not.mpr (hnew other hother)⟩
  touch h := h.touch
  changed h := h.changed
  branch h _ hne := h.branch hne
  act h _ hne := h.act hne
  fired h _ _ := h.record fun _ => rfl
  refuse h _ hne := h.refuse hne
  enter h _ hne := h.enter hne
  exhausted h _ hne := h.record (Event.isOwn_of_other rfl hne)
  finish h _ hne := h.finish hne
  alone h _ hid levels := by
    rw [not_not.mp hid]
    exact h.alone levels

end Beside

/-! ## §5 The definition -/

/-- A rule that is installed is notified behind the others, of the names that it depends on. -/
theorem observers_symbolOf_install {e : Engine} {r : Rule} (h : e.Canonical)
    (hfree : e.registry.get? r.key = none) (name : String) :
    ((e.install r).2.symbolOf name).observers = (e.symbolOf name).observers ++
      if r.dependencies.any (Glob.covers · name) then [e.rules.nextId] else [] := by
  have hfollows := (h.install hfree).follows
  have hsize : (e.install r).2.rules.size = e.rules.size + 1 := by
    rw [install_rules, Rules.size_add]
  have hlast : e.plan ⟨e.rules.size⟩ = [] := plan_eq_nil (Rules.get?_nextId _)
  rw [plan_install hfree, hsize, Rules.nextId] at hfollows
  rw [hfollows.symbolOf, h.follows.symbolOf, Plan.watchers_succ,
    Plan.watchers_congr (e.plan.add_below e.rules.size r.dependencies), Plan.add_self, hlast,
    List.nil_append, Rules.nextId]

/-- **An engine in which such a rule has been defined** under a free key is beside the one without. -/
theorem beside_install {e : Engine} {r : Rule} (hcanonical : e.Canonical) (howned : e.Owned)
    (hquiet : e.QuietFunctions) (hfree : e.registry.get? r.key = none)
    (hlooks : r.body.OnlyLooks) :
    Beside e.rules.nextId e.journal (.defined e.rules.nextId :: e.journal) e (e.install r).2 where
  config := install_config r e
  depth := install_depth r e
  functions := install_functions r e
  quiet := hquiet
  triggers := install_triggers r e
  armed t ht heq := by
    have hlt := howned.rule_lt ht
    rw [heq] at hlt
    exact Nat.lt_irrefl _ hlt
  value? := value?_install r e
  observers name := by
    refine ⟨_, observers_symbolOf_install hcanonical hfree name, ?_, ?_⟩
    · intro other hother heq
      rw [hcanonical.follows.symbolOf, heq, Plan.mem_watchers] at hother
      exact Nat.lt_irrefl _ hother.1
    · intro other hother
      split at hother
      · exact List.mem_singleton.mp hother
      · exact absurd hother List.not_mem_nil
  rules hne := by rw [install_rules, Rules.get?_add, if_neg hne]
  looks := ⟨r, by rw [install_rules, Rules.get?_add, if_pos rfl], hlooks⟩
  truth _ := by rw [install_memories]
  seen _ := by rw [install_memories]
  journal := install_journal r e ▸ .refl

end Engine

/-! ## §6 Nobody notices -/

open Engine

/-- **Nobody notices a rule that only looks on.** At every moment of every history at which only built-in
functions can be called, such a rule is defined under a free key, or is not. Whatever data comes then,
every symbol has the same value either way, the same lines are printed in the same order, every other
rule is the same, its last result included, and the same happens in the same order once the events of
the rule's own runs and the reports of its failures are left out. Every operation ends here, since a
run without room fails. -/
theorem onlooker_unnoticed {config : Config} {before ops : List Operation} {e : Engine}
    {key source : String} {body : Expr} {id : RuleId} (h : Moves (history config before) e)
    (hbuiltin : e.BuiltinsOnly) (hfree : e.registry.get? key = none)
    (hread : Expr.read source = .ok body) (hlooks : body.OnlyLooks)
    (hdefine : (e.define key source).1 = .ok id) (hdata : ∀ o ∈ ops, o.isData = true) :
    (∀ name, ((e.define key source).2.after ops).value? name = (e.after ops).value? name) ∧
      ((e.define key source).2.after ops).printed = (e.after ops).printed ∧
      (∀ other, other ≠ id →
        ((e.define key source).2.after ops).rules.get? other = (e.after ops).rules.get? other) ∧
      ∃ new new', (e.after ops).journal = new ++ e.journal ∧
        ((e.define key source).2.after ops).journal = new' ++ .defined id :: e.journal ∧
        apart id new' = new := by
  have hmoves : Moves (Engine.new config) e := (course_history config before).moves.trans h
  have hcanonical : e.Canonical := (canonical_history config before).moves h
  have howned : e.Owned := hmoves.keeps (fun h hmove => h.move hmove) (owned_new config)
  -- the definition installs the rule and does nothing else
  have hkey : key ≠ "" := by
    rintro rfl
    cases hdefine
  have hcompile : Rule.compile key source = .ok ⟨key, source, body, none⟩ := by
    unfold Rule.compile
    rw [hread]
  have hkept : e.free key = e := by
    rw [free, hfree]
  have hinstall := define_eq hkey hcompile e
  rw [hkept] at hinstall
  rw [hinstall] at hdefine ⊢
  cases hdefine
  have hrule : (⟨key, source, body, none⟩ : Rule).body.OnlyLooks := hlooks
  have hbeside := beside_install hcanonical howned hbuiltin.quiet hfree hrule
  have hafter := (Beside.accord _ _ _).after hdata hbeside
  obtain ⟨new, new', hnew, hnew', hsame⟩ := hafter.journal
  refine ⟨hafter.value?, ?_, fun other => hafter.rules, new, new', hnew, hnew', hsame⟩
  have hprinted : ∀ e : Engine, e.printed = e.journal.reverse.filterMap Event.printed? := by
    intro e
    refine List.filterMap_congr fun event _ => ?_
    cases event <;> rfl
  rw [hprinted, hprinted, List.filterMap_reverse, List.filterMap_reverse, hnew, hnew', ← hsame,
    List.filterMap_append, List.filterMap_append, filterMap_printed?_apart]
  rfl

/-- An engine in which one symbol is copied to another. -/
def copying : Engine := history .standard [.define "copy" "b = a"]

/-- A rule that remembers and fails looks on without changing a value or the result of the copy. -/
theorem copy_unnoticed :
    (∀ name, ((copying.define "watch" "edge_if a then a + b else 1").2.after
        [.set "a" (.bool true), .feedData "c 1"]).value? name =
      (copying.after [.set "a" (.bool true), .feedData "c 1"]).value? name) ∧
    ((copying.define "watch" "edge_if a then a + b else 1").2.after
        [.set "a" (.bool true), .feedData "c 1"]).rules.get? ⟨0⟩ =
      (copying.after [.set "a" (.bool true), .feedData "c 1"]).rules.get? ⟨0⟩ := by
  have hmoment : Moves (history .standard [.define "copy" "b = a"]) copying := .refl
  have hnew : (Engine.new .standard).BuiltinsOnly := fun _ _ => mem_functions_of_new
  have hdata : ∀ o ∈ [Operation.set "a" (.bool true), .feedData "c 1"], o.isData = true := by
    simp [Operation.isData]
  have hfree : copying.registry.get? "watch" = none := rfl
  have hread : Expr.read "edge_if a then a + b else 1" =
      .ok (.edgeIf (.var "a") (.binary .add (.var "a") (.var "b")) (.const (.int 1))) := rfl
  have hdefine : (copying.define "watch" "edge_if a then a + b else 1").1 = .ok ⟨1⟩ := rfl
  obtain ⟨hvalues, -, hrules, -⟩ :=
    onlooker_unnoticed hmoment hnew hfree hread ⟨rfl, rfl⟩ hdefine hdata
  exact ⟨hvalues, hrules ⟨0⟩ (by decide)⟩

end Cascade
