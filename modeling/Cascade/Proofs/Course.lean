import Cascade.Proofs.Agreement
import Cascade.Proofs.Subscription

/-!
# The course of a cascade

Between two engines that an operation takes one to the other there lie quiet steps, changes and runs.
A change is followed by one attempt to run each rule that was to be notified of it, one after the
other in ascending order, and what is done next waits for the last of them. An attempt finds the rule
gone, is refused, or evaluates the rule's tree, during which the same kinds of things happen again.

The courses are told by rules of their own, without the engine's functions; every operation on an
engine in order takes such a course.

§1 what follows a change, and a run; §2 courses; §3 a course is made of moves; §4 what single actions
come to; §5 every way to run rules takes courses.
-/

namespace Cascade

namespace Engine

/-! ## §1 What follows a change, and a run -/

/-- The rules to be notified that a symbol has changed; of `%` nobody is. -/
def notified (name : String) (e : Engine) : List RuleId :=
  if name = Symbol.lastChanged then [] else e.dependents name

/-- Makes a name the value of `%`, unless it is `%` itself. -/
def mark (name : String) (e : Engine) : Engine :=
  if name = Symbol.lastChanged then e else (e.store Symbol.lastChanged (.string name)).2

/-- Writes the failure of a run to the journal, if it failed. -/
def report (id : RuleId) (r : Except EvalError Value) (e : Engine) : Engine :=
  match r with
  | .ok _ => e
  | .error error => e.record (.ruleFailed (e.keyOf id) error)

/-- Keeps the value of a run with its rule, if it had one. -/
def keep (id : RuleId) (r : Except EvalError Value) (e : Engine) : Engine :=
  match r with
  | .ok v => e.keepResult id v
  | .error _ => e

/-- Whoever is notified of a change depends on the symbol, and nobody is notified of `%`. -/
theorem mem_notified {e : Engine} {name : String} {id : RuleId} :
    id ∈ e.notified name ↔ name ≠ Symbol.lastChanged ∧
      ∃ r, e.Registered id r ∧ ∃ d ∈ r.dependencies, Glob.covers d name = true := by
  unfold notified
  split
  · next h => simp [h]
  · next h => simp [h, mem_dependents]

theorem pairwise_notified (e : Engine) (name : String) :
    (e.notified name).Pairwise fun a b => a.slot < b.slot := by
  unfold notified
  split
  · exact .nil
  · exact e.pairwise_dependents name

/-- Marking makes `%` a symbol at most, or changes it. -/
theorem mark_cases (name : String) (e : Engine) :
    e.mark name = e ∨ e.mark name = e.touch Symbol.lastChanged ∨
      e.mark name = e.changed Symbol.lastChanged (.string name) := by
  unfold mark
  split
  · exact Or.inl rfl
  · rw [store_eq]
    split
    · exact Or.inr (Or.inl rfl)
    · exact Or.inr (Or.inr rfl)

theorem mark_depth (name : String) (e : Engine) : (e.mark name).depth = e.depth := by
  rcases mark_cases name e with h | h | h <;> rw [h] <;> rfl

theorem report_depth (id : RuleId) (r : Except EvalError Value) (e : Engine) :
    (e.report id r).depth = e.depth := by
  cases r <;> rfl

theorem keep_depth (id : RuleId) (r : Except EvalError Value) (e : Engine) :
    (e.keep id r).depth = e.depth := by
  cases r <;> rfl

/-! ## §2 Courses -/

/-- **What a part of a cascade is there for.** -/
inductive Phase where
  /-- Whatever an expression, a function or the host does. -/
  | free
  /-- Attempts to run these rules in turn, because of one change. -/
  | serve (ids : List RuleId)
  /-- One attempt to run this rule, which has this outcome. -/
  | attempt (id : RuleId) (r : Except EvalError Value)

/-- **A course** leads from one engine to another in one phase. -/
inductive Course : Phase → Engine → Engine → Prop
  | rest {e : Engine} : Course .free e e
  | step {e e₁ e₂ : Engine} : Course .free e e₁ → Step e₁ e₂ → Course .free e e₂
  | register {e e₁ : Engine} (name : String) (f : Native) :
      Course .free e e₁ → Course .free e (e₁.register name f)
  | crowded {e e₁ : Engine} (name : String) :
      Course .free e e₁ → Course .free e (e₁.record (.crowded name))
  /-- A symbol changes, `%` is set to its name, and the rules to be notified are served. -/
  | change {e e₁ e₂ : Engine} {name : String} {v : Value} : Course .free e e₁ →
      (e₁.symbolOf name).holds v = false →
      Course (.serve ((e₁.changed name v).notified name)) ((e₁.changed name v).mark name) e₂ →
      Course .free e e₂
  /-- The trigger of a rule is hit. -/
  | fire {e e₁ e₂ : Engine} {id : RuleId} {r : Except EvalError Value} : Course .free e e₁ →
      Course (.attempt id r) (e₁.record (.fired id)) e₂ → Course .free e (e₂.report id r)
  /-- The host or a native function asks for a run. -/
  | ask {e e₁ e₂ : Engine} {id : RuleId} {r : Except EvalError Value} : Course .free e e₁ →
      Course (.attempt id r) (e₁.record (.asked id)) e₂ → Course .free e e₂
  | served {e : Engine} : Course (.serve []) e e
  /-- The next rule is attempted, a failure is reported, and the others are served all the same. -/
  | next {e e₁ e₂ : Engine} {id : RuleId} {ids : List RuleId} {r : Except EvalError Value} :
      Course (.attempt id r) e e₁ → Course (.serve ids) (e₁.report id r) e₂ →
      Course (.serve (id :: ids)) e e₂
  /-- A rule that has been removed is passed over. -/
  | gone {e : Engine} {id : RuleId} : e.rules.get? id = none →
      Course (.attempt id (.ok .neutral)) e e
  | refused {e : Engine} {id : RuleId} {rule : Rule} {limit : Nat} :
      e.rules.get? id = some rule → e.limitReached? = some limit →
      Course (.attempt id (.error (.cascadeTooDeep limit))) e (e.record (.refused id))
  | exhausted {e : Engine} {id : RuleId} {rule : Rule} :
      e.rules.get? id = some rule → e.limitReached? = none →
      Course (.attempt id (.error .roomExhausted)) e
        (((e.enter id).record (.exhausted id)).leave id)
  /-- The rule's tree is evaluated, which takes a course of its own. -/
  | ran {e e₁ : Engine} {id : RuleId} {rule : Rule} {r : Except EvalError Value} {run : Runner} :
      e.rules.get? id = some rule → e.limitReached? = none →
      (run.eval (.rule id) 0 rule.body).run.run (e.enter id) = (r, e₁) →
      Course .free (e.enter id) e₁ → Course (.attempt id r) e ((e₁.leave id).keep id r)

/-! ## §3 A course is made of moves -/

/-- **A course leaves the depth as it was**, however it ends. -/
theorem Course.depth {phase : Phase} {e e' : Engine} (h : Course phase e e') :
    e'.depth = e.depth := by
  induction h with
  | rest => rfl
  | step _ hstep ih => rw [hstep.depth, ih]
  | register _ _ _ ih => exact ih
  | crowded _ _ ih => exact ih
  | change _ _ _ ih ihserve => rw [ihserve, mark_depth]; exact ih
  | fire _ _ ih ihrun => rw [report_depth, ihrun]; exact ih
  | ask _ _ ih ihrun => rw [ihrun]; exact ih
  | served => rfl
  | next _ _ ihrun ihserve => rw [ihserve, report_depth, ihrun]
  | gone _ => rfl
  | refused _ _ => rfl
  | exhausted _ _ => rfl
  | ran _ _ _ _ ih =>
    -- leaving takes back what entering has added
    rw [keep_depth]
    show _ - 1 = _
    rw [ih]
    rfl

/-- While a rule runs the depth is positive. -/
theorem Course.depth_pos {phase : Phase} {id : RuleId} {e e' : Engine}
    (h : Course phase (e.enter id) e') : 0 < e'.depth := by
  rw [h.depth]
  exact Nat.succ_pos e.depth

theorem moves_mark (name : String) (e : Engine) : Moves e (e.mark name) := by
  rcases mark_cases name e with h | h | h <;> rw [h]
  · exact .single (.step (.touch Symbol.lastChanged))
  · exact .single (.change Symbol.lastChanged (.string name))

theorem moves_report (id : RuleId) (r : Except EvalError Value) (e : Engine) :
    Moves e (e.report id r) := by
  cases r with
  | ok v => exact .refl
  | error error => exact .single (.report rfl)

theorem moves_keep (id : RuleId) (r : Except EvalError Value) (e : Engine) :
    Moves e (e.keep id r) := by
  cases r with
  | ok v => exact .single (.keepResult id v)
  | error error => exact .refl

/-- **Every course is made of moves.** -/
theorem Course.moves {phase : Phase} {e e' : Engine} (h : Course phase e e') : Moves e e' := by
  induction h with
  | rest => exact .refl
  | step _ hstep ih => exact ih.tail (.step hstep)
  | register name f _ ih => exact ih.tail (.register name f)
  | crowded name _ ih => exact ih.tail (.hitch rfl)
  | @change _ _ _ name v _ _ _ ih ihserve =>
    exact ((ih.tail (.change name v)).trans (moves_mark name _)).trans ihserve
  | fire _ _ ih ihrun => exact ((ih.tail (.report rfl)).trans ihrun).trans (moves_report _ _ _)
  | ask _ _ ih ihrun => exact (ih.tail (.report rfl)).trans ihrun
  | served => exact .refl
  | next _ _ ihrun ihserve => exact (ihrun.trans (moves_report _ _ _)).trans ihserve
  | gone _ => exact .refl
  | refused _ _ => exact .single (.hitch rfl)
  | @exhausted e id _ h hlimit =>
    have hdepth : 0 < ((e.enter id).record (.exhausted id)).depth := Nat.succ_pos e.depth
    exact ((Relation.ReflTransGen.single (.enter h hlimit)).tail (.hitch rfl)).tail
      (.leave id hdepth)
  | @ran e _ id _ _ _ h hlimit _ hbody ih =>
    have henter : Moves e (e.enter id) := .single (.enter h hlimit)
    exact ((henter.trans ih).tail (.leave id hbody.depth_pos)).trans (moves_keep _ _ _)

end Engine

open Engine

/-! ## §4 What single actions come to -/

section

variable {body : RuleId → Expr → Eval Value} {id : RuleId} {e : Engine}

theorem runRule_gone (h : e.rules.get? id = none) :
    (runRule body id).run.run e = (.ok .neutral, e) := by
  rw [runRule, run_look]
  simp only [h]
  rfl

theorem runRule_refused {rule : Rule} {limit : Nat} (h : e.rules.get? id = some rule)
    (hlimit : e.limitReached? = some limit) :
    (runRule body id).run.run e = (.error (.cascadeTooDeep limit), e.record (.refused id)) := by
  rw [runRule, run_look]
  simp only [h]
  rw [run_look]
  simp only [hlimit]
  rfl

/-- **A run within the limit** evaluates the tree, which may change the engine and may fail. -/
theorem runRule_ran {rule : Rule} {r : Except EvalError Value} {e₁ : Engine}
    (h : e.rules.get? id = some rule) (hlimit : e.limitReached? = none)
    (hbody : (body id rule.body).run.run (e.enter id) = (r, e₁)) :
    (runRule body id).run.run e = (r, (e₁.leave id).keep id r) := by
  have houtcome : (outcome (body id rule.body)).run (e.enter id) = (r, e₁) := hbody
  rw [runRule, run_look]
  simp only [h]
  rw [run_look]
  simp only [hlimit]
  rw [run_modify, run_lift, houtcome, run_modify]
  cases r with
  | ok v => rfl
  | error error => rfl

/-- What one attempt to run a rule comes to, a failure being reported. -/
def Runner.attempt (run : Runner) (e : Engine) (id : RuleId) : Engine :=
  ((run id).run.run e).2.report id ((run id).run.run e).1

theorem run_notify (run : Runner) (id : RuleId) (e : Engine) :
    (run.notify id).run e = ((), run.attempt e id) := by
  have hafter : ∀ p : Except EvalError Value × Engine,
      (match p.1 with
        | .ok _ => return ()
        | .error error => modify fun e => e.record (.ruleFailed (e.keyOf id) error) : Act Unit).run
          p.2 = ((), p.2.report id p.1) := by
    rintro ⟨_ | v, e₁⟩ <;> rfl
  exact hafter ((run id).run.run e)

/-- Of actions in turn the first comes first. -/
theorem run_forM_cons (x : α → Act PUnit) (a : α) (l : List α) (e : Engine) :
    ((a :: l).forM x).run e = (l.forM x).run ((x a).run e).2 := rfl

theorem run_forM_notify (run : Runner) (ids : List RuleId) (e : Engine) :
    (ids.forM run.notify).run e = ((), ids.foldl run.attempt e) := by
  induction ids generalizing e with
  | nil => rfl
  | cons id ids ih => rw [run_forM_cons, run_notify, ih, List.foldl_cons]

/-- A symbol that has just changed is observed by the rules that depend on it. -/
theorem symbolOf_observers (name : String) (v : Value) (h : e.Canonical) :
    (e.symbolOf name).observers = (e.changed name v).dependents name := by
  have hsymbol : (e.changed name v).symbols.get? name =
      some { e.symbolOf name with value := some v } := Table.get?_insert_self ..
  have hobservers := (h.move (.change name v)).follows.observers hsymbol
  exact hobservers

/-- **Setting a symbol** of an engine in order: a change is answered by one attempt for each of the
rules that depend on the symbol, in turn. -/
theorem run_set (run : Runner) (name : String) (v : Value) (h : e.Canonical) :
    (run.set name v).run e =
      if (e.symbolOf name).holds v then ((), e.touch name)
      else
        ((),
          ((e.changed name v).notified name).foldl run.attempt ((e.changed name v).mark name)) := by
  rw [run_set_eq, Engine.notified, Engine.mark]
  split
  · rfl
  · split
    · rfl
    · rw [symbolOf_observers name v h, run_forM_notify]

end

/-! ## §5 Every way to run rules takes courses -/

/-- **A way to run rules takes courses**: on an engine in order every run is an attempt. -/
def Runner.Courses (run : Runner) : Prop :=
  ∀ id {e : Engine}, e.Canonical →
    Course (.attempt id ((run id).run.run e).1) e ((run id).run.run e).2

namespace Runner.Courses

variable {run : Runner} {start e : Engine}

/-- Rules are served in turn, whatever becomes of each. -/
theorem serve (h : run.Courses) (ids : List RuleId) (he : e.Canonical) :
    Course (.serve ids) e (ids.foldl run.attempt e) := by
  induction ids generalizing e with
  | nil => exact .served
  | cons id ids ih =>
    have hrun := h id he
    have hattempt : (run.attempt e id).Canonical :=
      (he.moves hrun.moves).moves (moves_report _ _ _)
    exact .next hrun (ih hattempt)

/-- **Whatever is written for a way to run rules that takes courses goes on with the course.** -/
theorem agree (h : run.Courses) (hstart : start.Canonical) :
    run.Agree (Course .free start) run where
  step hcourse hstep := .step hcourse hstep
  set name v e hcourse := by
    have he : e.Canonical := hstart.moves hcourse.moves
    refine ⟨rfl, ?_⟩
    rw [run_set run name v he]
    split
    · exact .step hcourse (.touch name)
    · next hholds =>
      have hmark := (he.move (.change name v)).moves (moves_mark name _)
      exact .change hcourse (by simpa using hholds) (h.serve _ hmark)
  fire id e hcourse := by
    have he : (e.record (.fired id)).Canonical := (hstart.moves hcourse.moves).move (.report rfl)
    refine ⟨rfl, ?_⟩
    show Course .free start ((run.notify id).run (e.record (.fired id))).2
    rw [run_notify]
    exact .fire hcourse (h id he)
  ask id e hcourse := by
    have he : (e.record (.asked id)).Canonical := (hstart.moves hcourse.moves).move (.report rfl)
    exact ⟨rfl, .ask hcourse (h id he)⟩
  crowd := .inl fun name _ hcourse => .crowded name hcourse

end Runner.Courses

/-- **The engine's way to run rules takes courses**, whatever the room. -/
theorem courses_runner (levels : Nat) : (runner levels).Courses := by
  -- a tree is evaluated by the runner of one level less, whose runs take courses by induction
  induction levels with
  | zero =>
    intro id e he
    unfold runner
    cases h : e.rules.get? id with
    | none => rw [runRule_gone h]; exact .gone h
    | some rule =>
      cases hlimit : e.limitReached? with
      | some limit => rw [runRule_refused h hlimit]; exact .refused h hlimit
      | none =>
        rw [runRule_ran h hlimit (r := .error .roomExhausted) rfl]
        exact .exhausted h hlimit
  | succ levels ih =>
    intro id e he
    unfold runner
    cases h : e.rules.get? id with
    | none => rw [runRule_gone h]; exact .gone h
    | some rule =>
      cases hlimit : e.limitReached? with
      | some limit => rw [runRule_refused h hlimit]; exact .refused h hlimit
      | none =>
        have henter : (e.enter id).Canonical := he.move (.enter h hlimit)
        have hbody := (ih.agree henter).eval (.rule id) 0 rule.body .rest
        rw [runRule_ran h hlimit rfl]
        exact .ran h hlimit rfl hbody.2

end Cascade
