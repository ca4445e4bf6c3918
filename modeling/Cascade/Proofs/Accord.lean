import Cascade.Proofs.History

/-!
# Engines in accord

Two engines may have some rules in common while one of them has others besides. If they are related so
that whatever the rules they share do on both of them leaves them related, and so does whatever the
others do on the second engine alone, then all data that is fed to both leaves them related. With all
rules shared and the relation taken for one engine and itself, this says what data keeps.

What data brings about is setting symbols, running the rules that observe them, and calls of the
built-in functions; nothing of this defines or removes a rule.

§1 attempts; §2 relations that are an accord; §3 serving and evaluating; §4 attempts at all levels;
§5 data.
-/

namespace Cascade

namespace Engine

/-! ## §1 Attempts -/

/-- What remains of an attempt that is refused. -/
def refuse (id : RuleId) (limit : Nat) (e : Engine) : Engine :=
  (e.record (.refused id)).report id (.error (.cascadeTooDeep limit))

/-- What follows the evaluation of a rule's tree in an attempt. -/
def finish (id : RuleId) (r : Except EvalError Value) (e : Engine) : Engine :=
  ((e.leave id).keep id r).report id r

/-- The end of an attempt concerns the rule, the depth and the journal. -/
theorem finish_frame (id : RuleId) (r : Except EvalError Value) (e : Engine) :
    e.finish id r =
      { e with
        depth := e.depth - 1
        rules := (e.finish id r).rules
        journal := (e.finish id r).journal } := by
  cases r <;> rfl

theorem get?_finish (id other : RuleId) (r : Except EvalError Value) (e : Engine) :
    (e.finish id r).rules.get? other =
      if other = id then ((e.rules.get? id).map fun rule =>
        match r with
        | .ok v => { rule with lastResult := some v }
        | .error _ => rule)
      else e.rules.get? other := by
  cases r with
  | ok v => exact Rules.get?_update ..
  | error error =>
    split
    · next heq => rw [heq, Option.map_id']; rfl
    · rfl

end Engine

section attempt

variable {body : RuleId → Expr → Eval Value} {id : RuleId} {e : Engine}

theorem attempt_gone (h : e.rules.get? id = none) : Runner.attempt (runRule body) e id = e := by
  rw [Runner.attempt, runRule_gone h]
  rfl

theorem attempt_refused {rule : Rule} {limit : Nat} (h : e.rules.get? id = some rule)
    (hlimit : e.limitReached? = some limit) :
    Runner.attempt (runRule body) e id = e.refuse id limit := by
  rw [Runner.attempt, runRule_refused h hlimit]
  rfl

theorem attempt_ran {rule : Rule} (h : e.rules.get? id = some rule)
    (hlimit : e.limitReached? = none) :
    Runner.attempt (runRule body) e id =
      ((body id rule.body).run.run (e.enter id)).2.finish id
        ((body id rule.body).run.run (e.enter id)).1 := by
  rw [Runner.attempt, runRule_ran h hlimit rfl]
  rfl

end attempt

/-! ## §2 Relations that are an accord -/

/-- **A relation is an accord** of engines that share some rules: related engines show the shared
rules the same, and steps of shared rules, or of the others on the second engine alone, leave them
related. -/
structure Accord (R : Engine → Engine → Prop) (shared : RuleId → Prop) : Prop extends Hears R where
  config : ∀ {e e'}, R e e' → e'.config = e.config
  triggers : ∀ {e e'}, R e e' → e'.triggers = e.triggers
  armed : ∀ {e e'}, R e e' → ∀ t ∈ e.triggers, shared t.rule
  truth : ∀ {e e'}, R e e' → ∀ {id}, shared id → ∀ n,
    e'.memories.truth ⟨.rule id, n⟩ = e.memories.truth ⟨.rule id, n⟩
  seen : ∀ {e e'}, R e e' → ∀ {id}, shared id → ∀ n,
    e'.memories.seen ⟨.rule id, n⟩ = e.memories.seen ⟨.rule id, n⟩
  body : ∀ {e e'}, R e e' → ∀ {id}, shared id →
    (e'.rules.get? id).map Rule.body = (e.rules.get? id).map Rule.body
  limit : ∀ {e e'}, R e e' → e'.limitReached? = e.limitReached?
  /-- The second engine may notify others behind the shared rules. -/
  observers : ∀ {e e'}, R e e' → ∀ name, ∃ others,
    (e'.symbolOf name).observers = (e.symbolOf name).observers ++ others ∧
      (∀ id ∈ (e.symbolOf name).observers, shared id) ∧ ∀ id ∈ others, ¬ shared id
  touch : ∀ {e e'}, R e e' → ∀ name, R (e.touch name) (e'.touch name)
  changed : ∀ {e e'}, R e e' → ∀ name v, R (e.changed name v) (e'.changed name v)
  branch : ∀ {e e'}, R e e' → ∀ {id}, shared id → ∀ n b,
    R (e.branch ⟨.rule id, n⟩ b) (e'.branch ⟨.rule id, n⟩ b)
  act : ∀ {e e'}, R e e' → ∀ {id}, shared id → ∀ n v,
    R (e.act ⟨.rule id, n⟩ v) (e'.act ⟨.rule id, n⟩ v)
  fired : ∀ {e e'}, R e e' → ∀ {id}, shared id →
    R (e.record (.fired id)) (e'.record (.fired id))
  refuse : ∀ {e e'}, R e e' → ∀ {id}, shared id → ∀ limit,
    R (e.refuse id limit) (e'.refuse id limit)
  enter : ∀ {e e'}, R e e' → ∀ {id}, shared id → R (e.enter id) (e'.enter id)
  exhausted : ∀ {e e'}, R e e' → ∀ {id}, shared id →
    R (e.record (.exhausted id)) (e'.record (.exhausted id))
  finish : ∀ {e e'}, R e e' → ∀ {id}, shared id → ∀ r, R (e.finish id r) (e'.finish id r)
  alone : ∀ {e e'}, R e e' → ∀ {id}, ¬ shared id → ∀ levels,
    R e ((runner levels).attempt e' id)

/-- Is an operation one that brings data, a value for a symbol or a line in which only data is
accepted? -/
def Operation.isData : Operation → Bool
  | .set _ _ | .feedData _ => true
  | _ => false

/-- **Attempts to run shared rules go together.** -/
def Runner.Attempts (R : Engine → Engine → Prop) (shared : RuleId → Prop) (run : Runner) : Prop :=
  ∀ {id}, shared id → ∀ {e e'}, R e e' → R (run.attempt e id) (run.attempt e' id)

namespace Accord

variable {R : Engine → Engine → Prop} {shared : RuleId → Prop} {levels : Nat} {e e' : Engine}

/-! ## §3 Serving and evaluating -/

/-- Shared rules are served on both engines, and behind them others on the second one. -/
theorem serve (h : Accord R shared) (hattempts : (runner levels).Attempts R shared)
    {ids others : List RuleId} (hids : ∀ id ∈ ids, shared id) (hothers : ∀ id ∈ others, ¬ shared id)
    (hR : R e e') :
    R (ids.foldl (runner levels).attempt e) ((ids ++ others).foldl (runner levels).attempt e') := by
  induction ids generalizing e e' with
  | cons id ids ih =>
    have hid : shared id := hids id (List.mem_cons_self ..)
    exact ih (fun other hother => hids other (List.mem_cons_of_mem _ hother)) (hattempts hid hR)
  | nil =>
    show R e (others.foldl (runner levels).attempt e')
    induction others generalizing e' with
    | nil => exact hR
    | cons id others ih =>
      have hid : ¬ shared id := hothers id (List.mem_cons_self ..)
      exact ih (fun other hother => hothers other (List.mem_cons_of_mem _ hother))
        (h.alone hR hid levels)

theorem set_runner (h : Accord R shared) (hattempts : (runner levels).Attempts R shared) (name : String)
    (v : Value) (hR : R e e') :
    Together R ((runner levels).set name v) ((runner levels).set name v) e e' := by
  refine Together.set h.value? h.touch h.changed (fun hR name m m' hm => ?_) name v hR
  obtain ⟨others, hsame, hshared, hothers⟩ := h.observers hR name
  unfold Together
  rw [hsame, run_forM_notify, run_forM_notify]
  exact ⟨rfl, h.serve hattempts hshared hothers hm⟩

/-- The trees of shared rules go together. -/
theorem alike (h : Accord R shared) (hattempts : (runner levels).Attempts R shared) {id : RuleId}
    (hid : shared id) :
    (runner levels).Alike R (.rule id) (fun _ => True) (fun _ => True) (runner levels) where
  value? := h.value?
  truth hR n := h.truth hR hid n
  seen hR n := h.seen hR hid n
  touch := h.touch
  branch {_ _} hR {n b} _ := h.branch hR hid n b
  act {_ _} hR {n v} _ := h.act hR hid n v
  set _ v _ _ hR := h.set_runner hattempts _ v hR
  call _ args _ _ hR := h.toHears.call _ args hR

/-! ## §4 Attempts at all levels -/

/-- An attempt goes together if the tree of the rule does. -/
theorem attempt (h : Accord R shared) {body : RuleId → Expr → Eval Value} {id : RuleId}
    (hid : shared id)
    (hbody : ∀ x {e e'}, R e e' → Together R (body id x).run (body id x).run e e') (hR : R e e') :
    R (Runner.attempt (runRule body) e id) (Runner.attempt (runRule body) e' id) := by
  have hrule := h.body hR hid
  have hlimit' := h.limit hR
  cases hr : e.rules.get? id with
  | none =>
    rw [hr, Option.map_none, Option.map_eq_none_iff] at hrule
    rw [attempt_gone hr, attempt_gone hrule]
    exact hR
  | some rule =>
    rw [hr] at hrule
    obtain ⟨rule', hr', hsame⟩ := Option.map_eq_some_iff.mp hrule
    cases hlimit : e.limitReached? with
    | some limit =>
      rw [attempt_refused hr hlimit, attempt_refused hr' (hlimit'.trans hlimit)]
      exact h.refuse hR hid limit
    | none =>
      obtain ⟨hanswer, hleft⟩ := hbody rule.body (h.enter hR hid)
      rw [attempt_ran hr hlimit, attempt_ran hr' (hlimit'.trans hlimit), hsame, ← hanswer]
      exact h.finish hleft hid _

/-- **Attempts to run shared rules go together**, whatever room there is for nested runs. -/
theorem attempts (h : Accord R shared) (levels : Nat) : (runner levels).Attempts R shared := by
  -- a tree is evaluated by the runner of one level less
  induction levels with
  | zero =>
    intro id hid e e' hR
    exact h.attempt hid (fun x e e' hR => ⟨rfl, h.exhausted hR hid⟩) hR
  | succ levels ih =>
    intro id hid e e' hR
    have halike := h.alike ih hid
    refine h.attempt hid (fun x e e' hR => ?_) hR
    exact halike.eval 0 x (fun _ _ => trivial) (fun _ _ => trivial) hR

/-! ## §5 Data -/

/-- Setting, feeding and firing go together, whatever room there is. -/
theorem fed (h : Accord R shared) (levels : Nat) : (runner levels).Fed R shared (runner levels) where
  triggers := h.triggers
  allowed := h.armed
  remark := h.remark
  set name v _ _ hR := h.set_runner (h.attempts levels) name v hR
  fire {id} hid e e' hR := by
    have hattempt := h.attempts levels hid (h.fired hR hid)
    have hfire : ∀ e : Engine, ((runner levels).fire id).run e =
        ((), (runner levels).attempt (e.record (.fired id)) id) := fun e =>
      run_notify (runner levels) id (e.record (.fired id))
    rw [Together, hfire, hfire]
    exact ⟨rfl, hattempt⟩

theorem set (h : Accord R shared) (name : String) (v : Value) (hR : R e e') :
    Together R (Engine.set name v) (Engine.set name v) e e' := by
  have hset := h.set_runner (h.attempts e.config.depths) name v hR
  unfold Engine.set
  refine .lookAct ?_
  rw [Engine.runner, Engine.runner, h.config hR]
  exact hset

theorem feedData (h : Accord R shared) (line : String) (hR : R e e') :
    Together R (Engine.feedData line) (Engine.feedData line) e e' := by
  have hfeed := (h.fed e.config.depths).feedData line hR
  unfold Engine.feedData
  refine .lookAct ?_
  rw [Engine.runner, Engine.runner, h.config hR]
  exact hfeed

/-- **Data leaves engines in accord**, however much of it there is. -/
theorem after (h : Accord R shared) {ops : List Operation} (hdata : ∀ o ∈ ops, o.isData = true)
    (hR : R e e') : R (e.after ops) (e'.after ops) := by
  induction ops generalizing e e' with
  | nil => exact hR
  | cons o ops ih =>
    have hrest : ∀ other ∈ ops, other.isData = true := fun other hother =>
      hdata other (List.mem_cons_of_mem _ hother)
    have hfirst : Together R o.perform o.perform e e' := by
      cases o with
      | set name v => exact .bind (h.set name v hR) fun _ _ _ hR => .pure _ hR
      | feedData line => exact .bind (h.feedData line hR) fun _ _ _ hR => .pure _ hR
      | _ => cases hdata _ (List.mem_cons_self ..)
    exact ih hrest hfirst.2

end Accord

end Cascade
