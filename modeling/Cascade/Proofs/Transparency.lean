import Cascade.Proofs.Nesting

/-!
# A limit that is never hit makes no difference

The limit of nested runs is asked before every run and nowhere else. So an engine under a wider limit,
or under none, does the same as one under the narrow limit, up to the moment when the narrow one
refuses a run. The two engines are compared action by action: the second one follows the first, as
long as the first meets nothing that the settings or the levels of nesting would decide otherwise.

Taken for one setting and two numbers of levels, the same comparison says that levels which are not
used up make no difference.

§1 settings side by side; §2 what stands in the way; §3 following; §4 runs; §5 everything else;
§6 operations and histories.
-/

namespace Cascade

/-! ## §1 Settings side by side -/

/-- **The limits of some settings lie within those of others**; no limit is wider than any. -/
structure Config.Within (c c' : Config) : Prop where
  depth : ∀ m, c'.maxDepth = some m → ∃ n, c.maxDepth = some n ∧ n ≤ m
  room : c.room ≤ c'.room

theorem Config.within_refl (c : Config) : c.Within c :=
  ⟨fun m hm => ⟨m, hm, Nat.le_refl m⟩, Nat.le_refl c.room⟩

namespace Engine

/-- **The engine under other settings.** -/
def withConfig (c : Config) (e : Engine) : Engine := { e with config := c }

variable (c : Config) (e : Engine)

theorem withConfig_subscribeAll (id : RuleId) (ds : List String) :
    (e.withConfig c).subscribeAll id ds = (e.subscribeAll id ds).withConfig c := by
  have hone : ∀ (e : Engine) (d : String),
      (e.withConfig c).subscribe id d = (e.subscribe id d).withConfig c := by
    intro e d
    unfold subscribe
    split <;> rfl
  induction ds generalizing e with
  | nil => rfl
  | cons d ds ih =>
    show ((e.withConfig c).subscribe id d).subscribeAll id ds = _
    rw [hone, ih]
    rfl

theorem withConfig_unsubscribeAll (id : RuleId) (ds : List String) :
    (e.withConfig c).unsubscribeAll id ds = (e.unsubscribeAll id ds).withConfig c := by
  induction ds generalizing e with
  | nil => rfl
  | cons d ds ih => exact ih (e.unsubscribe id d)

theorem withConfig_install (r : Rule) :
    (e.withConfig c).install r = ((e.install r).1, (e.install r).2.withConfig c) := by
  have hsubscribed := withConfig_subscribeAll c (housing r e) e.rules.nextId r.dependencies
  show (e.rules.nextId, record (.defined e.rules.nextId)
    (((housing r e).withConfig c).subscribeAll e.rules.nextId r.dependencies)) = _
  rw [hsubscribed]
  rfl

theorem withConfig_uninstall (key : String) (id : RuleId) :
    (e.withConfig c).uninstall key id = (e.uninstall key id).withConfig c := by
  have hrules : (e.withConfig c).rules = e.rules := rfl
  unfold uninstall
  rw [hrules]
  cases e.rules.get? id with
  | none => rfl
  | some r =>
    have hunsubscribed := withConfig_unsubscribeAll c
      { e with
        registry := e.registry.erase key
        rules := e.rules.remove id
        wildcards := e.wildcards.filter (·.2 != id) } id r.dependencies
    exact congrArg (record (.removed id)) hunsubscribed

/-- **Rules are defined the same** under any settings. -/
theorem withConfig_define (key source : String) :
    (e.withConfig c).define key source =
      ((e.define key source).1, (e.define key source).2.withConfig c) := by
  have hfree : (e.withConfig c).free key = (e.free key).withConfig c := by
    have hregistry : (e.withConfig c).registry = e.registry := rfl
    unfold free
    rw [hregistry]
    cases e.registry.get? key with
    | none => rfl
    | some id => exact withConfig_uninstall c e key id
  unfold define
  split
  · rfl
  · cases Rule.compile key source with
    | error error => rfl
    | ok r =>
      show (Except.ok ((e.withConfig c).free key |>.install r).1,
        ((e.withConfig c).free key |>.install r).2) = _
      rw [hfree, withConfig_install]

theorem withConfig_remove (key : String) :
    (e.withConfig c).remove key = ((e.remove key).1, (e.remove key).2.withConfig c) := by
  have hregistry : (e.withConfig c).registry = e.registry := rfl
  unfold remove
  rw [hregistry]
  cases e.registry.get? key with
  | none => rfl
  | some id =>
    show (Except.ok (), (e.withConfig c).uninstall key id) = _
    rw [withConfig_uninstall]

theorem withConfig_defineTrigger (pattern source : String) :
    (e.withConfig c).defineTrigger pattern source =
      ((e.defineTrigger pattern source).1, (e.defineTrigger pattern source).2.withConfig c) := by
  unfold defineTrigger
  cases Rule.compile (triggerKey pattern) source with
  | error error => rfl
  | ok r =>
    cases Pattern.compile pattern with
    | error error => rfl
    | ok p => rfl

/-- A wider limit that is reached was reached before. -/
theorem limitReached?_withConfig {c c' : Config} (hwithin : c.Within c') {e : Engine}
    (hconfig : e.config = c) (h : e.limitReached? = none) :
    (e.withConfig c').limitReached? = none := by
  cases hdepth : c'.maxDepth with
  | none =>
    show c'.maxDepth.filter _ = none
    rw [hdepth]
    rfl
  | some m =>
    obtain ⟨n, hn, hle⟩ := hwithin.depth m hdepth
    have hroom : e.depth < n := (limitReached?_eq_none (by rw [hconfig, hn])).mp h
    refine (limitReached?_eq_none (n := m) hdepth).mpr ?_
    show e.depth < m
    omega

end Engine

/-! ## §2 What stands in the way -/

/-- Does an event stand in the way of following under other settings? To have no room does; to be
refused does unless the limits are the same. -/
def Event.isBar (c c' : Config) : Event → Bool
  | .exhausted _ => true
  | .refused _ => decide (c.maxDepth ≠ c'.maxDepth)
  | .crowded _ => decide (c.room ≠ c'.room)
  | _ => false

/-- **Nothing has stood in the way** since the journal was as given. -/
def Unbarred (c c' : Config) (start journal : List Event) : Prop :=
  ∃ new, journal = new ++ start ∧ ∀ event ∈ new, event.isBar c c' = false

/-- If nothing stands in the way of the whole, then of neither part. -/
theorem Unbarred.parts {c c' : Config} {a b d : List Event} (h : Unbarred c c' a d) (hab : a <:+ b)
    (hbd : b <:+ d) : Unbarred c c' a b ∧ Unbarred c c' b d := by
  obtain ⟨new, hd, hno⟩ := h
  obtain ⟨first, rfl⟩ := hab
  obtain ⟨second, rfl⟩ := hbd
  have hsame : second ++ first ++ a = new ++ a := by
    rw [← hd, List.append_assoc]
  have hnew : second ++ first = new := List.append_cancel_right hsame
  subst hnew
  constructor
  · exact ⟨first, rfl, fun event hevent => hno event (List.mem_append_right _ hevent)⟩
  · exact ⟨second, rfl, fun event hevent => hno event (List.mem_append_left _ hevent)⟩

theorem Unbarred.head {c c' : Config} {start : List Event} {event : Event}
    (h : Unbarred c c' start (event :: start)) : event.isBar c c' = false := by
  obtain ⟨new, hnew, hno⟩ := h
  have hsame : [event] ++ start = new ++ start := hnew
  have hone : [event] = new := List.append_cancel_right hsame
  exact hno event (hone ▸ List.mem_singleton_self event)

/-! ## §3 Following -/

/-- **One action follows another**: unless the first meets something that stands in the way, the second
has the same answer and comes to the same engine, under its own settings. -/
structure Follows (c c' : Config) (x y : Act α) (e e' : Engine) : Prop where
  grows : e.journal <:+ (x.run e).2.journal
  config : (x.run e).2.config = c
  same : Unbarred c c' e.journal (x.run e).2.journal →
    y.run e' = ((x.run e).1, (x.run e).2.withConfig c')

/-- **An engine beside itself under other settings.** -/
def Engine.Alongside (c c' : Config) (e e' : Engine) : Prop := e.config = c ∧ e' = e.withConfig c'

namespace Follows

variable {c c' : Config} {e e' : Engine}

theorem of_run {x y : Act α} {a : α} {e₁ : Engine} (hx : x.run e = (a, e₁))
    (hgrows : e.journal <:+ e₁.journal) (hconfig : e₁.config = c)
    (hsame : Unbarred c c' e.journal e₁.journal → y.run e' = (a, e₁.withConfig c')) :
    Follows c c' x y e e' := by
  refine ⟨?_, ?_, ?_⟩ <;> rw [hx]
  · exact hgrows
  · exact hconfig
  · exact hsame

theorem pure (a : α) (h : e.Alongside c c' e') :
    Follows c c' (Pure.pure a) (Pure.pure a) e e' := by
  obtain ⟨hconfig, rfl⟩ := h
  exact of_run rfl List.suffix_rfl hconfig fun _ => rfl

theorem bind {x y : Act α} {f g : α → Act β} (h : Follows c c' x y e e')
    (hnext : ∀ a {e e'}, e.Alongside c c' e' → Follows c c' (f a) (g a) e e') :
    Follows c c' (x >>= f) (y >>= g) e e' := by
  have hx : (x >>= f).run e = (f (x.run e).1).run (x.run e).2 := rfl
  have hy : (y >>= g).run e' = (g (y.run e').1).run (y.run e').2 := rfl
  have hthen := hnext (x.run e).1 ⟨h.config, rfl⟩
  refine ⟨?_, ?_, ?_⟩
  · rw [hx]
    exact h.grows.trans hthen.grows
  · rw [hx]
    exact hthen.config
  · rw [hx, hy]
    intro hunbarred
    obtain ⟨hfirst, hsecond⟩ := hunbarred.parts h.grows hthen.grows
    rw [h.same hfirst]
    exact hthen.same hsecond

/-- An action that does the same under any settings. -/
theorem of_same {x : Act α} (h : e.Alongside c c' e') (hgrows : e.journal <:+ (x.run e).2.journal)
    (hconfig : (x.run e).2.config = e.config)
    (hsame : x.run (e.withConfig c') = ((x.run e).1, (x.run e).2.withConfig c')) :
    Follows c c' x x e e' := by
  obtain ⟨hc, rfl⟩ := h
  exact ⟨hgrows, hconfig.trans hc, fun _ => hsame⟩

/-- What only writes to the journal something that stands in the way is followed by anything. -/
theorem of_bar {x y : Act α} {event : Event} {a : α} (h : e.Alongside c c' e')
    (hx : x.run e = (a, e.record event)) (hbar : event.isBar c c' = true) :
    Follows c c' x y e e' := by
  refine of_run hx (List.suffix_cons event e.journal) h.1 fun hunbarred => ?_
  rw [show event.isBar c c' = false from hunbarred.head] at hbar
  cases hbar

/-- Writing to the journal. -/
theorem record (event : Event) (h : e.Alongside c c' e') :
    Follows c c' (record event) (record event) e e' :=
  of_same h (List.suffix_cons event e.journal) rfl rfl

/-- Plain steps that are the same under any settings. -/
theorem plains {k : Engine → α × Engine} (h : e.Alongside c c' e')
    (hplains : Engine.Plains e (k e).2)
    (hsame : k (e.withConfig c') = ((k e).1, (k e).2.withConfig c')) :
    Follows c c' (modifyGet k) (modifyGet k) e e' := by
  refine of_same h ?_ ?_ hsame
  · exact hplains.moves.journal
  · exact Engine.Plains.keeps (S := fun m => m.config = e.config)
      (fun hm hplain => hplain.step.config.trans hm) rfl hplains

end Follows

/-- **To follow is a comparison.** -/
def Comparison.follow (c c' : Config) : Comparison where
  related := Engine.Alongside c c'
  holds := Follows c c'
  pure a _ _ h := .pure a h
  bind h hnext := h.bind hnext
  look h := ⟨h.grows, h.config, h.same⟩

/-! ## §4 Runs -/

/-- **A way to run rules follows another**, whatever rule is run. -/
def Runner.Follows (c c' : Config) (run run' : Runner) : Prop :=
  ∀ id {e e' : Engine}, e.Alongside c c' e' → Cascade.Follows c c' (run id).run (run' id).run e e'

section

variable {c c' : Config} {e e' : Engine}

/-- A run follows if the evaluation of the rule's tree does. -/
theorem follows_runRule {body body' : RuleId → Expr → Eval Value} {id : RuleId}
    (hwithin : c.Within c') (h : e.Alongside c c' e')
    (hbody : ∀ tree {e e'}, e.Alongside c c' e' →
      Follows c c' (body id tree).run (body' id tree).run e e') :
    Follows c c' (runRule body id).run (runRule body' id).run e e' := by
  obtain ⟨hconfig, rfl⟩ := h
  cases hr : e.rules.get? id with
  | none => exact .of_run (runRule_gone hr) List.suffix_rfl hconfig fun _ => runRule_gone hr
  | some rule =>
    have hr' : (e.withConfig c').rules.get? id = some rule := hr
    cases hlimit : e.limitReached? with
    | some limit =>
      refine .of_run (runRule_refused hr hlimit) (List.suffix_cons _ _) hconfig fun hunbarred => ?_
      -- a refusal stands in the way unless the limits are the same
      have hsame : c.maxDepth = c'.maxDepth := by
        have hbar : Event.isBar c c' (.refused id) = false := hunbarred.head
        simpa [Event.isBar] using hbar
      have hlimit' : (e.withConfig c').limitReached? = some limit := by
        show c'.maxDepth.filter (· ≤ e.depth) = some limit
        rw [← hsame, ← hconfig]
        exact hlimit
      exact runRule_refused hr' hlimit'
    | none =>
      have hlimit' := Engine.limitReached?_withConfig hwithin hconfig hlimit
      have hbegan : e.journal <:+ (e.enter id).journal := List.suffix_cons _ _
      have hrun := hbody rule.body (e := e.enter id) ⟨hconfig, rfl⟩
      generalize hfirst : (body id rule.body).run.run (e.enter id) = first at hrun
      obtain ⟨r, e₁⟩ := first
      have hgrows : (e.enter id).journal <:+ e₁.journal := by simpa [hfirst] using hrun.grows
      have hended : e₁.journal <:+ ((e₁.leave id).keep id r).journal := by
        cases r <;> exact List.suffix_cons _ _
      refine .of_run (runRule_ran hr hlimit hfirst) ((hbegan.trans hgrows).trans hended) ?_ ?_
      · have hleft : e₁.config = c := by simpa [hfirst] using hrun.config
        cases r <;> exact hleft
      · intro hunbarred
        obtain ⟨hbefore, -⟩ := hunbarred.parts (hbegan.trans hgrows) hended
        obtain ⟨-, hwhile⟩ := hbefore.parts hbegan hgrows
        have hthere : (body' id rule.body).run.run ((e.withConfig c').enter id) =
            (r, e₁.withConfig c') := by
          have hsame := hrun.same
          rw [hfirst] at hsame
          exact hsame hwhile
        rw [runRule_ran hr' hlimit' hthere]
        cases r <;> rfl

/-- A run for which there are no levels left is followed by anything. -/
theorem follows_noRoom {y : Eval Value} {id : RuleId} (tree : Expr) (h : e.Alongside c c' e') :
    Follows c c' (noRoom id tree).run y.run e e' := by
  have hrun : (noRoom id tree).run.run e = (.error .roomExhausted, e.record (.exhausted id)) := rfl
  exact .of_bar h hrun rfl

end

/-! ## §5 Everything else -/

namespace Runner.Follows

variable {c c' : Config} {run run' : Runner} {e e' : Engine}

theorem notify (h : run.Follows c c' run') (id : RuleId) (hR : e.Alongside c c' e') :
    Cascade.Follows c c' (run.notify id) (run'.notify id) e e' := by
  refine .bind (h id hR) fun r e e' hR => ?_
  cases r with
  | ok v => exact .pure _ hR
  | error error => exact .of_same hR (List.suffix_cons _ _) rfl rfl

theorem set (h : run.Follows c c' run') (name : String) (v : Value) (hR : e.Alongside c c' e') :
    Cascade.Follows c c' (run.set name v) (run'.set name v) e e' := by
  refine Comparison.set (C := .follow c c') ?_ ?_ ?_ ?_ name v hR
  · rintro e _ ⟨-, rfl⟩ name
    rfl
  · intro e e' hR name
    exact .of_same hR List.suffix_rfl rfl rfl
  · intro e e' hR name v
    exact .of_same hR (List.suffix_cons _ _) rfl rfl
  · rintro e _ ⟨-, rfl⟩ name m m' hm
    exact (Comparison.follow c c').forM (fun id _ _ hR => h.notify id hR) _ hm

/-- Where runs follow, so does all that a native function asks for. -/
theorem onRequests (h : run.Follows c c' run') :
    run.OnRequests (.follow c c') (fun _ => True) run' where
  triggers := by rintro e _ ⟨-, rfl⟩; rfl
  allowed _ _ _ := ⟨fun _ _ _ => trivial, trivial⟩
  remark hR event _ := .record event hR
  set _ v _ _ hR := h.set _ v hR
  fire _ _ _ hR := .bind (.record _ hR) fun _ _ _ hR => h.notify _ hR
  value? := by rintro e _ ⟨-, rfl⟩ name; rfl
  functions := by rintro e _ ⟨-, rfl⟩; rfl
  writes _ _ _ _ := Native.writes_of_all (fun _ => trivial) _
  touch hR name := .of_same hR List.suffix_rfl rfl rfl
  count hR name f _ := .of_same hR List.suffix_rfl rfl rfl
  define {e _} hR key source _ :=
    .plains hR (Engine.plains_define key source e) (Engine.withConfig_define c' e key source)
  remove {e _} hR key :=
    .plains hR (Engine.plains_remove key e) (Engine.withConfig_remove c' e key)
  defineTrigger {e _} hR pattern source _ :=
    .plains hR (Engine.plains_defineTrigger pattern source e)
      (Engine.withConfig_defineTrigger c' e pattern source)
  ask hR id := .bind (.record _ hR) fun _ _ _ hR => h id hR

/-- Calls follow where there is more room for calls within calls; to find none stands in the way
unless there is as much. -/
theorem caller (h : run.Follows c c' run') {room room' : Nat} (hroom : room ≤ room')
    (hsame : room = room' ∨ c.room ≠ c'.room) (name : String) (args : List Value)
    (hR : e.Alongside c c' e') :
    Cascade.Follows c c' (run.caller room name args).run (run'.caller room' name args).run e e' := by
  induction room generalizing room' name args e e' with
  | zero =>
    have hnone : ∀ caller', (room' = 0 → caller' = noCall) → ∀ name args {e e'},
        e.Alongside c c' e' →
          Cascade.Follows c c' (noCall name args).run (caller' name args).run e e' := by
      intro caller' hcaller name args e e' hR
      by_cases heq : c.room = c'.room
      · have hzero : room' = 0 := (hsame.resolve_right fun hne => hne heq).symm
        rw [hcaller hzero]
        exact .bind (.record (.crowded name) hR) fun _ _ _ hR => .pure _ hR
      · have hrun : (noCall name args).run.run e =
            (.error .roomExhausted, e.record (.crowded name)) := rfl
        exact .of_bar hR hrun (decide_eq_true heq)
    cases room' with
    | zero => exact h.onRequests.callWith name args (.inr (hnone noCall fun _ => rfl)) hR
    | succ room' => exact h.onRequests.callWith name args (.inr (hnone _ nofun)) hR
  | succ room ih =>
    cases room' with
    | zero => omega
    | succ room' =>
      refine h.onRequests.callWith name args (.inr fun name args e e' hR => ?_) hR
      exact ih (by omega) (hsame.imp_left Nat.succ.inj) name args hR

theorem call (h : run.Follows c c' run') (hroom : c.room ≤ c'.room) (name : String)
    (args : List Value) (hR : e.Alongside c c' e') :
    Cascade.Follows c c' (run.call name args).run (run'.call name args).run e e' := by
  unfold Runner.call
  refine (Comparison.follow c c').lookEval ?_
  obtain ⟨hconfig, rfl⟩ := hR
  rw [hconfig]
  exact h.caller hroom (Decidable.em _) name args ⟨hconfig, rfl⟩

/-- Where runs follow, so do trees of any owner. -/
theorem onTrees (h : run.Follows c c' run') (hroom : c.room ≤ c'.room) (owner : Owner) :
    run.OnTrees (.follow c c') owner (fun _ => True) (fun _ => True) run' where
  value? := by rintro e _ ⟨-, rfl⟩ name; rfl
  truth := by rintro e _ ⟨-, rfl⟩ n; rfl
  seen := by rintro e _ ⟨-, rfl⟩ n; rfl
  touch hR name := .of_same hR List.suffix_rfl rfl rfl
  branch hR _ _ _ := .of_same hR (List.suffix_cons _ _) rfl rfl
  act hR _ _ _ := .of_same hR (List.suffix_cons _ _) rfl rfl
  set _ v _ _ hR := h.set _ v hR
  call _ args _ _ hR := h.call hroom _ args hR

theorem eval (h : run.Follows c c' run') (hroom : c.room ≤ c'.room) (owner : Owner) (x : Expr)
    (hR : e.Alongside c c' e') :
    Cascade.Follows c c' (run.eval owner 0 x).run (run'.eval owner 0 x).run e e' :=
  (h.onTrees hroom owner).eval 0 x (fun _ _ => trivial) (fun _ _ => trivial) hR

end Runner.Follows

/-- **With more levels runs follow**, under settings that are as wide. -/
theorem follows_runner {c c' : Config} (hwithin : c.Within c') {levels levels' : Nat}
    (hlevels : levels ≤ levels') : (runner levels).Follows c c' (runner levels') := by
  -- a tree is evaluated with one level less, and to have none left stands in the way
  induction levels generalizing levels' with
  | zero =>
    intro id e e' hR
    cases levels' with
    | zero => exact follows_runRule hwithin hR fun tree _ _ hR => follows_noRoom tree hR
    | succ levels' => exact follows_runRule hwithin hR fun tree _ _ hR => follows_noRoom tree hR
  | succ levels ih =>
    intro id e e' hR
    cases levels' with
    | zero => omega
    | succ levels' =>
      have hdeeper : (runner levels).Follows c c' (runner levels') := ih (by omega)
      refine follows_runRule hwithin hR fun tree e e' hR => ?_
      exact hdeeper.eval hwithin.room (.rule id) tree hR

/-! ## §6 Operations and histories -/

/-- **Operations follow where runs do.** -/
theorem Operation.follows {c c' : Config} {way way' : Runner} (h : way.Follows c c' way')
    (hroom : c.room ≤ c'.room) (o : Operation) {e e' : Engine} (hR : e.Alongside c c' e') :
    Follows c c' (o.under way) (o.under way') e e' := by
  refine o.compares h.onRequests (fun name args _ _ hR => h.call hroom name args hR) ?_
    (o.writes_of_all fun _ => trivial) ?_ ?_ hR
  · exact fun body _ _ _ hR => h.eval hroom .query body hR
  · rintro rfl
    exact .of_same hR List.suffix_rfl rfl rfl
  · rintro name f rfl
    exact .of_same hR List.suffix_rfl rfl rfl

/-- The engine's own way to run rules has as many levels as its settings allow. -/
theorem Operation.follows_perform {c c' : Config} (hwithin : c.Within c')
    (hlevels : c.depths ≤ c'.depths) (o : Operation) {e e' : Engine} (hR : e.Alongside c c' e') :
    Follows c c' o.perform o.perform e e' := by
  have hfollows := o.follows (follows_runner hwithin hlevels) hwithin.room hR
  obtain ⟨hconfig, rfl⟩ := hR
  have hrun : o.perform.run e = (o.under (runner c.depths)).run e := by
    rw [o.run_perform, Engine.runner, hconfig]
  have hrun' : o.perform.run (e.withConfig c') =
      (o.under (runner c'.depths)).run (e.withConfig c') := o.run_perform _
  refine ⟨?_, ?_, ?_⟩ <;> rw [hrun]
  · exact hfollows.grows
  · exact hfollows.config
  · rw [hrun']
    exact hfollows.same

namespace Engine

/-- **Histories follow**: whatever happens in them, until something stands in the way. -/
theorem follows_after {c c' : Config} (hwithin : c.Within c') (hlevels : c.depths ≤ c'.depths)
    (ops : List Operation) {e : Engine} (hconfig : e.config = c) :
    e.journal <:+ (e.after ops).journal ∧ (e.after ops).config = c ∧
      (Unbarred c c' e.journal (e.after ops).journal →
        (e.withConfig c').after ops = (e.after ops).withConfig c') := by
  induction ops generalizing e with
  | nil => exact ⟨List.suffix_rfl, hconfig, fun _ => rfl⟩
  | cons o ops ih =>
    have hfirst := o.follows_perform hwithin hlevels (e := e) ⟨hconfig, rfl⟩
    obtain ⟨hgrows, hlast, hrest⟩ := ih hfirst.config
    refine ⟨hfirst.grows.trans hgrows, hlast, fun hunbarred => ?_⟩
    obtain ⟨hnow, hlater⟩ := hunbarred.parts hfirst.grows hgrows
    show ((o.perform.run (e.withConfig c')).2).after ops = _
    rw [hfirst.same hnow]
    exact hrest hlater

theorem withConfig_registerAll (c : Config) (fs : List (String × Native)) (e : Engine) :
    (e.withConfig c).registerAll fs = (e.registerAll fs).withConfig c := by
  induction fs generalizing e with
  | nil => rfl
  | cons f fs ih => exact ih (e.register f.1 f.2)

theorem withConfig_new {config config' : Config} (h : config'.builtins = config.builtins) :
    Engine.new config' = (Engine.new config).withConfig config' := by
  unfold Engine.new
  rw [h]
  split
  · exact withConfig_registerAll config' Builtin.functions (bare config)
  · rfl

end Engine

/-- **The limit of nested runs is transparent until it is hit.** Operations that are performed under a
limit `n` without a run being refused come to the same, step by step, under any wider limit and under
none where the host has room for `n` nested runs: each of them has the same answer and leaves the same
engine but for the settings, all that has happened included, and no run is ever without room. Where
functions call functions, the host has as much room for that, or more and the calls needed no more. -/
theorem limit_transparent {config config' : Config} {n : Nat} (hlimit : config.maxDepth = some n)
    (hbuiltins : config'.builtins = config.builtins)
    (hwider : (∃ m, config'.maxDepth = some m ∧ n ≤ m) ∨
      config'.maxDepth = none ∧ n ≤ config'.room)
    {ops : List Operation}
    (hroom : config'.room = config.room ∨ config.room ≤ config'.room ∧
      ∀ name, .crowded name ∉ (history config ops).journal)
    (hrefused : ∀ id, .refused id ∉ (history config ops).journal) :
    (∀ {before o after}, ops = before ++ o :: after →
      o.perform.run (history config' before) =
        ((o.perform.run (history config before)).1,
          (o.perform.run (history config before)).2.withConfig config')) ∧
    history config' ops = (history config ops).withConfig config' ∧
    ∀ id, .refused id ∉ (history config' ops).journal ∧
      .exhausted id ∉ (history config' ops).journal := by
  have hlevels : config.depths ≤ config'.depths := by
    unfold Config.depths
    rw [hlimit]
    rcases hwider with ⟨m, hm, hle⟩ | ⟨hnone, hle⟩
    · rw [hm]
      exact hle
    · rw [hnone]
      exact hle
  have hwithin : config.Within config' := by
    refine ⟨fun m hm => ⟨n, hlimit, ?_⟩, ?_⟩
    · rcases hwider with ⟨m', hm', hle⟩ | ⟨hnone, -⟩
      · rw [hm] at hm'
        cases hm'
        exact hle
      · rw [hm] at hnone
        cases hnone
    · rcases hroom with heq | ⟨hle, -⟩
      · exact Nat.le_of_eq heq.symm
      · exact hle
  -- nothing in the whole history under the limit stands in the way
  have hno : ∀ event ∈ (history config ops).journal, event.isBar config config' = false := by
    intro event hevent
    cases event with
    | refused id => exact absurd hevent (hrefused id)
    | exhausted id => exact absurd hevent (not_exhausted hlimit ops id)
    | crowded name =>
      rcases hroom with heq | ⟨-, hnone⟩
      · simp [Event.isBar, heq]
      · exact absurd hevent (hnone name)
    | _ => rfl
  have hnew : Engine.new config' = (Engine.new config).withConfig config' :=
    Engine.withConfig_new hbuiltins
  have hconfig : (Engine.new config).config = config := Engine.config_new config
  have hunbarred : Unbarred config config' (Engine.new config).journal
      (history config ops).journal := by
    refine ⟨(history config ops).journal, ?_, hno⟩
    rw [Engine.journal_new, List.append_nil]
  have hwhole : history config' ops = (history config ops).withConfig config' := by
    have hfollows := Engine.follows_after hwithin hlevels ops hconfig
    unfold history
    rw [hnew]
    exact hfollows.2.2 hunbarred
  refine ⟨fun {before o after} hops => ?_, hwhole, fun id => ?_⟩
  · obtain ⟨hgrows, hmiddle, hbefore⟩ := Engine.follows_after hwithin hlevels before hconfig
    have hstep := o.follows_perform hwithin hlevels ⟨hmiddle, rfl⟩
    have hrest := Engine.follows_after hwithin hlevels after hstep.config
    have hend : (o.perform.run ((Engine.new config).after before)).2.after after =
        history config ops := by
      rw [hops, history, Engine.after, Engine.after, Engine.after, List.foldl_append,
        List.foldl_cons]
    rw [hend] at hrest
    obtain ⟨htwo, -⟩ := hunbarred.parts (hgrows.trans hstep.grows) hrest.1
    obtain ⟨hone, hnow⟩ := htwo.parts hgrows hstep.grows
    show o.perform.run ((Engine.new config').after before) = _
    rw [hnew, hbefore hone]
    exact hstep.same hnow
  · rw [hwhole]
    exact ⟨hrefused id, not_exhausted hlimit ops id⟩

/-- Two rules in a row need two levels, so a limit of two is as good as none. -/
theorem limit_transparent_of_row :
    history ⟨none, true, 2⟩ [.define "first" "b = a", .define "second" "c = b", .set "a" (.int 1)] =
      (history ⟨some 2, true, 2⟩
        [.define "first" "b = a", .define "second" "c = b", .set "a" (.int 1)]).withConfig
          ⟨none, true, 2⟩ := by
  have hall : (history ⟨some 2, true, 2⟩ [.define "first" "b = a", .define "second" "c = b",
      .set "a" (.int 1)]).journal.all
        (fun event => !event.isBar ⟨some 2, true, 2⟩ ⟨none, true, 2⟩) = true := by
    decide +kernel
  have hrefused : ∀ id, .refused id ∉ (history ⟨some 2, true, 2⟩
      [.define "first" "b = a", .define "second" "c = b", .set "a" (.int 1)]).journal := by
    intro id hmem
    have hbar := List.all_eq_true.mp hall _ hmem
    simp [Event.isBar] at hbar
  have htransparent := @limit_transparent ⟨some 2, true, 2⟩ ⟨none, true, 2⟩ 2 rfl rfl
    (.inr ⟨rfl, Nat.le_refl 2⟩) _ (.inl rfl) hrefused
  exact htransparent.2.1

end Cascade
