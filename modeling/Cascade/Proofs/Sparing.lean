import Cascade.Proofs.Confinement

/-!
# Runs that spare `%`

The symbol `%` is there to be read: the engine itself writes it after every change of another symbol.
A rule, a line, a trigger or a native function may write it too, by its name. Where none does, nothing
in the whole run changes `%` but the marks of other changes.

That nothing does can be told from the texts: every rule comes from a source, every function and every
key from the host. What keeps these texts in order keeps the engine, however runs nest.

§1 journals in which `%` is only marked; §2 engines that spare it; §3 defining and removing; §4 setting
and running; §5 native functions and trees; §6 all levels, operations and histories.
-/

namespace Cascade

/-- A symbol other than `%`. -/
abbrev Symbol.Ordinary (name : String) : Prop := name ≠ Symbol.lastChanged

/-! ## §1 Journals -/

/-- **`%` has not been set by its own name**, or only to the value it had: it has changed only right
after the change of another symbol, to the name of that one. -/
def Unwritten (journal : List Event) : Prop :=
  ∀ w before, .changed Symbol.lastChanged w :: before <:+ journal →
    ∃ name v rest, before = .changed name v :: rest ∧ name ≠ Symbol.lastChanged ∧ w = .string name

theorem Unwritten.mono {journal before : List Event} (h : Unwritten journal)
    (hbefore : before <:+ journal) : Unwritten before :=
  fun w older hsuffix => h w older (hsuffix.trans hbefore)

theorem Unwritten.cons_of_ne {journal : List Event} (h : Unwritten journal) {event : Event}
    (hevent : ∀ w, event ≠ .changed Symbol.lastChanged w) : Unwritten (event :: journal) := by
  intro w before hsuffix
  rcases List.suffix_cons_iff.mp hsuffix with heq | hsuffix
  · exact absurd (List.cons.inj heq).1.symm (hevent w)
  · exact h w before hsuffix

/-- A change of `%` that marks the change of another symbol does not count as written. -/
theorem Unwritten.cons_mark {name : String} {v : Value} {journal : List Event}
    (h : Unwritten (.changed name v :: journal)) (hname : name ≠ Symbol.lastChanged) :
    Unwritten (.changed Symbol.lastChanged (.string name) :: .changed name v :: journal) := by
  intro w before hsuffix
  rcases List.suffix_cons_iff.mp hsuffix with heq | hsuffix
  · cases heq
    exact ⟨name, v, journal, rfl, hname, rfl⟩
  · exact h w before hsuffix

namespace Engine

/-- A change of another symbol and its mark do not write `%`. -/
theorem unwritten_mark {e : Engine} (h : Unwritten e.journal) {name : String}
    (hname : name ≠ Symbol.lastChanged) (v : Value) :
    Unwritten ((e.changed name v).mark name).journal := by
  have hchanged : Unwritten (.changed name v :: e.journal) := by
    refine h.cons_of_ne fun w heq => ?_
    cases heq
    exact hname rfl
  rw [mark, if_neg hname, store_eq]
  split
  · exact hchanged
  · exact hchanged.cons_mark hname

/-! ## §2 Engines that spare `%` -/

/-- **An engine that spares `%`**: nothing in it writes `%` by its name, and nothing has. -/
structure Sparing (e : Engine) : Prop where
  rules : ∀ {id r}, e.rules.get? id = some r → r.Writes Symbol.Ordinary
  functions : ∀ {name f}, e.functions.get? name = some f → Native.Writes Symbol.Ordinary f.function
  triggers : ∀ t ∈ e.triggers, t.pattern.Writes Symbol.Ordinary
  journal : Unwritten e.journal

namespace Sparing

variable {e e' : Engine}

/-- What leaves the rules alone leaves the texts in order. -/
theorem of_sameRules (h : e.Sparing) (hsame : SameRules e e') (hjournal : Unwritten e'.journal) :
    e'.Sparing where
  rules {id r} hr := by
    obtain ⟨r₀, hr₀, hbody⟩ := hsame.body hr
    rw [Rule.Writes, ← hbody]
    exact h.rules hr₀
  functions {name f} hf := by
    obtain ⟨f₀, hf₀, hfunction⟩ := hsame.function hf
    rw [← hfunction]
    exact h.functions hf₀
  triggers := by
    rw [hsame.triggers]
    exact h.triggers
  journal := hjournal

theorem record (h : e.Sparing) {event : Event} (hevent : ∀ name w, event ≠ .changed name w) :
    (e.record event).Sparing :=
  h.of_sameRules ((SameRules.refl e).record event) (h.journal.cons_of_ne fun w => hevent _ w)

theorem report (h : e.Sparing) (id : RuleId) (r : Except EvalError Value) :
    (e.report id r).Sparing := by
  cases r with
  | ok v => exact h
  | error error => exact h.record nofun

theorem touch (h : e.Sparing) (name : String) : (e.touch name).Sparing :=
  h.of_sameRules ((SameRules.refl e).touch name) h.journal

theorem countCall (h : e.Sparing) {name : String} {f : Cascade.Registered}
    (hf : e.functions.get? name = some f) : (e.countCall name f).Sparing :=
  h.of_sameRules ((SameRules.refl e).countCall hf) h.journal

theorem branch (h : e.Sparing) (node : NodeRef) (b : Bool) : (e.branch node b).Sparing :=
  h.of_sameRules ((SameRules.refl e).aside _ e.depth _) (h.journal.cons_of_ne nofun)

theorem act (h : e.Sparing) (node : NodeRef) (v : Value) : (e.act node v).Sparing :=
  h.of_sameRules ((SameRules.refl e).aside _ e.depth _) (h.journal.cons_of_ne nofun)

theorem enter (h : e.Sparing) (id : RuleId) : (e.enter id).Sparing :=
  h.of_sameRules ((SameRules.refl e).aside e.memories _ _) (h.journal.cons_of_ne nofun)

theorem leave (h : e.Sparing) (id : RuleId) : (e.leave id).Sparing :=
  h.of_sameRules ((SameRules.refl e).aside e.memories _ _) (h.journal.cons_of_ne nofun)

theorem keep (h : e.Sparing) (id : RuleId) (r : Except EvalError Value) :
    (e.keep id r).Sparing := by
  cases r with
  | ok v => exact h.of_sameRules ((SameRules.refl e).keepResult id v) h.journal
  | error error => exact h

/-- **Another symbol may change**, and `%` be set to its name. -/
theorem mark (h : e.Sparing) {name : String} (hname : name ≠ Symbol.lastChanged) (v : Value) :
    ((e.changed name v).mark name).Sparing := by
  refine h.of_sameRules ?_ (unwritten_mark h.journal hname v)
  have hchanged : SameRules e (e.changed name v) := (SameRules.refl e).changed name v
  rcases mark_cases name (e.changed name v) with heq | heq | heq <;> rw [heq]
  · exact hchanged
  · exact hchanged.touch _
  · exact hchanged.changed _ _

/-! ## §3 Defining and removing -/

/-- A new rule that spares `%` takes the next slot. -/
theorem rules_add (h : e.Sparing) {r : Rule} (hr : r.Writes Symbol.Ordinary) {id : RuleId}
    {r' : Rule} (hget : (e.rules.add r).get? id = some r') : r'.Writes Symbol.Ordinary := by
  rw [Rules.get?_add] at hget
  split at hget
  · cases hget
    exact hr
  · exact h.rules hget

theorem install (h : e.Sparing) {r : Rule} (hr : r.Writes Symbol.Ordinary) :
    (e.install r).2.Sparing where
  rules {id r'} hget := by
    rw [install_rules] at hget
    exact h.rules_add hr hget
  functions := by
    rw [install_functions]
    exact h.functions
  triggers := by
    rw [install_triggers]
    exact h.triggers
  journal := by
    rw [install_journal]
    exact h.journal.cons_of_ne nofun

theorem uninstall (h : e.Sparing) (key : String) (id : RuleId) : (e.uninstall key id).Sparing where
  rules {other r} hr := by
    rw [get?_uninstall] at hr
    split at hr
    · cases hr
    · exact h.rules hr
  functions := by
    rw [uninstall_functions]
    exact h.functions
  triggers := by
    rw [uninstall_triggers]
    exact h.triggers
  journal := by
    rcases uninstall_journal key id e with hsame | hremoved
    · rw [hsame]
      exact h.journal
    · rw [hremoved]
      exact h.journal.cons_of_ne nofun

/-- **Defining a rule that spares `%`.** -/
theorem define (h : e.Sparing) (key : String) {source : String}
    (hsource : SourceWrites Symbol.Ordinary source) : (e.define key source).2.Sparing := by
  have hfree : (e.free key).Sparing := by
    unfold Engine.free
    split
    · exact h
    · exact h.uninstall key _
  unfold Engine.define
  split
  · exact h
  · split
    · exact h
    · next hread => exact hfree.install (hsource hread)

theorem remove (h : e.Sparing) (key : String) : (e.remove key).2.Sparing := by
  unfold Engine.remove
  split
  · exact h
  · exact h.uninstall key _

/-- **Defining a trigger that spares `%`.** -/
theorem defineTrigger (h : e.Sparing) {pattern source : String}
    (htexts : PatternWrites Symbol.Ordinary pattern ∧ SourceWrites Symbol.Ordinary source) :
    (e.defineTrigger pattern source).2.Sparing := by
  obtain ⟨hpattern, hsource⟩ := htexts
  unfold Engine.defineTrigger
  split
  · exact h
  · next hread =>
    split
    · refine ⟨fun {id r'} hget => ?_, h.functions, h.triggers, h.journal⟩
      rw [Rules.get?_remove] at hget
      split at hget
      · cases hget
      · exact h.rules_add (hsource hread) hget
    · next hp =>
      refine ⟨h.rules_add (hsource hread), h.functions, fun t ht => ?_,
        h.journal.cons_of_ne nofun⟩
      rcases List.mem_append.mp ht with ht | ht
      · exact h.triggers t ht
      · rw [List.mem_singleton.mp ht]
        exact hpattern hp

theorem register (h : e.Sparing) (name : String) {f : Native}
    (hf : f.Writes Symbol.Ordinary) : (e.register name f).Sparing where
  rules := h.rules
  functions {other g} hg := by
    rw [Engine.register, Table.get?_insert] at hg
    split at hg
    · cases hg
      exact hf
    · exact h.functions hg
  triggers := h.triggers
  journal := h.journal

end Sparing

end Engine

/-! ## §4 Setting and running -/

open Engine

/-- **A way to run rules spares `%`.** -/
def Runner.Spares (run : Runner) : Prop :=
  ∀ id {e : Engine}, e.Sparing → ((run id).run.run e).2.Sparing

namespace Runner.Spares

variable {run : Runner} {e : Engine}

theorem serve (h : run.Spares) (ids : List RuleId) (he : e.Sparing) :
    (ids.foldl run.attempt e).Sparing := by
  induction ids generalizing e with
  | nil => exact he
  | cons id ids ih => exact ih ((h id he).report id _)

theorem set (h : run.Spares) {name : String} (hname : name ≠ Symbol.lastChanged) (v : Value)
    (he : e.Sparing) : ((run.set name v).run e).2.Sparing := by
  rw [run_set_eq, if_neg hname]
  split
  · exact he.touch name
  · rw [run_forM_notify]
    have hmarked := he.mark hname v
    rw [Engine.mark, if_neg hname] at hmarked
    exact h.serve _ hmarked

/-! ## §5 Native functions and trees -/

/-- All that a native function may ask for spares `%`. -/
theorem onRequests (h : run.Spares) :
    run.OnRequests (.together (While Engine.Sparing)) Symbol.Ordinary run where
  triggers := by rintro e _ ⟨rfl, -⟩; rfl
  allowed := by rintro _ e ⟨rfl, he⟩ t ht; exact ⟨he.triggers t ht, trivial⟩
  remark := by
    rintro _ e ⟨rfl, he⟩ event hremark
    refine ⟨rfl, rfl, he.record ?_⟩
    rintro name w rfl
    cases hremark
  set := by rintro name hname v _ e ⟨rfl, he⟩; exact ⟨rfl, rfl, h.set hname v he⟩
  fire := by
    rintro id - _ e ⟨rfl, he⟩
    have hfired : (e.record (.fired id)).Sparing := he.record nofun
    refine ⟨rfl, rfl, ?_⟩
    show ((run.notify id).run (e.record (.fired id))).2.Sparing
    rw [run_notify]
    exact (h id hfired).report id _
  value? := by rintro e _ ⟨rfl, -⟩ name; rfl
  functions := by rintro e _ ⟨rfl, -⟩; rfl
  writes := by rintro _ e ⟨rfl, he⟩ name f hf; exact he.functions hf
  touch := by rintro _ e ⟨rfl, he⟩ name; exact ⟨rfl, rfl, he.touch name⟩
  count := by rintro _ e ⟨rfl, he⟩ name f hf; exact ⟨rfl, rfl, he.countCall hf⟩
  define := by rintro _ e ⟨rfl, he⟩ key source hsource; exact ⟨rfl, rfl, he.define key hsource⟩
  remove := by rintro _ e ⟨rfl, he⟩ key; exact ⟨rfl, rfl, he.remove key⟩
  defineTrigger := by
    rintro _ e ⟨rfl, he⟩ pattern source htexts
    exact ⟨rfl, rfl, he.defineTrigger htexts⟩
  ask := by
    rintro _ e ⟨rfl, he⟩ id
    have hasked : (e.record (.asked id)).Sparing := he.record nofun
    exact ⟨rfl, rfl, h id hasked⟩

theorem call (h : run.Spares) (name : String) (args : List Value) (he : e.Sparing) :
    Together (While Engine.Sparing) (run.call name args).run (run.call name args).run e e := by
  refine h.onRequests.caller (.inr ?_) e.config.room name args ⟨rfl, he⟩
  rintro name _ e ⟨rfl, he⟩
  exact ⟨rfl, rfl, he.record nofun⟩

/-- **Trees that do not assign to `%` spare it.** -/
theorem eval (h : run.Spares) (owner : Owner) {x : Expr}
    (hx : ∀ name ∈ x.targets, Symbol.Ordinary name) (he : e.Sparing) :
    Together (While Engine.Sparing) (run.eval owner 0 x).run (run.eval owner 0 x).run e e := by
  have halike : run.Alike (While Engine.Sparing) owner Symbol.Ordinary (fun _ => True) run :=
    .of_kept (fun he name => he.touch name) (fun he n b _ => he.branch _ b)
      (fun he n v _ => he.act _ v) (fun hname v _ he => ⟨rfl, rfl, h.set hname v he⟩)
      fun _ args _ he => h.call _ args he
  exact halike.eval 0 x hx (fun _ _ => trivial) ⟨rfl, he⟩

end Runner.Spares

/-! ## §6 All levels, operations and histories -/

/-- A run spares `%` if the evaluation of the rule's tree does. -/
theorem spares_runRule {body : RuleId → Expr → Eval Value}
    (hbody : ∀ id {x : Expr}, (∀ name ∈ x.targets, Symbol.Ordinary name) → ∀ {e : Engine},
      e.Sparing → ((body id x).run.run e).2.Sparing) : Runner.Spares (runRule body) := by
  intro id e he
  cases hr : e.rules.get? id with
  | none =>
    rw [runRule_gone hr]
    exact he
  | some rule =>
    cases hlimit : e.limitReached? with
    | some limit =>
      rw [runRule_refused hr hlimit]
      exact he.record nofun
    | none =>
      rw [runRule_ran hr hlimit rfl]
      exact ((hbody id (he.rules hr) (he.enter id)).leave id).keep id _

/-- **However many levels there are, runs spare `%`.** -/
theorem spares_runner (levels : Nat) : (runner levels).Spares := by
  induction levels with
  | zero => exact spares_runRule fun id x _ e he => he.record nofun
  | succ levels ih => exact spares_runRule fun id x hx e he => (ih.eval (.rule id) hx he).2.2

/-- **Operations that do not write `%` spare it.** -/
theorem Operation.spares {o : Operation} (ho : o.Writes Symbol.Ordinary) {e : Engine}
    (he : e.Sparing) : (o.perform.run e).2.Sparing := by
  have hruns : e.runner.Spares := spares_runner _
  have hkept : Together (While Engine.Sparing) (o.under e.runner) (o.under e.runner) e e := by
    refine Operation.compares hruns.onRequests ?_ ?_ ho ?_ ?_ ⟨rfl, he⟩
    · rintro name args _ e ⟨rfl, he⟩
      exact hruns.call name args he
    · rintro body hbody _ e ⟨rfl, he⟩
      exact hruns.eval .query hbody he
    · rintro rfl
      exact ⟨rfl, rfl, he.of_sameRules ((SameRules.refl e).aside _ e.depth e.journal) he.journal⟩
    · rintro name f rfl
      exact ⟨rfl, rfl, he.register name ho⟩
  rw [o.run_perform]
  exact hkept.2.2

theorem sparing_new (config : Config) : (Engine.new config).Sparing where
  rules hr := by
    rw [new_eq] at hr
    cases hr
  functions hf count args :=
    HostCall.writes_of_quiet (Builtin.quiet_functions (mem_functions_of_new hf) count args)
  triggers := by
    rw [new_eq]
    exact nofun
  journal := by
    rw [journal_new]
    exact fun _ _ h => absurd (List.suffix_nil.mp h) nofun

/-- **Where no operation writes `%`, it is not written** in the whole run. -/
theorem unwritten_of_writes {config : Config} {ops : List Operation}
    (h : ∀ o ∈ ops, o.Writes Symbol.Ordinary) : Unwritten (history config ops).journal :=
  (after_keeps (S := Engine.Sparing) (fun o ho _ he => o.spares (h o ho) he)
    (sparing_new config)).journal

end Cascade
