import Cascade.Proofs.History
import Mathlib.Data.List.Sort

/-!
# Who is told of a change

Wherever an engine has been and whatever is going on in it, the observers of a symbol are the
registered rules with a dependency that covers its name, in the order of their identities. A change
is answered by one attempt for each of them, as they stand at that moment, in that order, whatever the
attempts before come to. Nobody else is told, and a change of `%` is answered by nothing.

§1 the dependencies of a rule; §2 who observes a symbol; §3 the place of a change in the journal; §4
every change is served.
-/

namespace Cascade

/-! ## §1 The dependencies of a rule -/

namespace Expr

theorem pairwise_insertName {name : String} {names : List String}
    (h : names.Pairwise (· < ·)) : (insertName name names).Pairwise (· < ·) := by
  induction names with
  | nil => exact List.pairwise_singleton ..
  | cons other rest ih =>
    obtain ⟨hother, hrest⟩ := List.pairwise_cons.mp h
    unfold insertName
    split
    · next hlt =>
      refine List.pairwise_cons.mpr ⟨fun x hx => ?_, h⟩
      rcases List.mem_cons.mp hx with rfl | hx
      · exact hlt
      · exact String.lt_trans hlt (hother x hx)
    · split
      · exact h
      · next hge hne =>
        have hlt : other < name := Table.lt_of_not_lt_of_ne hge (Ne.symm hne)
        refine List.pairwise_cons.mpr ⟨fun x hx => ?_, ih hrest⟩
        rcases mem_insertName.mp hx with rfl | hx
        · exact hlt
        · exact hother x hx

/-- **Dependencies are listed in ascending order.** -/
theorem pairwise_dependencies (e : Expr) : e.dependencies.Pairwise (· < ·) := by
  unfold dependencies
  induction e.reads with
  | nil => exact .nil
  | cons name names ih => exact pairwise_insertName ih

theorem nodup_dependencies (e : Expr) : e.dependencies.Nodup := by
  refine e.pairwise_dependencies.imp ?_
  rintro a b hlt rfl
  exact String.lt_irrefl a hlt

end Expr

/-! ## §2 Who observes a symbol -/

namespace Engine

/-- **The subscriptions as the registered rules demand them.** -/
structure Subscribed (e : Engine) : Prop where
  /-- The observers of a symbol are in the order of their identities, each there once. -/
  ascending : ∀ {name s}, e.symbols.get? name = some s →
    s.observers.Pairwise fun a b => a.slot < b.slot
  /-- They are the registered rules with a dependency that covers the name. -/
  observers : ∀ {name s}, e.symbols.get? name = some s → ∀ id, id ∈ s.observers ↔
    ∃ r, e.Registered id r ∧ ∃ d ∈ r.dependencies, Glob.covers d name = true
  /-- A plain dependency is a symbol, and covers itself only. -/
  plain : ∀ {id r d}, e.Registered id r → d ∈ r.dependencies → Glob.hasWildcard d = false →
    (e.symbols.get? d).isSome = true ∧ ∀ name, Glob.covers d name = true ↔ name = d
  /-- The patterns kept for symbols to come are those of the registered rules. -/
  wildcards : ∀ d id, (d, id) ∈ e.wildcards ↔
    ∃ r, e.Registered id r ∧ d ∈ r.dependencies ∧ Glob.hasWildcard d = true
  /-- Each pattern of a rule is kept once. -/
  once : e.wildcards.Nodup

variable {e e' : Engine}

theorem nodup_plan (e : Engine) (id : RuleId) : (e.plan id).Nodup := by
  unfold plan
  split
  · cases e.rules.get? id with
    | none => exact .nil
    | some r => exact r.body.nodup_dependencies
  · exact .nil

/-- **An engine in order has the subscriptions that its rules demand.** -/
theorem Canonical.subscribed (h : e.Canonical) : e.Subscribed where
  ascending hs := by
    rw [h.follows.observers hs]
    exact e.pairwise_dependents _
  observers {name s} hs id := by
    rw [h.follows.observers hs]
    exact mem_dependents
  plain hr hd hplain :=
    ⟨h.follows.named (mem_plan.mpr ⟨_, hr, hd⟩) hplain, Glob.covers_iff_eq hplain⟩
  wildcards d id := by
    rw [h.follows.wildcards, Plan.mem_patterns]
    constructor
    · rintro ⟨-, hd, hw⟩
      obtain ⟨r, hr, hd⟩ := mem_plan.mp hd
      exact ⟨r, hr, hd, hw⟩
    · rintro ⟨r, hr, hd, hw⟩
      exact ⟨hr.slot_lt, mem_plan.mpr ⟨r, hr, hd⟩, hw⟩
  once := by
    rw [h.follows.wildcards]
    exact Plan.nodup_patterns e.nodup_plan

/-- Two engines with the same dependencies have the same observers, however they came about. -/
theorem Subscribed.observers_eq (h : e.Subscribed) (h' : e'.Subscribed)
    (hdeps : ∀ id d, (∃ r, e.Registered id r ∧ d ∈ r.dependencies) ↔
      ∃ r, e'.Registered id r ∧ d ∈ r.dependencies)
    {name : String} {s s' : Symbol} (hs : e.symbols.get? name = some s)
    (hs' : e'.symbols.get? name = some s') : s.observers = s'.observers := by
  -- both lists ascend, so it is enough that they have the same members
  have : Std.Irrefl fun a b : RuleId => a.slot < b.slot := ⟨fun a => Nat.lt_irrefl a.slot⟩
  have : Std.Antisymm fun a b : RuleId => a.slot < b.slot :=
    ⟨fun a b hab hba => absurd hab (Nat.lt_asymm hba)⟩
  refine (h.ascending hs).eq_of_mem_iff (h'.ascending hs') fun id => ?_
  have hswap : ∀ x : Engine,
      (∃ r, x.Registered id r ∧ ∃ d ∈ r.dependencies, Glob.covers d name = true) ↔
      ∃ d, (∃ r, x.Registered id r ∧ d ∈ r.dependencies) ∧ Glob.covers d name = true := by
    intro x
    constructor
    · rintro ⟨r, hr, d, hd, hcover⟩
      exact ⟨d, ⟨r, hr, hd⟩, hcover⟩
    · rintro ⟨d, ⟨r, hr, hd⟩, hcover⟩
      exact ⟨r, hr, d, hd, hcover⟩
  rw [h.observers hs, h'.observers hs', hswap, hswap]
  exact exists_congr fun d => and_congr_left fun _ => hdeps id d

end Engine

open Engine

/-- **At every moment of every history the subscriptions are as the registered rules demand**, and the
same in any other history that has come to the same dependencies. -/
theorem subscribed_at_every_moment {config : Config} {ops : List Operation} {e : Engine}
    (h : Moves (history config ops) e) :
    e.Subscribed ∧ ∀ {config' : Config} {ops' : List Operation} {e' : Engine},
      Moves (history config' ops') e' →
      (∀ id d, (∃ r, e.Registered id r ∧ d ∈ r.dependencies) ↔
        ∃ r, e'.Registered id r ∧ d ∈ r.dependencies) →
      ∀ {name s s'}, e.symbols.get? name = some s → e'.symbols.get? name = some s' →
        s.observers = s'.observers := by
  have hcanonical : ∀ {config ops e}, Moves (history config ops) e → e.Canonical := by
    intro config ops e h
    exact (canonical_history config ops).moves h
  have hsubscribed := (hcanonical h).subscribed
  refine ⟨hsubscribed, fun h' hdeps _ _ _ hs hs' => ?_⟩
  exact hsubscribed.observers_eq (hcanonical h').subscribed hdeps hs hs'

/-- A rule may be defined before its symbol is there or after. -/
theorem subscribed_early_and_late :
    (history .standard [.define "copy" "a", .set "a" (.bool true)]).Subscribed ∧
      ∃ s s' : Symbol,
        (history .standard [.define "copy" "a", .set "a" (.bool true)]).symbols.get? "a" = some s ∧
        (history .standard [.set "a" (.bool true), .define "copy" "a"]).symbols.get? "a" = some s' ∧
        s.observers = s'.observers := by
  have hdeps : ∀ id, (history .standard [.define "copy" "a", .set "a" (.bool true)]).plan id =
      (history .standard [.set "a" (.bool true), .define "copy" "a"]).plan id := by
    intro id
    by_cases hid : id = ⟨0⟩
    · rw [hid]
      rfl
    · have hearly : (history .standard [.define "copy" "a", .set "a" (.bool true)]).hasKey id =
          ((⟨0⟩ : RuleId) == id || false) := rfl
      have hlate : (history .standard [.set "a" (.bool true), .define "copy" "a"]).hasKey id =
          ((⟨0⟩ : RuleId) == id || false) := rfl
      simp [plan, hearly, hlate, Ne.symm hid]
  have hearly : Moves (history .standard [.define "copy" "a", .set "a" (.bool true)]) _ := .refl
  have hlate : Moves (history .standard [.set "a" (.bool true), .define "copy" "a"]) _ := .refl
  have hmoment := subscribed_at_every_moment hearly
  refine ⟨hmoment.1, ⟨some (.bool true), [⟨0⟩]⟩, ⟨some (.bool true), [⟨0⟩]⟩, rfl, rfl, ?_⟩
  refine hmoment.2 hlate (fun id d => ?_)
    (rfl : (history .standard [.define "copy" "a", .set "a" (.bool true)]).symbols.get? "a" = _) rfl
  rw [← mem_plan, ← mem_plan, hdeps]

/-! ## §3 The place of a change in the journal -/

namespace Engine

/-- **A change is served** between two engines; the journal before it tells which change is meant. -/
def ServedBetween (e e' : Engine) (name : String) (v : Value) (before : List Event) : Prop :=
  ∃ m m', Moves e m ∧ m.journal = .changed name v :: before ∧
    Course (.serve (m.notified name)) (m.mark name) m' ∧ Moves m' e'

theorem ServedBetween.mono {a b c d : Engine} {name : String} {v : Value} {before : List Event}
    (h : ServedBetween b c name v before) (hab : Moves a b) (hcd : Moves c d) :
    ServedBetween a d name v before := by
  obtain ⟨m, m', hm, hjournal, hserve, hm'⟩ := h
  exact ⟨m, m', hab.trans hm, hjournal, hserve, hm'.trans hcd⟩

/-- **One engine comes from another and every change in between is served.** -/
structure AllServed (e e' : Engine) : Prop where
  moves : Moves e e'
  served : ∀ {name v before}, .changed name v :: before <:+ e'.journal →
    e.journal.length ≤ before.length → ServedBetween e e' name v before

namespace AllServed

variable {e e' : Engine}

/-- Nothing has changed where nothing was written. -/
theorem of_same (hmoves : Moves e e') (h : e'.journal = e.journal) : AllServed e e' := by
  refine ⟨hmoves, fun hsuffix hlength => ?_⟩
  have := hsuffix.length_le
  rw [h, List.length_cons] at this
  omega

/-- Nothing has changed where another event was written. -/
theorem of_other {event : Event} (hmove : Move e e') (h : e'.journal = event :: e.journal)
    (hevent : ∀ name v, event ≠ .changed name v) : AllServed e e' := by
  refine ⟨.single hmove, fun {name v before} hsuffix hlength => ?_⟩
  have hle := hsuffix.length_le
  rw [h] at hsuffix hle
  simp only [List.length_cons] at hle
  have heq := hsuffix.eq_of_length (by simp; omega)
  exact absurd (List.cons.inj heq).1.symm (hevent name v)

theorem trans {a b c : Engine} (hab : AllServed a b) (hbc : AllServed b c) : AllServed a c := by
  refine ⟨hab.moves.trans hbc.moves, fun {name v before} hsuffix hlength => ?_⟩
  -- the length of the journal tells on which of the two ways the change was made
  by_cases hlater : b.journal.length ≤ before.length
  · exact (hbc.served hsuffix hlater).mono hab.moves .refl
  · have hearlier : .changed name v :: before <:+ b.journal := by
      refine List.suffix_of_suffix_length_le hsuffix hbc.moves.journal ?_
      simp only [List.length_cons]
      omega
    exact (hab.served hearlier hlength).mono .refl hbc.moves

theorem step (h : Step e e') : AllServed e e' := by
  rcases h.journal with hsame | ⟨event, hquiet, hother⟩
  · exact of_same (.single (.step h)) hsame
  · refine of_other (.step h) hother fun name v heq => ?_
    rw [heq] at hquiet
    cases hquiet

theorem notice {event : Event} (h : event.isReport = true ∨ event.isHitch = true) :
    AllServed e (e.record event) := by
  have hmove : Move e (e.record event) := h.elim .report .hitch
  refine of_other hmove rfl fun name v heq => ?_
  rw [heq] at h
  rcases h with h | h <;> cases h

theorem report (id : RuleId) (r : Except EvalError Value) (e : Engine) :
    AllServed e (e.report id r) := by
  cases r with
  | ok v => exact of_same .refl rfl
  | error error => exact notice (.inl rfl)

theorem keep (id : RuleId) (r : Except EvalError Value) (e : Engine) :
    AllServed e (e.keep id r) := by
  refine of_same (moves_keep id r e) ?_
  cases r <;> rfl

theorem enter {id : RuleId} {r : Rule} (h : e.rules.get? id = some r)
    (hlimit : e.limitReached? = none) : AllServed e (e.enter id) :=
  of_other (.enter h hlimit) rfl fun _ _ => nofun

theorem leave (id : RuleId) (h : 0 < e.depth) : AllServed e (e.leave id) :=
  of_other (.leave id h) rfl fun _ _ => nofun

/-- **A change is served** if serving the rules that it notifies comes next. -/
theorem change (name : String) {v : Value}
    (hserve : Course (.serve ((e.changed name v).notified name)) ((e.changed name v).mark name) e')
    (hlater : AllServed (e.changed name v) e') : AllServed e e' := by
  have hmoves : Moves e e' := .head (.change name v) hlater.moves
  have hjournal : (e.changed name v).journal = .changed name v :: e.journal := rfl
  refine ⟨hmoves, fun {other w before} hsuffix hlength => ?_⟩
  by_cases hnow : before.length = e.journal.length
  · -- the event is the change itself
    have hnow' : .changed other w :: before <:+ (e.changed name v).journal := by
      refine List.suffix_of_suffix_length_le hsuffix hlater.moves.journal ?_
      simp [hjournal, hnow]
    have heq := hnow'.eq_of_length (by simp [hjournal, hnow])
    rw [hjournal] at heq
    cases heq
    exact ⟨e.changed name v, e', .single (.change name v), hjournal, hserve, .refl⟩
  · have hlength' : (e.changed name v).journal.length ≤ before.length := by
      rw [hjournal, List.length_cons]
      omega
    exact (hlater.served hsuffix hlength').mono (.single (.change name v)) .refl

/-- A change of `%` is served by serving nobody. -/
theorem mark (name : String) (e : Engine) : AllServed e (e.mark name) := by
  rcases mark_cases name e with h | h | h <;> rw [h]
  · exact of_same .refl rfl
  · exact step (.touch Symbol.lastChanged)
  · exact change Symbol.lastChanged .served (of_same .refl rfl)

end AllServed

/-! ## §4 Every change is served -/

/-- **On every course every change is served.** -/
theorem Course.allServed {phase : Phase} {e e' : Engine} (h : Course phase e e') :
    AllServed e e' := by
  induction h with
  | rest => exact .of_same .refl rfl
  | step _ hstep ih => exact ih.trans (.step hstep)
  | register name f _ ih => exact ih.trans (.of_same (.single (.register name f)) rfl)
  | crowded name _ ih => exact ih.trans (.notice (.inr rfl))
  | change _ _ hserve ih ihserve =>
    exact ih.trans (.change _ hserve ((AllServed.mark _ _).trans ihserve))
  | fire _ _ ih ihrun =>
    exact ((ih.trans (.notice (.inl rfl))).trans ihrun).trans (.report _ _ _)
  | ask _ _ ih ihrun => exact (ih.trans (.notice (.inl rfl))).trans ihrun
  | served => exact .of_same .refl rfl
  | next _ _ ihrun ihserve => exact (ihrun.trans (.report _ _ _)).trans ihserve
  | gone _ => exact .of_same .refl rfl
  | refused _ _ => exact .notice (.inr rfl)
  | @exhausted e id _ h hlimit =>
    have hdepth : 0 < ((e.enter id).record (.exhausted id)).depth := Nat.succ_pos e.depth
    exact ((AllServed.enter h hlimit).trans (.notice (.inr rfl))).trans (.leave id hdepth)
  | @ran _ _ id _ _ _ h hlimit _ hcourse ih =>
    exact (((AllServed.enter h hlimit).trans ih).trans (.leave id hcourse.depth_pos)).trans
      (.keep _ _ _)

end Engine

/-- **A change and its answer** by a way to run rules: one attempt for each registered rule with a
dependency that covers the name, ascending, and no other; no attempt for a change of `%`. -/
structure Engine.Answered (run : Runner) (e : Engine) (name : String) (v : Value) : Prop where
  attempts : (run.set name v).run e =
    ((), ((e.changed name v).notified name).foldl run.attempt ((e.changed name v).mark name))
  ascending : ((e.changed name v).notified name).Pairwise fun a b => a.slot < b.slot
  notified : ∀ id, id ∈ (e.changed name v).notified name ↔ name ≠ Symbol.lastChanged ∧
    ∃ r, e.Registered id r ∧ ∃ d ∈ r.dependencies, Glob.covers d name = true
  /-- An attempt passes over a rule that is gone and runs or refuses any other, once; a failure of
  whatever kind is reported by one event. -/
  attempt : ∀ {m}, Moves e m → ∀ id, ∃ r m', (run id).run.run m = (r, m') ∧
    Course (.attempt id r) m m' ∧ run.attempt m id = m'.report id r

theorem Runner.Courses.answered {run : Runner} (h : run.Courses) {e : Engine} (he : e.Canonical)
    {name : String} {v : Value} (hchange : ((e.symbolOf name).replace v).2 = true) :
    e.Answered run name v where
  attempts := by
    have hholds : (e.symbolOf name).holds v = false := by
      unfold Symbol.replace at hchange
      split at hchange
      · cases hchange
      · next hholds => simpa using hholds
    rw [run_set run name v he, hholds]
    rfl
  ascending := pairwise_notified _ name
  notified _ := mem_notified
  attempt hm id := ⟨_, _, rfl, h id (he.moves hm), rfl⟩

/-- **No notification is lost and none is made twice**: whatever is going on in an engine, a change is
answered as it should be; and so is every change that is found in what has happened, where `%` is
changed too but nobody is told of that. -/
theorem changes_answered {config : Config} {ops : List Operation} :
    (∀ {e : Engine}, Moves (history config ops) e → ∀ (levels : Nat) {name : String} {v : Value},
      ((e.symbolOf name).replace v).2 = true → e.Answered (runner levels) name v) ∧
    Course .free (Engine.new config) (history config ops) ∧
    ∀ {before after : List Event} {name : String} {v : Value},
      (history config ops).trace = before ++ .changed name v :: after →
      ∃ m m', Moves (Engine.new config) m ∧ m.trace = before ++ [.changed name v] ∧
        Course (.serve (m.notified name)) (m.mark name) m' ∧
        (name = Symbol.lastChanged → m' = m) ∧ Moves m' (history config ops) := by
  have hcourse := course_history config ops
  refine ⟨fun h levels name v hchange => ?_, hcourse, fun {before after name v} htrace => ?_⟩
  · exact (courses_runner levels).answered ((canonical_history config ops).moves h) hchange
  · have hjournal : (history config ops).journal =
        after.reverse ++ .changed name v :: before.reverse := by
      rw [← List.reverse_reverse (history config ops).journal, ← trace, htrace]
      simp
    have hstart : (Engine.new config).journal = [] := by
      rw [new_eq]
      rfl
    obtain ⟨m, m', hm, hat, hserve, hm'⟩ := hcourse.allServed.served
      (hjournal ▸ List.suffix_append _ _ : .changed name v :: before.reverse <:+ _)
      (hstart ▸ Nat.zero_le _)
    refine ⟨m, m', hm, ?_, hserve, ?_, hm'⟩
    · rw [trace, hat]
      simp
    · rintro rfl
      cases hserve
      rfl

/-- The rule that copies a symbol is told of its change. -/
theorem copy_answered :
    (history .standard [.define "copy" "a"]).Answered (runner 64) "a" (.bool true) ∧
      ∃ m m' : Engine, m.trace = [.defined ⟨0⟩] ++ [.changed "a" (.bool true)] ∧
        Course (.serve (m.notified "a")) (m.mark "a") m' := by
  refine ⟨changes_answered.1 .refl 64 rfl, ?_⟩
  have htrace : (history .standard [.define "copy" "a", .set "a" (.bool true)]).trace =
      [.defined ⟨0⟩] ++ .changed "a" (.bool true) ::
        [.changed "%" (.string "a"), .began ⟨0⟩, .ended ⟨0⟩] := rfl
  obtain ⟨m, m', -, hm, hserve, -⟩ := changes_answered.2.2 htrace
  exact ⟨m, m', hm, hserve⟩

end Cascade
