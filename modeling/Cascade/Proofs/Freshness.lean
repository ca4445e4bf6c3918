import Cascade.Proofs.Identity
import Cascade.Proofs.Nesting
import Cascade.Proofs.Purity

/-!
# Results are up to date at rest

A rule that only reads has as its last result what its tree comes to now, once it has run or one of
its symbols has changed. In the midst of a cascade this may fail for the rules whose turn is still to
come, and for those only: a change makes the rules that it concerns due, and a run settles one of
them.

§1 rules that only read; §2 rules that have had cause to run; §3 what is settled; §4 every course
settles what is due.
-/

namespace Cascade

/-! ## §1 Rules that only read -/

open Engine

/-- **A rule that only reads**, and does not read `%`. -/
structure Rule.ReadsOnly (r : Rule) : Prop where
  pure : r.body.isPure = true
  last : ∀ d ∈ r.dependencies, Glob.covers d Symbol.lastChanged = false

namespace Engine

variable {e e' : Engine}

/-- **A rule is up to date**: if its tree comes to a value now, that is its last result. -/
def UpToDate (e : Engine) (r : Rule) : Prop :=
  ∀ v, ((evaluateAgain r.body).run e).1 = .ok v → r.lastResult = some v

theorem run_evaluateAgain (body : Expr) (e : Engine) :
    (evaluateAgain body).run e = (e.runner.eval .query 0 body).run.run e := by
  have hread : ∀ x : Runner → Act (Except EvalError Value),
      (do x (← get).runner : Act _).run e = (x e.runner).run e := fun _ => rfl
  exact hread fun way => outcome (way.eval .query 0 body)

/-- **A run of a rule that only reads** comes to what the tree comes to by itself, where the view is
the same, and leaves everything but names. -/
theorem eval_readsOnly {r : Rule} (hr : r.ReadsOnly) (run : Runner) (owner : Owner) (n : Nat)
    (hview : SameView r.dependencies e e') :
    ((run.eval owner n r.body).run.run e).1 = ((evaluateAgain r.body).run e').1 ∧
      Spoken e ((run.eval owner n r.body).run.run e).2 := by
  have hreads : ∀ d ∈ r.body.reads, d ∈ r.dependencies := fun d => Expr.mem_dependencies.mpr
  rw [run_evaluateAgain]
  obtain ⟨hsame, hspoken, -⟩ :=
    Runner.eval_viewOnly run e'.runner owner .query n 0 r.body hr.pure hreads e e' hview
  exact ⟨hsame, hspoken⟩

theorem UpToDate.view {r : Rule} (h : e.UpToDate r) (hr : r.ReadsOnly)
    (hview : SameView r.dependencies e e') : e'.UpToDate r := by
  intro v hv
  refine h v ?_
  rw [run_evaluateAgain, (eval_readsOnly hr e.runner .query 0 hview).1]
  exact hv

/-! ## §2 Rules that have had cause to run -/

/-- **A rule has had cause to run**, by a journal with the latest first: it has run, or a symbol that a
dependency covers has changed since it was defined. -/
def Stirred (journal : List Event) (id : RuleId) (r : Rule) : Prop :=
  .began id ∈ journal ∨ ∃ after before name v, journal = after ++ .defined id :: before ∧
    .changed name v ∈ after ∧ ∃ d ∈ r.dependencies, Glob.covers d name = true

/-- Is this event no cause for the rule to run? -/
def Idle (event : Event) (id : RuleId) (r : Rule) : Prop :=
  event ≠ .began id ∧ event ≠ .defined id ∧
    ∀ name v, event = .changed name v → ∀ d ∈ r.dependencies, Glob.covers d name = false

theorem Stirred.of_cons {journal : List Event} {event : Event} {id : RuleId} {r : Rule}
    (h : Stirred (event :: journal) id r) (hidle : Idle event id r) : Stirred journal id r := by
  obtain ⟨hbegan, hdefined, hchanged⟩ := hidle
  rcases h with hmem | ⟨after, before, name, v, hjournal, hmem, d, hd, hcover⟩
  · rcases List.mem_cons.mp hmem with heq | hmem
    · exact absurd heq.symm hbegan
    · exact Or.inl hmem
  · cases after with
    | nil => exact absurd hmem List.not_mem_nil
    -- the change may be the event itself, which is none that the rule sees
    | cons first after =>
      cases hjournal
      rcases List.mem_cons.mp hmem with heq | hmem
      · rw [hchanged name v heq.symm d hd] at hcover
        cases hcover
      · exact Or.inr ⟨after, before, name, v, rfl, hmem, d, hd, hcover⟩

/-- A rule whose identity has not been handed out has had no cause to run, nor has a new one. -/
theorem not_stirred {journal : List Event} {id : RuleId} {r : Rule} (hbegan : .began id ∉ journal)
    (hdefined : .defined id ∉ journal.tail) : ¬ Stirred journal id r := by
  rintro (hmem | ⟨after, before, name, v, hjournal, hmem, -⟩)
  · exact hbegan hmem
  · cases after with
    | nil => exact absurd hmem List.not_mem_nil
    | cons first after =>
      rw [hjournal] at hdefined
      exact hdefined (List.mem_append_right after (List.mem_cons_self ..))

/-! ## §3 What is settled -/

/-- A rule with the value of a run kept. -/
theorem get?_keep (id other : RuleId) (r : Except EvalError Value) (e : Engine) :
    (e.keep id r).rules.get? other =
      if other = id then
        (e.rules.get? id).map fun rule =>
          match r with
          | .ok v => { rule with lastResult := some v }
          | .error _ => rule
      else e.rules.get? other := by
  cases r with
  | ok v => exact Rules.get?_update ..
  | error error =>
    split
    · next heq =>
      rw [heq]
      exact (Option.map_id' ..).symm
    · rfl

/-- **Every rule that only reads and has had cause to run is up to date**, but for those that are
due. -/
def Settled (due : List RuleId) (e : Engine) : Prop :=
  ∀ id r, e.Registered id r → r.ReadsOnly → id ∉ due → Stirred e.journal id r → e.UpToDate r

namespace Settled

variable {due : List RuleId}

theorem weaken {more : List RuleId} (h : e.Settled due) : e.Settled (more ++ due) :=
  fun id r hr hreads hdue hstirred =>
    h id r hr hreads (fun hmem => hdue (List.mem_append_right more hmem)) hstirred

/-- What is settled stays so where no rule gets cause to run and none sees anything else. -/
theorem of_cons (h : e.Settled due) {due' : List RuleId} {event : Event}
    (hjournal : e'.journal = event :: e.journal)
    (hkept : ∀ id r, e'.Registered id r → r.ReadsOnly → id ∉ due' →
      e.Registered id r ∧ id ∉ due ∧ Idle event id r ∧ SameView r.dependencies e e') :
    e'.Settled due' := by
  intro id r hr hreads hdue hstirred
  obtain ⟨hr', hdue', hidle, hview⟩ := hkept id r hr hreads hdue
  rw [hjournal] at hstirred
  exact (h id r hr' hreads hdue' (hstirred.of_cons hidle)).view hreads hview

/-- An event that is neither a change, a definition nor a beginning settles and unsettles nothing. -/
theorem record (h : e.Settled due) {event : Event}
    (hevent : event.isReport = true ∨ event.isHitch = true) : (e.record event).Settled due := by
  refine h.of_cons rfl fun id r hr _ hdue => ⟨hr, hdue, ⟨?_, ?_, ?_⟩, fun _ _ => rfl⟩
  · rintro rfl
    rcases hevent with h | h <;> cases h
  · rintro rfl
    rcases hevent with h | h <;> cases h
  · rintro name v rfl
    rcases hevent with h | h <;> cases h

theorem report (h : e.Settled due) (id : RuleId) (r : Except EvalError Value) :
    (e.report id r).Settled due := by
  cases r with
  | ok v => exact h
  | error error => exact h.record (.inl rfl)

/-- A rule that has just come has had no cause to run. -/
theorem not_stirred_nextId (hissued : e.Issued) (hstep : Step e e') (r : Rule) :
    ¬ Stirred e'.journal e.rules.nextId r := by
  have hout : ¬ e.rules.nextId.slot < e.rules.size := Nat.lt_irrefl _
  have hbegan : .began e.rules.nextId ∉ e.journal := fun hmem => hout (hissued _ (Or.inl hmem))
  have hdefined : .defined e.rules.nextId ∉ e.journal := fun hmem => hout (hissued _ (Or.inr hmem))
  rcases hstep.journal with hsame | ⟨event, hquiet, hjournal⟩
  · rw [hsame]
    exact not_stirred hbegan fun hmem => hdefined (List.mem_of_mem_tail hmem)
  · rw [hjournal]
    refine not_stirred (fun hmem => ?_) hdefined
    rcases List.mem_cons.mp hmem with rfl | hmem
    · cases hquiet
    · exact hbegan hmem

/-- **A quiet step** shows no rule anything else and gives none cause to run. -/
theorem step (h : e.Settled due) (hissued : e.Issued) (hstep : Step e e') : e'.Settled due := by
  intro id r ⟨key, hkey, hr⟩ hreads hdue hstirred
  have hview : SameView r.dependencies e e' := fun name _ => hstep.value? name
  -- only the next identity can come to be registered by a step
  by_cases hnew : id = e.rules.nextId
  · rw [hnew] at hstirred
    exact absurd hstirred (not_stirred_nextId hissued hstep r)
  · have hr' : e.Registered id r :=
      ⟨key, (hstep.key hkey).resolve_right hnew, (hstep.get? hr).resolve_right fun h => hnew h.1⟩
    rcases hstep.journal with hsame | ⟨event, hquiet, hjournal⟩
    · rw [hsame] at hstirred
      exact (h id r hr' hreads hdue hstirred).view hreads hview
    · have hidle : Idle event id r := by
        refine ⟨?_, fun hdefined => hnew (hstep.defined hjournal hdefined).1, ?_⟩
        · rintro rfl
          cases hquiet
        · rintro name v rfl
          cases hquiet
      rw [hjournal] at hstirred
      exact (h id r hr' hreads hdue (hstirred.of_cons hidle)).view hreads hview

/-- **A change** makes the rules due that it notifies. -/
theorem changed (h : e.Settled due) (name : String) (v : Value) :
    (e.changed name v).Settled ((e.changed name v).notified name ++ due) := by
  refine h.of_cons rfl fun id r hr hreads hdue => ?_
  obtain ⟨hnotified, hdue⟩ := not_or.mp (fun hmem => hdue (List.mem_append.mpr hmem))
  -- a rule that is not notified does not see the symbol
  have hblind : ∀ d ∈ r.dependencies, Glob.covers d name = false := by
    intro d hd
    by_cases hlast : name = Symbol.lastChanged
    · rw [hlast]
      exact hreads.last d hd
    · rw [Bool.eq_false_iff]
      exact fun hcover => hnotified (mem_notified.mpr ⟨hlast, r, hr, d, hd, hcover⟩)
  refine ⟨hr, hdue, ⟨nofun, nofun, ?_⟩, ?_⟩
  · rintro _ _ heq d hd
    cases heq
    exact hblind d hd
  · rintro other ⟨d, hd, hcover⟩
    rw [value?_changed, if_neg]
    rintro rfl
    rw [hblind d hd] at hcover
    cases hcover

theorem mark (h : e.Settled due) (hissued : e.Issued) (name : String) :
    (e.mark name).Settled due := by
  rcases mark_cases name e with heq | heq | heq <;> rw [heq]
  · exact h
  · exact h.step hissued (.touch Symbol.lastChanged)
  · have hchanged := h.changed Symbol.lastChanged (.string name)
    rwa [notified, if_pos rfl, List.nil_append] at hchanged

/-- What needs no care is what leaves journal, keys, rules and values as they are. -/
theorem congr (h : e.Settled due) (hjournal : e'.journal = e.journal)
    (hkeys : e'.registry = e.registry) (hrules : e'.rules = e.rules)
    (hvalue : ∀ name, e'.value? name = e.value? name) : e'.Settled due := by
  intro id r ⟨key, hkey, hr⟩ hreads hdue hstirred
  rw [hkeys] at hkey
  rw [hrules] at hr
  rw [hjournal] at hstirred
  exact (h id r ⟨key, hkey, hr⟩ hreads hdue hstirred).view hreads fun name _ => hvalue name

/-- The beginning of a run is a cause for that rule alone. -/
theorem enter (h : e.Settled due) {id : RuleId} (hdue : id ∈ due) : (e.enter id).Settled due := by
  refine h.of_cons rfl fun other r hr _ hother => ⟨hr, hother, ⟨?_, nofun, nofun⟩, fun _ _ => rfl⟩
  rintro heq
  cases heq
  exact hother hdue

theorem leave (h : e.Settled due) (id : RuleId) : (e.leave id).Settled due :=
  h.of_cons rfl fun _ _ hr _ hdue => ⟨hr, hdue, ⟨nofun, nofun, nofun⟩, fun _ _ => rfl⟩

/-- **A run settles its rule**: if the rule only reads, what the run has come to is what the tree still
comes to, and it is kept. -/
theorem ran {e₁ : Engine} {id : RuleId} {rule : Rule} {r : Except EvalError Value} {run : Runner}
    (hrule : e.rules.get? id = some rule)
    (heval : (run.eval (.rule id) 0 rule.body).run.run (e.enter id) = (r, e₁))
    (hmoves : Moves e e₁) (h : e₁.Settled (id :: due)) :
    ((e₁.leave id).keep id r).Settled due := by
  have hvalue : ∀ name, ((e₁.leave id).keep id r).value? name = e₁.value? name := by
    intro name
    cases r <;> rfl
  have hjournal : ((e₁.leave id).keep id r).journal = (e₁.leave id).journal := by
    cases r <;> rfl
  have hkeys : ((e₁.leave id).keep id r).registry = e₁.registry := by
    cases r <;> rfl
  intro other now ⟨key, hkey, hnow⟩ hreads hdue hstirred
  rw [hkeys] at hkey
  by_cases hother : other = id
  · rw [hother, get?_keep, if_pos rfl] at hnow
    obtain ⟨before, hbefore, hkept⟩ := Option.map_eq_some_iff.mp hnow
    have hbody : rule.body = now.body := by
      rw [hmoves.body_eq hrule hbefore, ← hkept]
      cases r <;> rfl
    rw [hbody] at heval
    -- the tree has only spoken of names, so it comes to the same at the end as at the beginning
    have hspoken : Spoken (e.enter id) e₁ := by
      have hself : SameView now.dependencies (e.enter id) (e.enter id) := fun _ _ => rfl
      have hrun := (eval_readsOnly hreads run (.rule id) 0 hself).2
      rwa [heval] at hrun
    have hview : SameView now.dependencies (e.enter id) ((e₁.leave id).keep id r) :=
      fun name _ => (hvalue name).trans (hspoken.value? name)
    have hcome : r = ((evaluateAgain now.body).run ((e₁.leave id).keep id r)).1 := by
      have hrun := (eval_readsOnly hreads run (.rule id) 0 hview).1
      rwa [heval] at hrun
    intro v hv
    rw [← hcome] at hv
    rw [← hkept, hv]
  · rw [get?_keep, if_neg hother] at hnow
    rw [hjournal] at hstirred
    have hleft := h.leave id
    have hdue' : other ∉ id :: due := fun hmem => (List.mem_cons.mp hmem).elim hother hdue
    have hbefore := hleft other now ⟨key, hkey, hnow⟩ hreads hdue' hstirred
    exact hbefore.view hreads fun name _ => hvalue name

end Settled

/-! ## §4 Every course settles what is due -/

/-- The rules that a part of a cascade is there for. -/
def Phase.due : Phase → List RuleId
  | .free => []
  | .serve ids => ids
  | .attempt id _ => [id]

/-- No run was refused or without room. -/
def Smooth (e : Engine) : Prop := ∀ id, .refused id ∉ e.journal ∧ .exhausted id ∉ e.journal

theorem Smooth.before (h : e'.Smooth) (hmoves : Moves e e') : e.Smooth :=
  fun id => ⟨fun hmem => (h id).1 (hmoves.journal.subset hmem),
    fun hmem => (h id).2 (hmoves.journal.subset hmem)⟩

/-- **A smooth course settles what it is there for** and keeps what is settled. -/
theorem Course.settled {phase : Phase} (h : Course phase e e') (hissued : e.Issued)
    (hsmooth : e'.Smooth) {due : List RuleId} (hsettled : e.Settled (phase.due ++ due)) :
    e'.Settled due := by
  -- whatever becomes due within a part is settled by that part, and what was due before stays so
  induction h generalizing due with
  | rest => exact hsettled
  | step hbefore hstep ih =>
    have hbetween := ih hissued (hsmooth.before (.single (.step hstep))) hsettled
    exact hbetween.step (hissued.moves hbefore.moves) hstep
  | register name f hbefore ih =>
    have hbetween := ih hissued (hsmooth.before (.single (.register name f))) hsettled
    exact hbetween.congr rfl rfl rfl fun _ => rfl
  | crowded name hbefore ih =>
    have hbetween := ih hissued (hsmooth.before (.single (.hitch rfl))) hsettled
    exact hbetween.record (.inr rfl)
  | @change _ e₁ _ name v hbefore _ hserve ih ihserve =>
    have hchanges : Moves e₁ ((e₁.changed name v).mark name) :=
      .head (.change name v) (moves_mark name _)
    have hbetween := ih hissued (hsmooth.before (hchanges.trans hserve.moves)) hsettled
    have hchanged : (e₁.changed name v).Issued :=
      (hissued.moves hbefore.moves).move (.change name v)
    -- the rules notified are due until they are served
    have hmarked := (hbetween.changed name v).mark hchanged name
    exact ihserve (hchanged.moves (moves_mark name _)) hsmooth hmarked
  | @fire _ e₁ e₂ id r hbefore hrun ih ihrun =>
    have hreport := moves_report id r e₂
    have hfire : Moves e₁ e₂ := .head (.report rfl) hrun.moves
    have hbetween := ih hissued (hsmooth.before (hfire.trans hreport)) hsettled
    have hfired : (e₁.record (.fired id)).Issued :=
      (hissued.moves hbefore.moves).move (.report rfl)
    have hran := ihrun hfired (hsmooth.before hreport) (hbetween.record (.inl rfl)).weaken
    exact hran.report id r
  | @ask _ e₁ _ id r hbefore hrun ih ihrun =>
    have hask : Moves e₁ _ := .head (.report rfl) hrun.moves
    have hbetween := ih hissued (hsmooth.before hask) hsettled
    have hasked : (e₁.record (.asked id)).Issued :=
      (hissued.moves hbefore.moves).move (.report rfl)
    exact ihrun hasked hsmooth (hbetween.record (.inl rfl)).weaken
  | served => exact hsettled
  | @next e e₁ e₂ id ids r hrun hserve ihrun ihserve =>
    have hreport := moves_report id r e₁
    have hsmooth' : e₁.Smooth := hsmooth.before (hreport.trans hserve.moves)
    have hran : e₁.Settled (ids ++ due) := ihrun hissued hsmooth' hsettled
    have hreported := (hissued.moves hrun.moves).moves hreport
    exact ihserve hreported hsmooth (hran.report id r)
  | @gone e id h =>
    -- a rule that is gone is not registered
    intro other r ⟨key, hkey, hr⟩ hreads hdue hstirred
    refine hsettled other r ⟨key, hkey, hr⟩ hreads (fun hmem => ?_) hstirred
    rcases List.mem_cons.mp hmem with rfl | hmem
    · rw [h] at hr
      cases hr
    · exact hdue hmem
  -- refusals are what a smooth course has none of
  | @refused e id _ _ _ _ => exact absurd (List.mem_cons_self ..) (hsmooth id).1
  | @exhausted e id _ _ _ =>
    exact absurd (List.mem_cons_of_mem _ (List.mem_cons_self ..)) (hsmooth id).2
  | @ran e e₁ id rule r run hrule hlimit heval hcourse ih =>
    have henter : Moves e (e.enter id) := .single (.enter hrule hlimit)
    have hafter : Moves e₁ ((e₁.leave id).keep id r) :=
      .head (.leave id hcourse.depth_pos) (moves_keep _ _ _)
    have hbegun : (e.enter id).Settled (id :: due) := hsettled.enter (List.mem_cons_self ..)
    have hinner := ih (hissued.moves henter) (hsmooth.before hafter) hbegun
    exact hinner.ran hrule heval (henter.trans hcourse.moves)

theorem settled_new (config : Config) : (Engine.new config).Settled [] := by
  rw [new_eq]
  rintro id r ⟨key, hkey, -⟩
  cases hkey

end Engine

/-- **Results are up to date at rest.** In a history without a refused run, and without a run that
found no room where there is no limit, a registered rule that only reads and has had cause to run has
as its last result the value that its tree comes to now, if it comes to one. -/
theorem last_result_eq {config : Config} {ops : List Operation}
    (hrefused : ∀ id, .refused id ∉ (history config ops).journal)
    (hroom : config.maxDepth = none → ∀ id, .exhausted id ∉ (history config ops).journal)
    {id : RuleId} {r : Rule} (hr : (history config ops).Registered id r) (hreads : r.ReadsOnly)
    (hstirred : Stirred (history config ops).journal id r) {v : Value}
    (hv : ((evaluateAgain r.body).run (history config ops)).1 = .ok v) :
    r.lastResult = some v := by
  have hexhausted : ∀ id, .exhausted id ∉ (history config ops).journal := by
    cases hlimit : config.maxDepth with
    | none => exact hroom hlimit
    | some n => exact not_exhausted hlimit ops
  have hsettled : (history config ops).Settled [] :=
    (course_history config ops).settled (issued_new config)
      (fun id => ⟨hrefused id, hexhausted id⟩) (settled_new config)
  exact hsettled id r hr hreads List.not_mem_nil hstirred v hv

/-- The rule that copies a symbol has its value. -/
theorem last_result_of_copy :
    (history .standard [.define "copy" "a", .set "a" (.bool true)]).Registered ⟨0⟩
        ⟨"copy", "a", .var "a", some (.bool true)⟩ ∧
      (⟨"copy", "a", .var "a", some (.bool true)⟩ : Rule).lastResult = some (.bool true) := by
  have hjournal : (history .standard [.define "copy" "a", .set "a" (.bool true)]).journal =
      [.ended ⟨0⟩, .began ⟨0⟩, .changed "%" (.string "a"), .changed "a" (.bool true),
        .defined ⟨0⟩] := rfl
  have hr : (history .standard [.define "copy" "a", .set "a" (.bool true)]).Registered ⟨0⟩
      ⟨"copy", "a", .var "a", some (.bool true)⟩ := ⟨"copy", rfl, rfl⟩
  have hreads : Rule.ReadsOnly ⟨"copy", "a", .var "a", some (.bool true)⟩ := by
    refine ⟨rfl, fun d hd => ?_⟩
    rw [List.mem_singleton.mp hd]
    rfl
  refine ⟨hr, last_result_eq (fun id => ?_) (fun hlimit => ?_) hr hreads ?_ rfl⟩
  · rw [hjournal]
    simp
  · cases (hlimit : some 64 = none)
  · rw [hjournal]
    exact Or.inl (by simp)

end Cascade
