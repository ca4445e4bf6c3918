import Cascade.Proofs.History
import Cascade.Proofs.Identity

/-!
# Removed rules are gone for ever

A rule may be removed while it runs, or while it waits for its turn in a cascade; and its key may be
given to another rule at once. Whoever still holds its identity holds nothing: the slot stays empty and
is never handed out again, so its tree is not evaluated any more, and a run that was on its way finds
no rule to keep its value with.

§1 rules that are gone; §2 what a removal writes; §3 what is true after it; §4 for ever.
-/

namespace Cascade

/-- Where there is no rule, there is nothing to change. -/
theorem Rules.update_eq_self {rs : Rules} {id : RuleId} (h : rs.get? id = none) (f : Rule → Rule) :
    rs.update id f = rs := by
  rw [get?] at h
  refine congrArg Rules.mk (Array.ext_getElem? fun i => ?_)
  rw [Array.getElem?_modify]
  split
  · next heq =>
    subst heq
    cases hslot : rs.slots[id.slot]? with
    | none => rfl
    | some r =>
      rw [hslot] at h
      cases r with
      | none => rfl
      | some r => cases h
  · rfl

namespace Engine

variable {e e' : Engine} {id : RuleId}

/-! ## §1 Rules that are gone -/

/-- **A rule is gone**: its identity has been handed out and means nothing any more. -/
structure Gone (e : Engine) (id : RuleId) : Prop where
  issued : id.slot < e.rules.size
  empty : e.rules.get? id = none

theorem Gone.ne_nextId (h : e.Gone id) : id ≠ e.rules.nextId := by
  rintro rfl
  exact Nat.lt_irrefl _ h.issued

/-- **A rule that is gone does not come back.** -/
theorem Gone.move (h : e.Gone id) (hmove : Move e e') : e'.Gone id := by
  refine ⟨Nat.lt_of_lt_of_le h.issued hmove.size_le, ?_⟩
  cases hr : e'.rules.get? id with
  | none => rfl
  | some r =>
    rcases hmove.get? hr with ⟨old, hold, -⟩ | hnew
    · rw [h.empty] at hold
      cases hold
    · exact absurd hnew h.ne_nextId

/-- No value is kept with a rule that is gone. -/
theorem Gone.keep (h : e.Gone id) (r : Except EvalError Value) : e.keep id r = e := by
  cases r with
  | ok v => rw [Engine.keep, keepResult, Rules.update_eq_self h.empty]
  | error error => rfl

/-- A definition does not hand out the identity of a rule that is gone. -/
theorem Gone.define_ne (h : e.Gone id) (key source : String) : (e.define key source).1 ≠ .ok id := by
  have hfree : (e.free key).rules.size = e.rules.size := by
    unfold free
    split
    · rfl
    · exact size_uninstall ..
  unfold define
  split
  · nofun
  · split
    · nofun
    · intro heq
      cases heq
      exact Nat.lt_irrefl _ (hfree ▸ h.issued)

theorem Gone.defineTrigger_ne (h : e.Gone id) (pattern source : String) :
    (e.defineTrigger pattern source).1 ≠ .ok id := by
  unfold defineTrigger
  split
  · nofun
  · split
    · nofun
    · intro heq
      cases heq
      exact Nat.lt_irrefl _ h.issued

/-! ## §2 What a removal writes -/

theorem uninstall_journal_of_rule {r : Rule} (hr : e.rules.get? id = some r) (key : String) :
    (e.uninstall key id).journal = .removed id :: e.journal := by
  simp only [uninstall, hr]
  rw [unsubscribeAll_frame]
  rfl

/-- **A removal that succeeds is written to the journal.** -/
theorem remove_journal (h : e.Canonical) {key : String} (hremove : (e.remove key).1 = .ok ()) :
    ∃ id, e.registry.get? key = some id ∧ (e.remove key).2.journal = .removed id :: e.journal := by
  unfold remove at hremove ⊢
  split at hremove
  · cases hremove
  · next id hkey =>
    obtain ⟨r, hr, -⟩ := h.housed hkey
    exact ⟨id, hkey, uninstall_journal_of_rule hr key⟩

/-- **So is the removal of a rule whose key is defined anew.** -/
theorem define_journal (h : e.Canonical) {key source : String} {old : RuleId}
    (hkey : e.registry.get? key = some old) (hdefine : (e.define key source).1 = .ok id) :
    (e.define key source).2.journal = .defined id :: .removed old :: e.journal := by
  obtain ⟨r, hr, -⟩ := h.housed hkey
  have hfree : (e.free key).journal = .removed old :: e.journal := by
    simp only [free, hkey]
    exact uninstall_journal_of_rule hr key
  unfold define at hdefine ⊢
  split at hdefine
  · cases hdefine
  · next hne =>
    rw [if_neg hne]
    split at hdefine
    · cases hdefine
    · cases hdefine
      rw [← hfree]
      exact install_journal _ _

/-- **Where a step writes that a rule has been removed, it is gone.** -/
theorem Step.gone (h : Step e e') (hjournal : e'.journal = .removed id :: e.journal) :
    e'.Gone id := by
  have hhead : ∀ {event : Event}, e'.journal = event :: e.journal → event = .removed id := by
    intro event hevent
    rw [hjournal] at hevent
    exact (List.cons.inj hevent).1.symm
  have hsame : e'.journal ≠ e.journal := by
    rw [hjournal]
    exact List.cons_ne_self _ _
  cases h with
  | remark hremark =>
    rw [hhead rfl] at hremark
    cases hremark
  | install => cases hhead (install_journal _ e)
  | @uninstall key other hkey =>
    cases hr : e.rules.get? other with
    | none =>
      -- without a rule nothing is written
      refine absurd ?_ hsame
      simp only [Engine.uninstall, hr]
    | some r =>
      cases hhead (uninstall_journal_of_rule hr key)
      refine ⟨?_, by rw [get?_uninstall, if_pos rfl]⟩
      rw [size_uninstall]
      exact Rules.slot_lt hr
  | addTrigger => cases hhead rfl
  | branch => cases hhead rfl
  | act => cases hhead rfl
  | _ => exact absurd rfl hsame

/-! ## §3 What is true after a removal -/

/-- **Removals are final**: a rule whose removal the journal tells of is gone, and since then it has
neither begun to run nor been defined. -/
def Final (e : Engine) : Prop :=
  ∀ id after before, e.journal = after ++ .removed id :: before →
    e.Gone id ∧ .began id ∉ after ∧ .defined id ∉ after

theorem Final.of_same (h : e.Final) (hmove : Move e e') (hjournal : e'.journal = e.journal) :
    e'.Final := by
  intro id after before hremoved
  rw [hjournal] at hremoved
  obtain ⟨hgone, hsince⟩ := h id after before hremoved
  exact ⟨hgone.move hmove, hsince⟩

/-- One more event, if it is no return of a rule that is gone, and is a removal only where one has
taken place. -/
theorem Final.of_cons (h : e.Final) (hmove : Move e e') {event : Event}
    (hjournal : e'.journal = event :: e.journal)
    (hremoval : ∀ {id}, event = .removed id → e'.Gone id)
    (hreturn : ∀ {id}, e.Gone id → event ≠ .began id ∧ event ≠ .defined id) : e'.Final := by
  intro id after before hremoved
  rw [hjournal] at hremoved
  cases after with
  | nil =>
    cases hremoved
    exact ⟨hremoval rfl, List.not_mem_nil, List.not_mem_nil⟩
  | cons first after =>
    obtain ⟨rfl, hearlier⟩ := List.cons.inj hremoved
    obtain ⟨hgone, hbegan, hdefined⟩ := h id after before hearlier
    obtain ⟨hbegan', hdefined'⟩ := hreturn hgone
    refine ⟨hgone.move hmove, fun hmem => ?_, fun hmem => ?_⟩
    · rcases List.mem_cons.mp hmem with heq | hmem
      · exact hbegan' heq.symm
      · exact hbegan hmem
    · rcases List.mem_cons.mp hmem with heq | hmem
      · exact hdefined' heq.symm
      · exact hdefined hmem

/-- **Every move leaves removals final.** -/
theorem Final.move (h : e.Final) (hmove : Move e e') : e'.Final := by
  have hmove' := hmove
  cases hmove with
  | step hstep =>
    rcases hstep.journal with hsame | ⟨event, hquiet, hjournal⟩
    · exact h.of_same hmove' hsame
    · refine h.of_cons hmove' hjournal ?_ fun {id} hgone => ⟨?_, fun hdefined => ?_⟩
      · rintro id rfl
        exact hstep.gone hjournal
      · rintro rfl
        cases hquiet
      · exact hgone.ne_nextId (hstep.defined hjournal hdefined).1
  | register => exact h.of_same hmove' rfl
  | change => exact h.of_cons hmove' rfl nofun fun _ => ⟨nofun, nofun⟩
  | report hreport =>
    refine h.of_cons hmove' rfl (fun heq => ?_) fun _ => ⟨fun heq => ?_, fun heq => ?_⟩
    all_goals
      rw [heq] at hreport
      cases hreport
  | hitch hhitch =>
    refine h.of_cons hmove' rfl (fun heq => ?_) fun _ => ⟨fun heq => ?_, fun heq => ?_⟩
    all_goals
      rw [heq] at hhitch
      cases hhitch
  | enter hr =>
    refine h.of_cons hmove' rfl nofun fun {id} hgone => ⟨?_, nofun⟩
    -- only a rule that is there begins to run
    rintro heq
    cases heq
    rw [hgone.empty] at hr
    cases hr
  | leave => exact h.of_cons hmove' rfl nofun fun _ => ⟨nofun, nofun⟩
  | keepResult => exact h.of_same hmove' rfl

theorem final_new (config : Config) : (Engine.new config).Final := by
  rw [new_eq]
  intro id after before hremoved
  cases after <;> cases hremoved

end Engine

/-! ## §4 For ever -/

open Engine

/-- **A removed rule is dead for ever.** At every moment of every history, a removal that succeeds,
be it on its own or for a new definition, is written to the journal; and a rule of which the journal
says so has not begun to run since, is not run by any request to run it, has its identity handed out
to nobody, and if it was running at its removal, its run ends without a result being kept. -/
theorem removed_for_ever {config : Config} {ops : List Operation} {e : Engine}
    (h : Moves (history config ops) e) :
    (∀ {key}, (e.remove key).1 = .ok () → ∃ id, e.registry.get? key = some id ∧
      (e.remove key).2.trace = e.trace ++ [.removed id]) ∧
    (∀ {key source id old}, e.registry.get? key = some old → (e.define key source).1 = .ok id →
      (e.define key source).2.trace = e.trace ++ [.removed old, .defined id]) ∧
    ∀ {id before after}, e.trace = before ++ .removed id :: after →
      (.began id ∉ after ∧ .defined id ∉ after) ∧
      (∀ body, (runRule body id).run.run e = (.ok .neutral, e)) ∧
      (∀ key source, (e.define key source).1 ≠ .ok id) ∧
      (∀ pattern source, (e.defineTrigger pattern source).1 ≠ .ok id) ∧
      ∀ {body start rule r}, start.rules.get? id = some rule → start.limitReached? = none →
        (body id rule.body).run.run (start.enter id) = (r, e) →
        (runRule body id).run.run start = (r, e.leave id) := by
  have hcanonical : e.Canonical := (canonical_history config ops).moves h
  have hmoves : Moves (Engine.new config) e := (course_history config ops).moves.trans h
  have hfinal : e.Final := hmoves.keeps (fun h hmove => h.move hmove) (final_new config)
  refine ⟨fun hremove => ?_, fun hkey hdefine => ?_, fun {id before after} htrace => ?_⟩
  · obtain ⟨id, hkey, hjournal⟩ := remove_journal hcanonical hremove
    exact ⟨id, hkey, by rw [trace, hjournal, List.reverse_cons, trace]⟩
  · rw [trace, define_journal hcanonical hkey hdefine, trace]
    simp
  · have hjournal : e.journal = after.reverse ++ .removed id :: before.reverse := by
      rw [← List.reverse_reverse e.journal, ← trace, htrace]
      simp
    obtain ⟨hgone, hbegan, hdefined⟩ := hfinal id _ _ hjournal
    refine ⟨⟨?_, ?_⟩, fun _ => runRule_gone hgone.empty, hgone.define_ne, hgone.defineTrigger_ne, ?_⟩
    · rwa [List.mem_reverse] at hbegan
    · rwa [List.mem_reverse] at hdefined
    · intro body start rule r hrule hlimit hbody
      have hleft : (e.leave id).Gone id := ⟨hgone.issued, hgone.empty⟩
      rw [runRule_ran hrule hlimit hbody, hleft.keep]

/-- An engine in which the rule `p` removes itself and comes to 7. -/
def selfRemoving : Engine :=
  history ⟨some 3, false, 1⟩
    [.register "drop" fun _ _ => .remove "p" fun _ => .value (.int 7), .define "p" "drop()"]

/-- A rule that removes itself while it runs: its run ends without a result, and that was the last. -/
theorem removed_while_running :
    ∃ e : Engine, e.trace = [.defined ⟨0⟩, .began ⟨0⟩, .removed ⟨0⟩] ∧
      (runRule (fun id tree => (runner 2).eval (.rule id) 0 tree) ⟨0⟩).run.run selfRemoving =
        (.ok (.int 7), e.leave ⟨0⟩) ∧
      (runRule noRoom ⟨0⟩).run.run e = (.ok .neutral, e) ∧
      ∀ key source, (e.define key source).1 ≠ .ok ⟨0⟩ := by
  have hrule : selfRemoving.rules.get? ⟨0⟩ = some ⟨"p", "drop()", .call "drop" [], none⟩ := rfl
  have henter : Move selfRemoving (selfRemoving.enter ⟨0⟩) := .enter hrule rfl
  have hcanonical : (selfRemoving.enter ⟨0⟩).Canonical := (canonical_history _ _).move henter
  have hcourse := (((courses_runner 2).agree hcanonical).eval (.rule ⟨0⟩) 0 (.call "drop" []) .rest).2
  have htrace : (((runner 2).eval (.rule ⟨0⟩) 0 (.call "drop" [])).run.run
      (selfRemoving.enter ⟨0⟩)).2.trace = [.defined ⟨0⟩, .began ⟨0⟩] ++ .removed ⟨0⟩ :: [] := rfl
  obtain ⟨-, hneutral, hdefine, -, hend⟩ :=
    (removed_for_ever (.head henter hcourse.moves)).2.2 htrace
  exact ⟨_, htrace, hend hrule rfl rfl, hneutral noRoom, hdefine⟩

end Cascade
