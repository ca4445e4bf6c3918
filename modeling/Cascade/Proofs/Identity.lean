import Cascade.Proofs.Step

/-!
# Identities are not used again

A slot that has been handed out is never handed out again. So what an identity has once meant, it goes
on to mean or means nothing any more, and whatever the journal says of rules it says of identities
that have been handed out.
-/

namespace Cascade

namespace Engine

variable {e e' : Engine}

theorem Move.size_le (h : Move e e') : e.rules.size ≤ e'.rules.size := by
  cases h with
  | step hstep => exact hstep.size_le
  | keepResult id v => exact Nat.le_of_eq (Rules.size_update ..).symm
  | _ => exact Nat.le_refl _

theorem Moves.size_le (h : Moves e e') : e.rules.size ≤ e'.rules.size :=
  h.keeps (S := fun x => e.rules.size ≤ x.rules.size)
    (fun h hmove => Nat.le_trans h hmove.size_le) (Nat.le_refl _)

/-- A rule that is there after a move was there with the same tree, or has just come. -/
theorem Move.get? (h : Move e e') {id : RuleId} {r : Rule} (hr : e'.rules.get? id = some r) :
    (∃ old, e.rules.get? id = some old ∧ old.body = r.body) ∨ id = e.rules.nextId := by
  cases h with
  | step hstep =>
    rcases hstep.get? hr with hold | ⟨hnew, -⟩
    · exact Or.inl ⟨r, hold, rfl⟩
    · exact Or.inr hnew
  | keepResult other v =>
    rw [Engine.keepResult, Rules.get?_update] at hr
    split at hr
    · next heq =>
      obtain ⟨old, hold, rfl⟩ := Option.map_eq_some_iff.mp hr
      exact Or.inl ⟨old, heq ▸ hold, rfl⟩
    · exact Or.inl ⟨r, hr, rfl⟩
  | _ => exact Or.inl ⟨r, hr, rfl⟩

/-- **An identity never comes to mean another tree.** -/
theorem Moves.body_eq (h : Moves e e') {id : RuleId} {old r : Rule}
    (hold : e.rules.get? id = some old) (hr : e'.rules.get? id = some r) : old.body = r.body := by
  induction h generalizing r with
  | refl =>
    rw [hold] at hr
    cases hr
    rfl
  | @tail b c hmoves hmove ih =>
    rcases hmove.get? hr with ⟨between, hbetween, hbody⟩ | hnew
    · exact (ih hbetween).trans hbody
    · have hlt : id.slot < b.rules.size :=
        Nat.lt_of_lt_of_le (Rules.slot_lt hold) (Moves.size_le hmoves)
      rw [hnew] at hlt
      exact absurd hlt (Nat.lt_irrefl _)

/-- **What the journal says of rules is said of identities that have been handed out.** -/
def Issued (e : Engine) : Prop :=
  ∀ id, .began id ∈ e.journal ∨ .defined id ∈ e.journal → id.slot < e.rules.size

/-- A quiet step that defines a rule takes the next identity. -/
theorem Step.defined (h : Step e e') {event : Event} (hjournal : e'.journal = event :: e.journal)
    {id : RuleId} (hevent : event = .defined id) :
    id = e.rules.nextId ∧ e'.rules.size = e.rules.size + 1 := by
  have hhead : ∀ {other : Event}, e'.journal = other :: e.journal → other = .defined id := by
    intro other hother
    rw [hjournal] at hother
    rw [← (List.cons.inj hother).1, hevent]
  have hsame : e'.journal ≠ e.journal := by
    rw [hjournal]
    exact List.cons_ne_self _ _
  cases h with
  | remark hremark =>
    rw [hhead rfl] at hremark
    cases hremark
  | install =>
    cases hhead (install_journal _ e)
    exact ⟨rfl, by rw [install_rules, Rules.size_add]⟩
  | uninstall =>
    rcases uninstall_journal _ _ e with h | h
    · exact absurd h hsame
    · cases hhead h
  | addTrigger =>
    cases hhead rfl
    exact ⟨rfl, Rules.size_add ..⟩
  | branch => cases hhead rfl
  | act => cases hhead rfl
  | _ => exact absurd rfl hsame

theorem Issued.of_cons (h : e.Issued) {event : Event} (hsize : e.rules.size ≤ e'.rules.size)
    (hjournal : e'.journal = event :: e.journal)
    (hevent : ∀ id, event = .began id ∨ event = .defined id → id.slot < e'.rules.size) :
    e'.Issued := by
  intro id hid
  rw [hjournal, List.mem_cons, List.mem_cons] at hid
  rcases hid with (hnew | hold) | (hnew | hold)
  · exact hevent id (Or.inl hnew.symm)
  · exact Nat.lt_of_lt_of_le (h id (Or.inl hold)) hsize
  · exact hevent id (Or.inr hnew.symm)
  · exact Nat.lt_of_lt_of_le (h id (Or.inr hold)) hsize

theorem Issued.of_same (h : e.Issued) (hsize : e.rules.size ≤ e'.rules.size)
    (hjournal : e'.journal = e.journal) : e'.Issued := by
  intro id hid
  rw [hjournal] at hid
  exact Nat.lt_of_lt_of_le (h id hid) hsize

theorem Issued.move (h : e.Issued) (hmove : Move e e') : e'.Issued := by
  have hsize := hmove.size_le
  cases hmove with
  | step hstep =>
    rcases hstep.journal with hsame | ⟨event, hquiet, hjournal⟩
    · exact h.of_same hsize hsame
    · refine h.of_cons hsize hjournal ?_
      rintro id (rfl | rfl)
      · cases hquiet
      · obtain ⟨rfl, hgrown⟩ := hstep.defined hjournal rfl
        rw [hgrown]
        exact Nat.lt_succ_self _
  | register => exact h.of_same hsize rfl
  | change => exact h.of_cons hsize rfl fun _ hid => by rcases hid with hid | hid <;> cases hid
  | report hreport =>
    refine h.of_cons hsize rfl ?_
    rintro id (rfl | rfl) <;> cases hreport
  | hitch hhitch =>
    refine h.of_cons hsize rfl ?_
    rintro id (rfl | rfl) <;> cases hhitch
  | enter hr =>
    refine h.of_cons hsize rfl ?_
    rintro other (hid | hid)
    · cases hid
      exact Rules.slot_lt hr
    · cases hid
  | leave => exact h.of_cons hsize rfl fun _ hid => by rcases hid with hid | hid <;> cases hid
  | keepResult => exact h.of_same hsize rfl

theorem Issued.moves (h : e.Issued) (hmoves : Moves e e') : e'.Issued :=
  hmoves.keeps (fun h hmove => h.move hmove) h

theorem issued_new (config : Config) : (Engine.new config).Issued := by
  rw [new_eq]
  intro id hid
  rcases hid with hid | hid <;> cases hid

end Engine

end Cascade
