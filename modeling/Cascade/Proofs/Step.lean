import Cascade.Proofs.Frame
import Mathlib.Logic.Relation

/-!
# The steps of an engine

Whatever an engine is asked to do comes down to few kinds of small steps. A **quiet step** neither
changes the value of a symbol nor runs a rule: symbols come to be, rules and triggers come and go,
memories and counters are written, remarks are made. It is a **plain step** if it has nothing to do with
memories. A **move** is any step at all.

§1 quiet steps; §2 what a quiet step leaves alone; §3 defining and removing are plain; §4 moves.
-/

namespace Cascade

/-! ## §1 Quiet steps -/

/-- Is this event a remark, one that stands for nothing but itself? -/
def Event.isRemark : Event → Bool
  | .printed _ | .reported _ | .noted _ | .lineRejected _ _ | .lineIgnored _ => true
  | _ => false

/-- Does this event tell who asked for a run or that one failed? -/
def Event.isReport : Event → Bool
  | .fired _ | .asked _ | .ruleFailed _ _ => true
  | _ => false

/-- Does this event tell that a run or a call could not take place? -/
def Event.isHitch : Event → Bool
  | .refused _ | .exhausted _ | .crowded _ => true
  | _ => false

/-- Is this an event that a quiet step writes to the journal? -/
def Event.isQuiet : Event → Bool
  | .defined _ | .removed _ | .branched _ _ | .acted _ _ => true
  | event => event.isRemark

theorem Event.isQuiet_of_isRemark {event : Event} (h : event.isRemark = true) :
    event.isQuiet = true := by
  cases event with
  | printed | reported | noted | lineRejected | lineIgnored => rfl
  | _ => cases h

/-- The remembering form of which an event tells the start. -/
def Event.form? : Event → Option NodeRef
  | .branched node _ | .acted node _ => some node
  | _ => none

theorem Event.form?_eq_none {event : Event}
    (h : event.isRemark = true ∨ event.isReport = true ∨ event.isHitch = true) :
    event.form? = none := by
  cases event with
  | branched | acted => rcases h with h | h | h <;> cases h
  | _ => rfl

namespace Engine

/-- **A quiet step.** -/
inductive Step : Engine → Engine → Prop
  | remark {e : Engine} {event : Event} : event.isRemark = true → Step e (e.record event)
  | touch {e : Engine} (name : String) : Step e (e.touch name)
  /-- A rule takes the next slot and a key that is free. -/
  | install {e : Engine} {key source : String} {r : Rule} : key ≠ "" →
      Rule.compile key source = .ok r → e.registry.get? key = none → Step e (e.install r).2
  | uninstall {e : Engine} {key : String} {id : RuleId} : e.registry.get? key = some id →
      Step e (e.uninstall key id)
  /-- The rule of a trigger takes the next slot. -/
  | addTrigger {e : Engine} {pattern source : String} {r : Rule} {p : Pattern} :
      Rule.compile (triggerKey pattern) source = .ok r → Pattern.compile pattern = .ok p →
      Step e (record (.defined e.rules.nextId)
        { e with rules := e.rules.add r, triggers := e.triggers ++ [⟨p, e.rules.nextId⟩] })
  /-- The rule of a trigger with a refused pattern uses up the next slot. -/
  | discard {e : Engine} (r : Rule) :
      Step e { e with rules := (e.rules.add r).remove e.rules.nextId }
  | countCall {e : Engine} {name : String} {f : Registered} : e.functions.get? name = some f →
      Step e (e.countCall name f)
  | branch {e : Engine} {node : NodeRef} {truth : Bool} : truth ≠ e.memories.truth node →
      Step e (e.branch node truth)
  | act {e : Engine} {node : NodeRef} {v : Value} :
      Value.sameOption (e.memories.seen node) (some v) = false → Step e (e.act node v)
  | forget {e : Engine} : Step e { e with memories := e.memories.forgetQuery }

/-- **A plain step** is a quiet one by which no form starts and nothing is remembered or forgotten. -/
structure Plain (e e' : Engine) : Prop where
  step : Step e e'
  memories : e'.memories = e.memories
  journal : e'.journal = e.journal ∨
    ∃ event : Event, event.form? = none ∧ e'.journal = event :: e.journal

namespace Plain

variable {e : Engine}

theorem remark {event : Event} (h : event.isRemark = true) : Plain e (e.record event) :=
  ⟨.remark h, rfl, .inr ⟨event, Event.form?_eq_none (.inl h), rfl⟩⟩

theorem touch (name : String) : Plain e (e.touch name) := ⟨.touch name, rfl, .inl rfl⟩

theorem countCall {name : String} {f : Registered} (hf : e.functions.get? name = some f) :
    Plain e (e.countCall name f) :=
  ⟨.countCall hf, rfl, .inl rfl⟩

end Plain

/-- **Any number of plain steps.** -/
abbrev Plains : Engine → Engine → Prop := Relation.ReflTransGen Plain

/-- What every plain step keeps, any number of them keeps. -/
theorem Plains.keeps {S : Engine → Prop} (hS : ∀ {a b}, S a → Plain a b → S b) {e e' : Engine}
    (h : S e) (hplains : Plains e e') : S e' := by
  induction hplains with
  | refl => exact h
  | tail _ hplain ih => exact hS ih hplain

/-! ## §2 What a quiet step leaves alone -/

namespace Step

variable {e e' : Engine}

theorem config (h : Step e e') : e'.config = e.config := by
  cases h <;> first | rfl | exact install_config _ _ | exact uninstall_config _ _ _

theorem depth (h : Step e e') : e'.depth = e.depth := by
  cases h <;> first | rfl | exact install_depth _ _ | exact uninstall_depth _ _ _

theorem value? (h : Step e e') (name : String) : e'.value? name = e.value? name := by
  cases h with
  | touch other => exact value?_touch e other name
  | install => exact value?_install _ e name
  | uninstall => exact value?_uninstall _ _ e name
  | _ => rfl

/-- A quiet step writes one quiet event or nothing. -/
theorem journal (h : Step e e') :
    e'.journal = e.journal ∨ ∃ event : Event, event.isQuiet = true ∧
      e'.journal = event :: e.journal := by
  cases h with
  | remark hevent => exact Or.inr ⟨_, Event.isQuiet_of_isRemark hevent, rfl⟩
  | install => exact Or.inr ⟨_, rfl, install_journal _ e⟩
  | uninstall =>
    rcases uninstall_journal _ _ e with h | h
    · exact Or.inl h
    · exact Or.inr ⟨_, rfl, h⟩
  | addTrigger => exact Or.inr ⟨_, rfl, rfl⟩
  | branch => exact Or.inr ⟨_, rfl, rfl⟩
  | act => exact Or.inr ⟨_, rfl, rfl⟩
  | _ => exact Or.inl rfl

theorem size_le (h : Step e e') : e.rules.size ≤ e'.rules.size := by
  cases h with
  | install => simp
  | uninstall => simp
  | addTrigger => simp [record]
  | discard => simp
  | _ => exact Nat.le_refl _

/-- A rule that is there after a quiet step was there before, or is a new one that has not run. -/
theorem get? (h : Step e e') {id : RuleId} {r : Rule} (hr : e'.rules.get? id = some r) :
    e.rules.get? id = some r ∨ id = e.rules.nextId ∧ r.lastResult = none := by
  cases h with
  | install _ hread _ =>
    rw [install_rules, Rules.get?_add] at hr
    split at hr
    · next hid => cases hr; exact Or.inr ⟨hid, (Rule.key_of_compile hread).2⟩
    · exact Or.inl hr
  | uninstall =>
    rw [get?_uninstall] at hr
    split at hr
    · cases hr
    · exact Or.inl hr
  | addTrigger hread _ =>
    rw [show (record _ _ : Engine).rules = e.rules.add _ from rfl, Rules.get?_add] at hr
    split at hr
    · next hid => cases hr; exact Or.inr ⟨hid, (Rule.key_of_compile hread).2⟩
    · exact Or.inl hr
  | discard r' =>
    rw [Rules.get?_remove] at hr
    split at hr
    · cases hr
    · next hid => rw [Rules.get?_add, if_neg hid] at hr; exact Or.inl hr
  | _ => exact Or.inl hr

/-- A key leads to the same rule as before a quiet step, or to a new one. -/
theorem key (h : Step e e') {key : String} {id : RuleId}
    (hkey : e'.registry.get? key = some id) :
    e.registry.get? key = some id ∨ id = e.rules.nextId := by
  cases h with
  | install =>
    rw [install_registry, Table.get?_insert] at hkey
    split at hkey
    · cases hkey
      exact Or.inr rfl
    · exact Or.inl hkey
  | uninstall =>
    rw [uninstall_registry, Table.get?_erase] at hkey
    split at hkey
    · cases hkey
    · exact Or.inl hkey
  | _ => exact Or.inl hkey

end Step

/-! ## §3 Defining and removing are plain -/

theorem get?_free (key : String) (e : Engine) : (e.free key).registry.get? key = none := by
  unfold free
  split
  · next h => exact h
  · rw [uninstall_registry, Table.get?_erase, if_pos rfl]

theorem plain_uninstall {key : String} {id : RuleId} {e : Engine}
    (h : e.registry.get? key = some id) : Plain e (e.uninstall key id) where
  step := .uninstall h
  memories := uninstall_memories key id e
  journal := (uninstall_journal key id e).imp_right fun hjournal => ⟨.removed id, rfl, hjournal⟩

theorem plain_install {key source : String} {r : Rule} {e : Engine} (hkey : key ≠ "")
    (hread : Rule.compile key source = .ok r) (hfree : e.registry.get? key = none) :
    Plain e (e.install r).2 where
  step := .install hkey hread hfree
  memories := install_memories r e
  journal := .inr ⟨_, rfl, install_journal r e⟩

theorem plains_free (key : String) (e : Engine) : Plains e (e.free key) := by
  unfold free
  split
  · exact .refl
  · next h => exact .single (plain_uninstall h)

/-- **Defining a rule** frees its key and installs it, or does nothing. -/
theorem plains_define (key source : String) (e : Engine) : Plains e (e.define key source).2 := by
  unfold define
  split
  · exact .refl
  · next hkey =>
    split
    · exact .refl
    · next r hread =>
      -- the text has been read, so nothing can refuse the rule any more
      have hfree : (e.free key).registry.get? key = none := get?_free key e
      exact (plains_free key e).tail (plain_install hkey hread hfree)

theorem plains_remove (key : String) (e : Engine) : Plains e (e.remove key).2 := by
  unfold remove
  split
  · exact .refl
  · next h => exact .single (plain_uninstall h)

theorem plains_defineTrigger (pattern source : String) (e : Engine) :
    Plains e (e.defineTrigger pattern source).2 := by
  unfold defineTrigger
  split
  · exact .refl
  · next hread =>
    split
    · exact .single ⟨.discard _, rfl, .inl rfl⟩
    · next hpattern => exact .single ⟨.addTrigger hread hpattern, rfl, .inr ⟨_, rfl, rfl⟩⟩

/-! ## §4 Moves -/

/-- **A move**: a quiet step, a change of a symbol, or a part of a run. Only a rule that is there runs,
within the limit, and only a run that has begun can end. -/
inductive Move : Engine → Engine → Prop
  | step {e e' : Engine} : Step e e' → Move e e'
  | register {e : Engine} (name : String) (f : Native) : Move e (e.register name f)
  | change {e : Engine} (name : String) (v : Value) : Move e (e.changed name v)
  | report {e : Engine} {event : Event} : event.isReport = true → Move e (e.record event)
  | hitch {e : Engine} {event : Event} : event.isHitch = true → Move e (e.record event)
  | enter {e : Engine} {id : RuleId} {r : Rule} : e.rules.get? id = some r →
      e.limitReached? = none → Move e (e.enter id)
  | leave {e : Engine} (id : RuleId) : 0 < e.depth → Move e (e.leave id)
  | keepResult {e : Engine} (id : RuleId) (v : Value) : Move e (e.keepResult id v)

/-- **Any number of moves**: every engine that an operation passes through on its way comes from the
first one so. -/
abbrev Moves : Engine → Engine → Prop := Relation.ReflTransGen Move

theorem Plains.moves {e e' : Engine} (h : Plains e e') : Moves e e' :=
  h.lift id fun _ _ hplain => .step hplain.step

/-- A move writes one event to the journal or nothing. -/
theorem Move.journal {e e' : Engine} (h : Move e e') :
    e'.journal = e.journal ∨ ∃ event : Event, e'.journal = event :: e.journal := by
  cases h with
  | step hstep =>
    rcases hstep.journal with h | ⟨event, -, h⟩
    · exact Or.inl h
    · exact Or.inr ⟨event, h⟩
  | register => exact Or.inl rfl
  | keepResult => exact Or.inl rfl
  | _ => exact Or.inr ⟨_, rfl⟩

/-- What every move keeps, any number of them keeps. -/
theorem Moves.keeps {S : Engine → Prop} (hS : ∀ {a b}, S a → Move a b → S b) {e e' : Engine}
    (h : S e) (hmoves : Moves e e') : S e' := by
  induction hmoves with
  | refl => exact h
  | tail _ hmove ih => exact hS ih hmove

/-- **What is in the journal stays there.** -/
theorem Moves.journal {e e' : Engine} (h : Moves e e') : e.journal <:+ e'.journal := by
  induction h with
  | refl => exact List.suffix_rfl
  | tail _ hmove ih =>
    rcases hmove.journal with heq | ⟨event, heq⟩
    · rw [heq]
      exact ih
    · rw [heq]
      exact ih.trans (List.suffix_cons event _)

end Engine

end Cascade
