import Cascade.Rule

/-!
# Symbols

A symbol has a value, once it is set, and observers: the rules that run when the value changes. The
observers are in the order in which they subscribed, and none is there twice.

§1 the type; §2 the value; §3 the observers.
-/

namespace Cascade

/-! ## §1 The type -/

/-- **A symbol.** -/
structure Symbol where
  value : Option Value
  observers : List RuleId
  deriving Inhabited

namespace Symbol

/-- A symbol that is not set and not observed. -/
def fresh : Symbol := ⟨none, []⟩

/-- The name of the symbol that always holds the name of the symbol changed last. -/
def lastChanged : String := "%"

/-! ## §2 The value -/

/-- Has the symbol this value already? -/
def holds (s : Symbol) (v : Value) : Bool := Value.sameOption s.value (some v)

/-- **Replaces the value** unless the symbol has it already; says whether it did. -/
def replace (s : Symbol) (v : Value) : Symbol × Bool :=
  if s.holds v then (s, false) else ({ s with value := some v }, true)

/-! ## §3 The observers -/

/-- **Subscribes a rule**; a second time has no effect. -/
def observe (s : Symbol) (id : RuleId) : Symbol :=
  if s.observers.contains id then s else { s with observers := s.observers ++ [id] }

/-- **Unsubscribes a rule.** -/
def unobserve (s : Symbol) (id : RuleId) : Symbol :=
  { s with observers := s.observers.filter (· != id) }

/-- Subscribes several rules in turn. -/
def observeAll (s : Symbol) (ids : List RuleId) : Symbol := ids.foldl observe s

@[simp] theorem observe_value (s : Symbol) (id : RuleId) : (s.observe id).value = s.value := by
  unfold observe; split <;> rfl

@[simp] theorem unobserve_value (s : Symbol) (id : RuleId) : (s.unobserve id).value = s.value :=
  rfl

theorem mem_observe {s : Symbol} {id other : RuleId} :
    other ∈ (s.observe id).observers ↔ other ∈ s.observers ∨ other = id := by
  unfold observe
  split
  · next h =>
    constructor
    · exact Or.inl
    · rintro (h' | rfl)
      · exact h'
      · exact List.contains_iff_mem.mp h
  · simp

theorem mem_unobserve {s : Symbol} {id other : RuleId} :
    other ∈ (s.unobserve id).observers ↔ other ∈ s.observers ∧ other ≠ id := by
  simp [unobserve]

end Symbol

end Cascade
