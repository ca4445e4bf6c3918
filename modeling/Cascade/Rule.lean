import Cascade.Expr.Reading

/-!
# Rules and their identities

A rule is an expression under a key, together with the result of its last run. Rules live in slots
that are handed out in ascending order. Removing a rule empties its slot for good: the identity of a
removed rule never comes to mean another one.

§1 identities and rules; §2 the store; §3 what each operation does to look-up.
-/

namespace Cascade

/-! ## §1 Identities and rules -/

/-- **The identity of a rule**: the number of its slot. -/
structure RuleId where
  slot : Nat
  deriving DecidableEq, Repr, Inhabited

/-- The written form of an identity. -/
def RuleId.display (id : RuleId) : String := "#" ++ toString id.slot

/-- **A rule.** -/
structure Rule where
  key : String
  source : String
  body : Expr
  /-- The value of the last run that had one. -/
  lastResult : Option Value
  deriving Inhabited

namespace Rule

/-- Reads the source of a rule that has not run yet. -/
def compile (key source : String) : Except ParseError Rule :=
  match Expr.read source with
  | .error e => .error e
  | .ok body => .ok ⟨key, source, body, none⟩

/-- What a rule reacts to: names and patterns, ascending. -/
def dependencies (r : Rule) : List String := r.body.dependencies

end Rule

/-! ## §2 The store -/

/-- **The slots of all rules**, those of removed rules being empty. -/
structure Rules where
  slots : Array (Option Rule)
  deriving Inhabited

namespace Rules

/-- No rules. -/
def empty : Rules := ⟨#[]⟩

/-- How many identities have been handed out. -/
def size (rs : Rules) : Nat := rs.slots.size

/-- The identity that the next rule will have. -/
def nextId (rs : Rules) : RuleId := ⟨rs.size⟩

/-- **The rule of an identity**, if it has not been removed. -/
def get? (rs : Rules) (id : RuleId) : Option Rule := rs.slots[id.slot]?.join

/-- Adds a rule under the next identity. -/
def add (rs : Rules) (r : Rule) : Rules := ⟨rs.slots.push (some r)⟩

/-- Removes a rule. -/
def remove (rs : Rules) (id : RuleId) : Rules := ⟨rs.slots.setIfInBounds id.slot none⟩

/-- Changes a rule, if it has not been removed. -/
def update (rs : Rules) (id : RuleId) (f : Rule → Rule) : Rules :=
  ⟨rs.slots.modify id.slot (Option.map f)⟩

/-! ## §3 Look-up after each operation -/

@[simp] theorem get?_empty (id : RuleId) : empty.get? id = none := by
  simp [get?, empty]

@[simp] theorem size_add (rs : Rules) (r : Rule) : (rs.add r).size = rs.size + 1 := by
  simp [size, add]

@[simp] theorem size_remove (rs : Rules) (id : RuleId) : (rs.remove id).size = rs.size := by
  simp [size, remove]

@[simp] theorem size_update (rs : Rules) (id : RuleId) (f : Rule → Rule) :
    (rs.update id f).size = rs.size := by
  simp [size, update]

/-- **An identity that has not been handed out has no rule.** -/
theorem get?_of_size_le {rs : Rules} {id : RuleId} (h : rs.size ≤ id.slot) :
    rs.get? id = none := by
  rw [get?, Array.getElem?_eq_none_iff.mpr h]; rfl

theorem get?_add (rs : Rules) (r : Rule) (id : RuleId) :
    (rs.add r).get? id = if id = rs.nextId then some r else rs.get? id := by
  by_cases h : id = rs.nextId
  · subst h
    simp [get?, add, nextId, size]
  · rw [if_neg h]
    have hne : id.slot ≠ rs.slots.size := fun he => h (by cases id; cases he; rfl)
    simp [get?, add, Array.getElem?_push, hne]

theorem get?_remove (rs : Rules) (id other : RuleId) :
    (rs.remove id).get? other = if other = id then none else rs.get? other := by
  by_cases h : other = id
  · subst h
    rw [if_pos rfl, get?, remove, Array.getElem?_setIfInBounds_self]
    split <;> rfl
  · rw [if_neg h]
    have hne : id.slot ≠ other.slot := fun he => h (by cases id; cases other; cases he; rfl)
    rw [get?, remove, Array.getElem?_setIfInBounds_ne hne, get?]

theorem get?_update (rs : Rules) (id other : RuleId) (f : Rule → Rule) :
    (rs.update id f).get? other = if other = id then (rs.get? id).map f else rs.get? other := by
  by_cases h : other = id
  · subst h
    rw [if_pos rfl]
    simp only [get?, update, Array.getElem?_modify, if_pos]
    cases rs.slots[other.slot]? with
    | none => rfl
    | some r => rfl
  · rw [if_neg h]
    have hne : id.slot ≠ other.slot := fun he => h (by cases id; cases other; cases he; rfl)
    simp [get?, update, Array.getElem?_modify, hne]

end Rules

end Cascade
