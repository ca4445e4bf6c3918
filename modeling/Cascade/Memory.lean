import Cascade.Rule

/-!
# What the remembering forms remember

An `edge_if` remembers the truth of its condition and starts with false. An `at` remembers the value
that it watched and starts with none. A form is told apart by the rule it stands in and by its number
in that rule's tree, so two rules with the same source remember separately, and a rule that is removed
and defined again starts afresh. An expression that is evaluated by itself, outside any rule, has
memories of its own.

§1 nodes; §2 memories; §3 what is remembered after each operation.
-/

namespace Cascade

/-! ## §1 Nodes -/

/-- **Whose tree is evaluated**: a rule's, or that of an expression by itself. -/
inductive Owner where
  | rule (id : RuleId)
  | query
  deriving DecidableEq, Repr, Inhabited

/-- **A remembering form**: its tree and its number there. -/
structure NodeRef where
  owner : Owner
  number : Nat
  deriving DecidableEq, Repr, Inhabited

/-! ## §2 Memories -/

/-- The first item of a list under a node. -/
def itemAt (node : NodeRef) : List (NodeRef × α) → Option α
  | [] => none
  | (other, a) :: rest => if other = node then some a else itemAt node rest

/-- Puts an item under a node, in place of the one there. -/
def remember (node : NodeRef) (a : α) (items : List (NodeRef × α)) : List (NodeRef × α) :=
  (node, a) :: items.filter (·.1 != node)

/-- An item stays where it is if all items under its node do. -/
theorem itemAt_filter {node : NodeRef} {p : NodeRef × α → Bool} (h : ∀ a, p (node, a) = true) :
    ∀ items : List (NodeRef × α), itemAt node (items.filter p) = itemAt node items
  | [] => rfl
  | (first, a) :: rest => by
    by_cases hp : p (first, a) = true
    · rw [List.filter_cons_of_pos hp, itemAt, itemAt, itemAt_filter h]
    · have hfirst : first ≠ node := by
        rintro rfl
        exact hp (h a)
      rw [List.filter_cons_of_neg hp, itemAt_filter h, itemAt, if_neg hfirst]

theorem itemAt_remember (node other : NodeRef) (a : α) (items : List (NodeRef × α)) :
    itemAt other (remember node a items) = if other = node then some a else itemAt other items := by
  rw [remember, itemAt]
  by_cases h : other = node
  · rw [if_pos h, if_pos h.symm]
  · rw [if_neg h, if_neg (Ne.symm h), itemAt_filter fun _ => by simpa using h]

/-- **All memories.** -/
structure Memories where
  truths : List (NodeRef × Bool)
  watched : List (NodeRef × Value)
  deriving Inhabited

namespace Memories

/-- Nothing is remembered yet. -/
def empty : Memories := ⟨[], []⟩

/-- **The truth that an `edge_if` remembers.** -/
def truth (m : Memories) (node : NodeRef) : Bool := (itemAt node m.truths).getD false

/-- **The value that an `at` remembers.** -/
def seen (m : Memories) (node : NodeRef) : Option Value := itemAt node m.watched

/-- Remembers a truth. -/
def setTruth (m : Memories) (node : NodeRef) (b : Bool) : Memories :=
  { m with truths := remember node b m.truths }

/-- Remembers a value. -/
def setSeen (m : Memories) (node : NodeRef) (v : Value) : Memories :=
  { m with watched := remember node v m.watched }

/-- Forgets what an expression by itself has remembered. -/
def forgetQuery (m : Memories) : Memories :=
  ⟨m.truths.filter (·.1.owner != .query), m.watched.filter (·.1.owner != .query)⟩

/-! ## §3 After each operation -/

theorem truth_setTruth (m : Memories) (node other : NodeRef) (b : Bool) :
    (m.setTruth node b).truth other = if other = node then b else m.truth other := by
  rw [truth, setTruth, itemAt_remember]
  by_cases h : other = node
  · rw [if_pos h, if_pos h]; rfl
  · rw [if_neg h, if_neg h]; rfl

theorem seen_setSeen (m : Memories) (node other : NodeRef) (v : Value) :
    (m.setSeen node v).seen other = if other = node then some v else m.seen other := by
  rw [seen, setSeen, itemAt_remember]; rfl

@[simp] theorem seen_setTruth (m : Memories) (node other : NodeRef) (b : Bool) :
    (m.setTruth node b).seen other = m.seen other := rfl

@[simp] theorem truth_setSeen (m : Memories) (node other : NodeRef) (v : Value) :
    (m.setSeen node v).truth other = m.truth other := rfl

section forgetQuery

variable {node : NodeRef} (m : Memories)

theorem truth_forgetQuery (h : node.owner ≠ .query) : m.forgetQuery.truth node = m.truth node := by
  rw [truth, forgetQuery, itemAt_filter fun _ => by simpa using h, truth]

theorem seen_forgetQuery (h : node.owner ≠ .query) : m.forgetQuery.seen node = m.seen node := by
  rw [seen, forgetQuery, itemAt_filter fun _ => by simpa using h, seen]

end forgetQuery

end Memories

end Cascade
