import Cascade.Pattern
import Cascade.Rule
import Cascade.Value.Reading

/-!
# Triggers

A trigger is a pattern and the rule that runs for a line that it matches. Triggers are tried in the
order in which they were defined, and the first that matches is the only one to act. It binds the
texts captured, read as scalars: the groups by number as `.0`, `.1`, …, then those with a name by
their names. A group that took no part in the match is not bound.

§1 the types; §2 bindings; §3 the first match.
-/

namespace Cascade

/-! ## §1 The types -/

/-- **A trigger.** -/
structure Trigger where
  pattern : Pattern
  rule : RuleId

/-- **What a match asks for**: symbols to set, in order, and then a rule to run. -/
structure Hit where
  bindings : List (String × Value)
  rule : RuleId
  deriving Inhabited

namespace Trigger

/-! ## §2 Bindings -/

/-- The name under which a group is bound by its number. -/
def positionalName (group : Nat) : String := "." ++ toString group

/-- A captured text as a value. -/
def reading (text : String) : Value := Value.readScalar text.toList

/-- The bindings of the groups from `group` on, by number. -/
def positional (group : Nat) : List (Option String) → List (String × Value)
  | [] => []
  | none :: rest => positional (group + 1) rest
  | some text :: rest => (positionalName group, reading text) :: positional (group + 1) rest

/-- The bindings of the groups that have names, in the order of the groups. -/
def named (groups : List (Option String)) : List (Nat × String) → List (String × Value)
  | [] => []
  | (group, name) :: rest =>
    match (groups[group]?).join with
    | none => named groups rest
    | some text => (name, reading text) :: named groups rest

/-- **The bindings of a match.** -/
def bindings (p : Pattern) (c : Pattern.Captures) : List (String × Value) :=
  positional 0 (some c.whole :: c.groups) ++ named (some c.whole :: c.groups) p.names

/-! ## §3 The first match -/

/-- What a trigger asks for on a line, if it matches. -/
def hit? (t : Trigger) (line : String) : Option Hit :=
  (t.pattern.captures? line).map fun c => ⟨bindings t.pattern c, t.rule⟩

/-- **What the first matching trigger asks for.** -/
def firstHit? (triggers : List Trigger) (line : String) : Option Hit :=
  triggers.findSome? (·.hit? line)

/-- More triggers behind do not change the answer for a line that matched. -/
theorem firstHit?_append {triggers : List Trigger} {line : String} {h : Hit}
    (hit : firstHit? triggers line = some h) (more : List Trigger) :
    firstHit? (triggers ++ more) line = some h := by
  unfold firstHit? at *
  rw [List.findSome?_append, hit]; rfl

end Trigger

end Cascade
