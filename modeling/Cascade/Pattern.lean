import Cascade.Pattern.Machine
import Cascade.Pattern.Reader
import Cascade.Pattern.Room

/-!
# Trigger patterns

A pattern is read and turned into a machine once, and then matched against many lines. A match gives
the text of the whole and of each group that took part in it.

Groups are numbered from 1 by their opening parentheses. A group may have a name; the names of a
pattern differ from one another, and none begins with a point, so that a name never collides with the
names `.0`, `.1`, … that stand for groups by number.

§1 why a pattern is refused; §2 the type; §3 compiling; §4 captures.
-/

namespace Cascade

/-! ## §1 Refusals -/

/-- **Why a pattern is refused.** -/
inductive PatternError where
  /-- It does not follow the rules for writing patterns. -/
  | malformed
  /-- One of its machines would take too much room. -/
  | tooLarge
  deriving DecidableEq, Repr, Inhabited

/-- What stands after the pattern in the wording of a refusal; there is nothing to say about a
malformed one. -/
def PatternError.remark : PatternError → String
  | .malformed => ""
  | .tooLarge => ": Compiled regex exceeds size limit of 10485760 bytes."

namespace Pattern

/-! ## §2 The type -/

/-- **Names that tell groups apart**: they come in the order of their groups, all groups exist, the
names differ, and none begins with a point. -/
def Names (groups : Nat) (names : List (Nat × String)) : Prop :=
  names.Pairwise (fun a b => a.1 < b.1 ∧ a.2 ≠ b.2) ∧
    ∀ p ∈ names, (0 < p.1 ∧ p.1 ≤ groups) ∧ p.2.toList.head? ≠ some '.'

instance (groups : Nat) (names : List (Nat × String)) : Decidable (Names groups names) :=
  inferInstanceAs (Decidable (_ ∧ _))

end Pattern

/-- **A compiled pattern**: its written form, its machine, the number of its groups, and the names of
some of them. -/
structure Pattern where
  source : String
  machine : Pattern.Machine
  groups : Nat
  names : List (Nat × String)
  names_ok : Pattern.Names groups names

namespace Pattern

/-! ## §3 Compiling -/

/-- **Compiles a pattern.** -/
def compile (source : String) : Except PatternError Pattern :=
  match read source with
  | none => .error .malformed
  | some r =>
    if !r.tree.fits then .error .tooLarge
    else if h : Names r.groups r.names then
      .ok ⟨source, Machine.ofNode r.tree, r.groups, r.names, h⟩
    else .error .malformed

/-- A compiled pattern keeps its written form. -/
theorem source_of_compile {source : String} {p : Pattern} (h : compile source = .ok p) :
    p.source = source := by
  unfold compile at h
  split at h
  · cases h
  · split at h
    · cases h
    · split at h
      · cases h; rfl
      · cases h

/-! ## §4 Captures -/

/-- **What a match captures**: the text of the whole, and of the groups in order, as far as they took
part. -/
structure Captures where
  whole : String
  groups : List (Option String)
  deriving DecidableEq, Repr, Inhabited

/-- The text between the two offsets of a group, if both are set. -/
def span (text : List Char) (slots : Slots) (group : Nat) : Option String :=
  match slots.getD (2 * group) none, slots.getD (2 * group + 1) none with
  | some first, some last => some (String.ofList ((text.take last).drop first))
  | _, _ => none

/-- **The captures of a pattern in a line**, if it matches somewhere. -/
def captures? (p : Pattern) (line : String) : Option Captures :=
  match p.machine.run (p.groups + 1) line.toList with
  | none => none
  | some slots =>
    (span line.toList slots 0).map fun whole =>
      ⟨whole, (List.range p.groups).map fun i => span line.toList slots (i + 1)⟩

theorem length_captures {p : Pattern} {line : String} {c : Captures}
    (h : p.captures? line = some c) : c.groups.length = p.groups := by
  unfold captures? at h
  split at h
  · cases h
  · obtain ⟨whole, -, rfl⟩ := Option.map_eq_some_iff.mp h
    simp

end Pattern

end Cascade
