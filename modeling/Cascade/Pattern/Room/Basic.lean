/-!
# Room

The size of a pattern is the room that its machines over the bytes of UTF-8 take: a state takes 32
bytes, and to that come 4 bytes for each branch of a state that only branches, and 8 bytes for each
byte range of a state that reads a byte of several ranges. A machine may take ten mebibytes.

Room is counted while a machine is being written, state after state, and counting stops where the
limit is passed; so it takes no more steps than a machine may have states.

§1 the measure; §2 writing.
-/

namespace Cascade.Pattern

/-! ## §1 The measure -/

/-- **The room taken so far**: the states, numbered from 0 as they are written, and the bytes of their
branches and ranges. -/
structure Room where
  states : Nat
  links : Nat
  deriving DecidableEq, Repr, Inhabited

namespace Room

/-- Nothing written yet. -/
def start : Room := ⟨0, 0⟩

/-- The room in bytes. -/
def bytes (r : Room) : Nat := 32 * r.states + r.links

/-- The most that a machine may take. -/
def limit : Nat := 10485760

/-! ## §2 Writing -/

/-- States with links of so many bytes are written, if that is not too much. -/
def add (states links : Nat) (r : Room) : Option Room :=
  let r : Room := ⟨r.states + states, r.links + links⟩
  if r.bytes ≤ limit then some r else none

/-- What is written within the limit stays within it. -/
theorem bytes_le_of_add {states links : Nat} {r s : Room} (h : r.add states links = some s) :
    s.bytes ≤ limit := by
  simp only [add] at h
  split at h
  · cases h; assumption
  · cases h

/-- The same part is written several times. -/
def times (r : Room) (part : Room → Option Room) : Nat → Option Room
  | 0 => some r
  | count + 1 => (part r).bind fun r => r.times part count

end Room

end Cascade.Pattern
