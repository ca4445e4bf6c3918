import Cascade.Engine
import Cascade.Json

/-!
# Dumps and snapshots

Two renderings of what an engine holds: the set symbols as lines of name and value, and a JSON document
of the set symbols and the registered rules. The symbol `%` is in neither.

§1 lines; §2 the document.
-/

namespace Cascade.Engine

/-! ## §1 Lines -/

/-- The set symbols but `%`. -/
def lasting (e : Engine) : List (String × Value) :=
  e.bound.filter (·.1 != Symbol.lastChanged)

/-- **The dump**: a line for each set symbol. -/
def dump (e : Engine) : List String := e.lasting.map fun p => Builtin.symbolLine p.1 p.2

/-! ## §2 The document -/

/-- A rule as a document. -/
def ruleDocument (r : Rule) : Json :=
  .object
    [("dependencies", .array (r.dependencies.map .string)),
      ("last_result", Json.ofValue? r.lastResult),
      ("source", .string r.source)]

/-- The registered rules as members of a document. -/
def ruleMembers (e : Engine) : List (String × Json) :=
  e.registry.entries.filterMap fun p => (e.rules.get? p.2).map fun r => (p.1, ruleDocument r)

/-- **The snapshot.** -/
def snapshot (e : Engine) : Json :=
  .object
    [("programs", .object e.ruleMembers),
      ("symbols", .object (e.lasting.map fun p => (p.1, Json.ofValue p.2)))]

end Cascade.Engine
