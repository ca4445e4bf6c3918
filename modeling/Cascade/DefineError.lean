import Cascade.Expr.Reading
import Cascade.Pattern

/-!
# Rejected definitions

The causes for which a definition, a trigger or a removal is rejected, and the wording of each.
-/

namespace Cascade

/-- **Why a definition is rejected.** -/
inductive DefineError where
  /-- The source of the rule cannot be read. -/
  | unreadable (source : String) (error : ParseError)
  /-- The pattern of the trigger is refused. -/
  | badPattern (pattern : String) (error : PatternError)
  /-- A trigger line without its two parts. -/
  | malformedTrigger (line : String)
  /-- A definition under the empty key. -/
  | emptyKey
  /-- A removal under a key that no rule has. -/
  | unknownRule (key : String)
  /-- A definition where only data is taken. -/
  | untrusted (line : String)
  deriving Inhabited

/-- The wording of a rejection. -/
def DefineError.message : DefineError → String
  | .unreadable source error => "error compiling `" ++ source ++ "`: " ++ error.message
  | .badPattern pattern error => "invalid trigger pattern `" ++ pattern ++ "`" ++ error.remark
  | .malformedTrigger line =>
    "malformed trigger `" ++ line ++ "`, expected /pattern/expression"
  | .emptyKey => "program definition without a key"
  | .unknownRule key => "no program registered under `" ++ key ++ "`"
  | .untrusted line => "definitions are not accepted from data feeds: `" ++ line ++ "`"

end Cascade
