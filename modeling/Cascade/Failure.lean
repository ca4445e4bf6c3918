import Cascade.DefineError
import Cascade.EvalError

/-!
# Failures of a command

The causes for which a command fails, and the wording of each.
-/

namespace Cascade

/-- **Why a command fails.** -/
inductive Failure where
  /-- A line of a rule file is rejected; lines are counted from 1. -/
  | rejected (path : String) (line : Nat) (error : DefineError)
  /-- The expression cannot be read. -/
  | unreadable (error : ParseError)
  /-- The expression has no value. -/
  | valueless (error : EvalError)
  /-- A file or the input cannot be read as text. -/
  | noText
  deriving Inhabited

/-- The wording of a failure. -/
def Failure.message : Failure → String
  | .rejected path line error => path ++ ":" ++ toString line ++ ": " ++ error.message
  | .unreadable error => "Parse error: " ++ error.message
  | .valueless error => "Evaluation error: " ++ error.message
  | .noText => "IO error"

end Cascade
