import Cascade.Engine.Operations
import Cascade.Failure
import Cascade.Json

/-!
# Checking an expression

An expression is read, and then either described or evaluated in a fresh engine that has been fed some
data lines.
-/

namespace Cascade.Check

/-- **What is to be checked.** -/
structure Request where
  expression : String
  /-- Lines fed before the evaluation, as data only. -/
  data : List String
  /-- Should the expression be described and not evaluated? -/
  syntaxOnly : Bool
  deriving Inhabited

/-- **What a check finds.** -/
inductive Finding where
  | described (tree : String) (dependencies : List String)
  | evaluated (v : Value)
  deriving Inhabited

/-- The evaluation of an expression as the outcome of a check. -/
def evaluated : Except EvalError Value → Except Failure Finding
  | .ok v => .ok (.evaluated v)
  | .error e => .error (.valueless e)

/-- **Checks an expression**; the engine shows what happened on the way. -/
def perform (r : Request) : Act (Except Failure Finding) :=
  match Expr.read r.expression with
  | .error e => return .error (.unreadable e)
  | .ok body =>
    if r.syntaxOnly then return .ok (.described body.describe body.dependencies)
    else do
      Engine.feedAllData r.data
      return evaluated (← Engine.evaluateAgain body)

end Cascade.Check
