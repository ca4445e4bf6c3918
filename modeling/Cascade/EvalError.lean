import Cascade.Value

/-!
# Errors of evaluation

The causes for which a rule fails to have a value, and the wording of each.
-/

namespace Cascade

/-- **Why a rule has no value.** -/
inductive EvalError where
  /-- A call of a name under which no function is registered. -/
  | unknownFunction (name : String)
  /-- A value of the wrong kind for the operation. -/
  | invalidConversion (wanted : Value.Kind) (found : Value)
  /-- A read of a symbol that was never set. -/
  | undefinedSymbol (name : String)
  /-- A call with the wrong number of arguments. -/
  | argumentCount (function : String) (wanted found : Nat)
  /-- A division of an integer by the integer zero. -/
  | divisionByZero
  /-- One more nested run than the limit of the cascade allows. -/
  | cascadeTooDeep (limit : Nat)
  /-- One more nested run than the host has room for, where the cascade itself has no limit. -/
  | roomExhausted
  /-- A failure that a native function reports. -/
  | native (function message : String)
  deriving DecidableEq, Inhabited

/-- The wording of an error. -/
def EvalError.message : EvalError → String
  | .unknownFunction name => "unknown function <" ++ name ++ "> called"
  | .invalidConversion wanted found =>
    "invalid conversion to " ++ wanted.name ++ " from " ++ found.display
  | .undefinedSymbol name => "value <" ++ name ++ "> undefined, cannot use it yet"
  | .argumentCount function wanted found =>
    function ++ " expects " ++ toString wanted ++ " argument(s), got " ++ toString found
  | .divisionByZero => "division by zero"
  | .cascadeTooDeep limit => "cascade depth limit of " ++ toString limit ++ " exceeded"
  | .roomExhausted => "no room for another nested run"
  | .native function message => function ++ ": " ++ message

end Cascade
