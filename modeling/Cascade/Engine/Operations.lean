import Cascade.Engine.Evaluation

/-!
# What a host does with an engine

The operations of an engine, each with as much room for nested runs as its settings give.

§1 data and lines; §2 rules and functions; §3 expressions by themselves; §4 looking.
-/

namespace Cascade.Engine

/-- The way the engine runs rules when nothing is going on. -/
def runner (e : Engine) : Runner := Cascade.runner e.config.depths

/-! ## §1 Data and lines -/

/-- **Sets a symbol**, with all that follows from it. -/
def set (name : String) (v : Value) : Act Unit := do (← get).runner.set name v

/-- **Feeds a line**; a rejected definition goes to the journal. -/
def feed (line : String) : Act Unit := do (← get).runner.feed line

/-- **Feeds a line** and says whether it was rejected. -/
def tryFeed (line : String) : Act (Except DefineError Unit) := do (← get).runner.tryFeed line

/-- **Feeds a line of data only.** -/
def feedData (line : String) : Act Unit := do (← get).runner.feedData line

/-- Feeds several lines of data only. -/
def feedAllData (lines : List String) : Act Unit := lines.forM feedData

/-! ## §2 Rules and functions -/

/-- **Runs a rule** now. -/
def run (id : RuleId) : Act (Except EvalError Value) := do (← get).runner.ask id

/-- **Calls a function.** -/
def call (name : String) (args : List Value) : Act (Except EvalError Value) := do
  outcome ((← get).runner.call name args)

/-! ## §3 Expressions by themselves -/

/-- Evaluates the expression at hand once more; it remembers what it has remembered. -/
def evaluateAgain (body : Expr) : Act (Except EvalError Value) := do
  outcome ((← get).runner.eval .query 0 body)

/-- Evaluates the expression at hand so many times. -/
def evaluateTimes (body : Expr) : Nat → Act (List (Except EvalError Value))
  | 0 => return []
  | times + 1 => do
    let r ← evaluateAgain body
    let rs ← evaluateTimes body times
    return r :: rs

/-- **Evaluates an expression so many times**, nothing being remembered at first. -/
def evaluate (body : Expr) (times : Nat) : Act (List (Except EvalError Value)) := do
  modify fun e => { e with memories := e.memories.forgetQuery }
  evaluateTimes body times

/-! ## §4 Looking -/

/-- The keys of the registered rules, ascending. -/
def keys (e : Engine) : List String := e.registry.names

/-- What the first matching trigger would ask for. -/
def hit? (e : Engine) (line : String) : Option Hit := Trigger.firstHit? e.triggers line

/-- What has been printed, the earliest first. -/
def printed (e : Engine) : List String :=
  e.journal.reverse.filterMap fun
    | .printed line => some line
    | _ => none

/-- Starts the journal afresh. -/
def clearJournal (e : Engine) : Engine := { e with journal := [] }

end Cascade.Engine
