import Cascade.DefineError
import Cascade.Rule

/-!
# Native functions

A native function is called from rules but is not written as a rule. What it does is given as data: a
finite sequence of requests to the engine, each of which may depend on the answers so far, ending in
the value of the call or its failure. So a native function can print, look at the symbols, set them,
feed lines, define, run and remove rules, define triggers and call other functions, and nothing else.

§1 requests; §2 functions and their registration.
-/

namespace Cascade

/-! ## §1 Requests -/

/-- **What a native function asks of the engine**, step by step. -/
inductive HostCall where
  /-- The end of the call. -/
  | answer (result : Except EvalError Value)
  /-- Prints a line. -/
  | print (line : String) (next : HostCall)
  /-- Writes a remark to the log. -/
  | note (text : String) (next : HostCall)
  /-- Hands a text to the host. -/
  | report (text : String) (next : HostCall)
  /-- Looks at the symbols that are set, in the order of their names. -/
  | look (next : List (String × Value) → HostCall)
  /-- Speaks of a symbol, which becomes one by that, and looks at its value. -/
  | read (name : String) (next : Option Value → HostCall)
  /-- Sets a symbol, with all that follows from it. -/
  | set (name : String) (v : Value) (next : HostCall)
  /-- Feeds a line in which definitions are accepted. -/
  | feed (line : String) (next : Except DefineError Unit → HostCall)
  /-- Feeds such a line too, but a rejected definition goes to the journal. -/
  | submit (line : String) (next : HostCall)
  /-- Feeds a line of data only. -/
  | feedData (line : String) (next : HostCall)
  /-- Defines a rule. -/
  | define (key source : String) (next : Except DefineError RuleId → HostCall)
  /-- Removes a rule. -/
  | remove (key : String) (next : Except DefineError Unit → HostCall)
  /-- Defines a trigger. -/
  | defineTrigger (pattern source : String) (next : Except DefineError RuleId → HostCall)
  /-- Runs a rule. -/
  | run (id : RuleId) (next : Except EvalError Value → HostCall)
  /-- Calls a function. -/
  | call (name : String) (args : List Value) (next : Except EvalError Value → HostCall)

namespace HostCall

/-- The end of a call that has a value. -/
def value (v : Value) : HostCall := .answer (.ok v)

/-- The end of a call that fails. -/
def failure (e : EvalError) : HostCall := .answer (.error e)

/-- Prints several lines. -/
def printAll (lines : List String) (next : HostCall) : HostCall := lines.foldr .print next

/-- **A call that asks only for print-outs, remarks, reports and looks**: it leaves symbols and rules
alone. -/
inductive Quiet : HostCall → Prop where
  | answer (result : Except EvalError Value) : Quiet (.answer result)
  | print {line : String} {next : HostCall} : Quiet next → Quiet (.print line next)
  | note {text : String} {next : HostCall} : Quiet next → Quiet (.note text next)
  | report {text : String} {next : HostCall} : Quiet next → Quiet (.report text next)
  | look {next : List (String × Value) → HostCall} :
      (∀ symbols, Quiet (next symbols)) → Quiet (.look next)

theorem quiet_printAll {next : HostCall} (h : Quiet next) :
    ∀ lines : List String, Quiet (printAll lines next)
  | [] => h
  | _ :: lines => .print (quiet_printAll h lines)

end HostCall

/-! ## §2 Functions -/

/-- **A native function**: from the number of the call, counted from 1 for each registration, and the
arguments. -/
abbrev Native := Nat → List Value → HostCall

/-- A registered function and how often it has been called. -/
structure Registered where
  function : Native
  calls : Nat

end Cascade
