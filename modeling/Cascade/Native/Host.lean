import Cascade.Native

/-!
# Functions for an embedding host

A host may offer rules more than the built-in functions. These reach every request that a native
function can make: `log` reports a text, `tick` counts its calls, `fail` fails, `list` makes a list,
`put` sets a symbol, `feed` feeds a line, `def` defines a rule and `drop` removes one.
-/

namespace Cascade.Host

/-- An argument as a text: a string as it is, another value as it is written, a missing one empty. -/
def textOf (args : List Value) (i : Nat) : String :=
  match args[i]? with
  | none => ""
  | some (.string s) => s
  | some v => v.display

/-- Ends a call with a value, or with the failure of a rejected definition. -/
def finish (name : String) (f : α → Value) : Except DefineError α → HostCall
  | .ok a => .value (f a)
  | .error e => .failure (.native name e.message)

/-- Reports the arguments. -/
def log (args : List Value) : HostCall :=
  .report (" ".intercalate (Value.displayAll args)) (.value (.bool true))

/-- The number of the call. -/
def tick (calls : Nat) : HostCall := .value (.int (Int64.ofNat calls))

/-- Fails with the first argument as the message. -/
def fail (args : List Value) : HostCall := .failure (.native "fail" (textOf args 0))

/-- The list of the arguments. -/
def list (args : List Value) : HostCall := .value (.list args)

/-- Sets a symbol, to false if no value is given. -/
def put (args : List Value) : HostCall :=
  .set (textOf args 0) (args[1]?.getD (.bool false)) (.value (args[1]?.getD (.bool false)))

/-- Feeds a line. -/
def feed (args : List Value) : HostCall :=
  .feed (textOf args 0) (finish "feed" fun _ => .bool true)

/-- Defines a rule and gives its identity. -/
def define (args : List Value) : HostCall :=
  .define (textOf args 0) (textOf args 1) (finish "def" fun id => .string id.display)

/-- Removes a rule. -/
def drop (args : List Value) : HostCall :=
  .remove (textOf args 0) (finish "drop" fun _ => .bool true)

/-- **The functions by name.** -/
def functions : List (String × Native) :=
  [("log", fun _ args => log args),
    ("tick", fun calls _ => tick calls),
    ("fail", fun _ args => fail args),
    ("list", fun _ args => list args),
    ("put", fun _ args => put args),
    ("feed", fun _ args => feed args),
    ("def", fun _ args => define args),
    ("drop", fun _ args => drop args)]

end Cascade.Host
