import Cascade.Native
import Cascade.Table
import Cascade.Glob
import Cascade.Value.Reading
import Cascade.Value.Conversion

/-!
# The functions every rule may call

Five functions are there unless they are switched off: `sum`, `print`, `round`, `debug` and `to_int`.
None of them touches a symbol or a rule.

§1 `sum`; §2 `print`; §3 `round`; §4 `debug`; §5 `to_int`; §6 the table of them.
-/

namespace Cascade.Builtin

open Value (displayAll)

/-! ## §1 `sum` -/

mutual

/-- Adds a value to a total; of a list all items, one after the other. -/
def addTo (total : Float) : Value → Except EvalError Float
  | .list items => addAll total items
  | v => v.toDouble.map (total + ·)

/-- Adds values to a total from left to right; the first that is no number is an error. -/
def addAll (total : Float) : List Value → Except EvalError Float
  | [] => .ok total
  | v :: vs =>
    match addTo total v with
    | .error e => .error e
    | .ok total => addAll total vs

end

/-- **The total of all numbers**, lists flattened. -/
def sum (args : List Value) : Except EvalError Value := (addAll 0.0 args).map .double

/-! ## §2 `print` -/

/-- A symbol as it is printed. -/
def symbolLine (name : String) (v : Value) : String := name ++ " " ++ v.display

/-- The lines for one argument: a string is a pattern for names of symbols, anything else is printed
as it is written. -/
def printLines (symbols : List (String × Value)) : Value → List String
  | .string pattern =>
    (symbols.filter fun p => Glob.covers pattern p.1).map fun p => symbolLine p.1 p.2
  | v => [v.display]

/-- **Prints symbols and values**, and gives the number of lines. -/
def print (args : List Value) : HostCall :=
  .look fun symbols =>
    .printAll (args.flatMap (printLines symbols))
      (.value (.int (Int64.ofNat (args.flatMap (printLines symbols)).length)))

/-! ## §3 `round` -/

/-- Is the number of digits within 32 bits? NaN is not. -/
def digitsInRange (digits : Float) : Bool := -2147483648.0 ≤ digits && digits ≤ 2147483647.0

/-- A number cut after so many decimal places. -/
def cutPlaces (x digits : Float) : Float :=
  let scale := Numeral.tenPower (Numeral.integerPart digits)
  Numeral.truncate (x * scale) / scale

/-- **Cuts a number after a number of places**, towards zero. -/
def round : List Value → Except EvalError Value
  | [value, places] =>
    match value.toDouble, places.toDouble with
    | .error e, _ => .error e
    | .ok _, .error e => .error e
    | .ok x, .ok digits =>
      if digitsInRange (Numeral.truncate digits) then
        .ok (.double (cutPlaces x (Numeral.truncate digits)))
      else .error (.native "round" ("digit count " ++ places.display ++ " out of range"))
  | args => .error (.argumentCount "round" 2 args.length)

/-! ## §4 `debug` -/

/-- **Writes the arguments to the log.** -/
def debug (args : List Value) : HostCall :=
  .note (" ".intercalate (displayAll args)) (.value (.bool true))

/-! ## §5 `to_int` -/

/-- **A value as an integer**: a finite double is cut and held within range, of a string the integer
at its front is read. -/
def toInt : List Value → Except EvalError Value
  | [.int n] => .ok (.int n)
  | [.double x] =>
    if Numeral.storedExponent x = 2047 then .error (.invalidConversion .int (.double x))
    else .ok (.int (Numeral.clampInt64 (Numeral.integerPart x)))
  | [.string s] =>
    match Value.readLeadingInt? s.toList with
    | some n => .ok (.int n)
    | none => .error (.invalidConversion .int (.string s))
  | [v] => .error (.invalidConversion .int v)
  | args => .error (.argumentCount "to_int" 1 args.length)

/-! ## §6 The table -/

/-- **The functions by name.** -/
def functions : List (String × Native) :=
  [("sum", fun _ args => .answer (sum args)),
    ("print", fun _ args => print args),
    ("round", fun _ args => .answer (round args)),
    ("debug", fun _ args => debug args),
    ("to_int", fun _ args => .answer (toInt args))]

/-- **None of them touches a symbol or a rule.** -/
theorem quiet_functions {name : String} {f : Native} (h : (name, f) ∈ functions) (calls : Nat)
    (args : List Value) : (f calls args).Quiet := by
  simp only [functions, List.mem_cons, Prod.mk.injEq, List.not_mem_nil, or_false] at h
  rcases h with ⟨-, rfl⟩ | ⟨-, rfl⟩ | ⟨-, rfl⟩ | ⟨-, rfl⟩ | ⟨-, rfl⟩
  · exact .answer _
  · exact .look fun symbols => HostCall.quiet_printAll (.answer _) _
  · exact .answer _
  · exact .note (.answer _)
  · exact .answer _

end Cascade.Builtin
