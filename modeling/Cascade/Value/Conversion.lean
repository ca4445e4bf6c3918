import Cascade.EvalError

/-!
# Conversions and order

The three conversions of the language, each defined on some kinds only, and the order of two values
of comparable kinds.

§1 conversions; §2 order.
-/

namespace Cascade.Value

/-! ## §1 Conversions -/

/-- The integer that a value is; nothing else converts. -/
def toInt : Value → Except EvalError Int64
  | .int n => .ok n
  | v => .error (.invalidConversion .int v)

/-- A number as a double; integers widen. -/
def toDouble : Value → Except EvalError Float
  | .int n => .ok (Numeral.ofInt64 n)
  | .double x => .ok x
  | v => .error (.invalidConversion .double v)

/-- The truth of a condition: a number is true iff it is not zero, so NaN is true. -/
def toBool : Value → Except EvalError Bool
  | .bool b => .ok b
  | .int n => .ok (n != 0)
  | .double x => .ok (x != 0.0)
  | v => .error (.invalidConversion .bool v)

/-! ## §2 Order -/

/-- The order of two doubles; NaN counts as equal to everything. -/
def compareDoubles (a b : Float) : Ordering :=
  if a < b then .lt else if b < a then .gt else .eq

/-- The order of two integers. -/
def compareInts (a b : Int64) : Ordering := compare a.toInt b.toInt

/-- The order of two strings, by code points. -/
def compareStrings (a b : String) : Ordering :=
  if a < b then .lt else if a = b then .eq else .gt

/-- False comes before true. -/
def compareBools : Bool → Bool → Ordering
  | false, true => .lt
  | true, false => .gt
  | _, _ => .eq

mutual

/-- **The order of two values.** Integers compare exactly, an integer and a double as doubles,
strings by code points, lists item by item with the shorter first. Other pairs have no order. -/
def order : Value → Value → Except EvalError Ordering
  | .int a, .int b => .ok (compareInts a b)
  | .int a, .double b => .ok (compareDoubles (Numeral.ofInt64 a) b)
  | .double a, .int b => .ok (compareDoubles a (Numeral.ofInt64 b))
  | .double a, .double b => .ok (compareDoubles a b)
  | .string a, .string b => .ok (compareStrings a b)
  | .bool a, .bool b => .ok (compareBools a b)
  | .list a, .list b => orderAll a b
  | a, b => .error (.invalidConversion a.kind b)

/-- The order of two lists: the first unequal pair decides, and a pair without order before it is an
error. -/
def orderAll : List Value → List Value → Except EvalError Ordering
  | [], [] => .ok .eq
  | [], _ :: _ => .ok .lt
  | _ :: _, [] => .ok .gt
  | a :: as, b :: bs =>
    match order a b with
    | .error e => .error e
    | .ok .eq => orderAll as bs
    | .ok o => .ok o

end

end Cascade.Value
