import Cascade.Value.Conversion
import Cascade.Numeral.Scaled

/-!
# Operators

The binary operators of the rule language and what they do to two values.

Two integers stay integers as long as the exact result is an integer of 64 bits; otherwise the result
is a double. An integer and a double are combined in decimal where decimals can hold them.

§1 the operators; §2 arithmetic; §3 applying an operator; §4 the opposite of a number.
-/

namespace Cascade

/-! ## §1 The operators -/

/-- **A binary operator.** -/
inductive Operator where
  | equal
  | notEqual
  | less
  | greater
  | lessEqual
  | greaterEqual
  | add
  | subtract
  | multiply
  | divide
  | and
  | or
  deriving DecidableEq, Repr, Inhabited

namespace Operator

/-- The spelling of an operator. -/
def symbol : Operator → String
  | .equal => "=="
  | .notEqual => "!="
  | .less => "<"
  | .greater => ">"
  | .lessEqual => "<="
  | .greaterEqual => ">="
  | .add => "+"
  | .subtract => "-"
  | .multiply => "*"
  | .divide => "/"
  | .and => "and"
  | .or => "or"

/-- Every operator. -/
def all : List Operator :=
  [.equal, .notEqual, .less, .greater, .lessEqual, .greaterEqual, .add, .subtract, .multiply,
    .divide, .and, .or]

theorem mem_all (op : Operator) : op ∈ all := by cases op <;> simp [all]

/-- The operator that is spelled so. -/
def ofSymbol? (s : String) : Option Operator := all.find? (·.symbol == s)

theorem ofSymbol?_symbol (op : Operator) : ofSymbol? op.symbol = some op := by
  cases op <;> decide

/-! ## §2 Arithmetic -/

/-- **The four arithmetic operations** in the three number systems that a result may come from: exact
integers, scaled decimals, doubles. -/
structure Arithmetic where
  ints : Int → Int → Option Int
  decimals : Numeral.Scaled → Numeral.Scaled → Option Numeral.Scaled
  doubles : Float → Float → Float

/-- The quotient of two integers, if it is an integer. -/
def exactQuotient? (a b : Int) : Option Int :=
  if b ≠ 0 ∧ a.tmod b = 0 then some (a.tdiv b) else none

def addition : Arithmetic := ⟨fun a b => some (a + b), Numeral.Scaled.add?, fun a b => a + b⟩

def subtraction : Arithmetic := ⟨fun a b => some (a - b), Numeral.Scaled.sub?, fun a b => a - b⟩

def multiplication : Arithmetic := ⟨fun a b => some (a * b), Numeral.Scaled.mul?, fun a b => a * b⟩

def division : Arithmetic := ⟨exactQuotient?, Numeral.Scaled.div?, fun a b => a / b⟩

/-- Two integers: exact if the result is an integer of 64 bits, else in doubles. -/
def Arithmetic.onInts (f : Arithmetic) (a b : Int64) : Value :=
  match (f.ints a.toInt b.toInt).bind Numeral.toInt64? with
  | some n => .int n
  | none => .double (f.doubles (Numeral.ofInt64 a) (Numeral.ofInt64 b))

/-- An integer and a double: in decimals if both are decimals and the result is one, else in
doubles. The integer is given both ways. -/
def Arithmetic.mixed (f : Arithmetic) (a b : Option Numeral.Scaled) (x y : Float) : Value :=
  match (do f.decimals (← a) (← b)) with
  | some r => .double r.toDouble
  | none => .double (f.doubles x y)

/-- **Arithmetic on values.** Of two operands the first that is no number is reported. -/
def Arithmetic.apply (f : Arithmetic) : Value → Value → Except EvalError Value
  | .int a, .int b => .ok (f.onInts a b)
  | .double x, .double y => .ok (.double (f.doubles x y))
  | .int a, .double y =>
    .ok (f.mixed (some (.ofInt64 a)) (Numeral.Scaled.ofDouble? y) (Numeral.ofInt64 a) y)
  | .double x, .int b =>
    .ok (f.mixed (Numeral.Scaled.ofDouble? x) (some (.ofInt64 b)) x (Numeral.ofInt64 b))
  | a, b => .error (.invalidConversion .number (if a.isNumeric then b else a))

/-! ## §3 Applying an operator -/

/-- **The equality of the language**: an integer equals a double if they are equal as doubles;
otherwise values are equal if they are the same. Inside lists there is only sameness. -/
def equalValues : Value → Value → Bool
  | .int a, .double b => Numeral.ofInt64 a == b
  | .double a, .int b => Numeral.ofInt64 b == a
  | a, b => a.same b

/-- A comparison, as a test on the order of the operands. -/
def comparing (test : Ordering → Bool) (l r : Value) : Except EvalError Value :=
  (l.order r).map fun o => .bool (test o)

/-- Both operands are conditions, but the second is looked at only if the first does not decide. -/
def connecting (decides : Bool) (l r : Value) : Except EvalError Value := do
  let a ← l.toBool
  if a = decides then return .bool a
  return .bool (← r.toBool)

/-- **Applies an operator** to two values. -/
def apply : Operator → Value → Value → Except EvalError Value
  | .add, .string a, .string b => .ok (.string (a ++ b))
  | .add, l, r => addition.apply l r
  | .subtract, l, r => subtraction.apply l r
  | .multiply, l, r => multiplication.apply l r
  | .divide, .int a, .int b =>
    if b = 0 then .error .divisionByZero else division.apply (.int a) (.int b)
  | .divide, l, r => division.apply l r
  | .equal, l, r => .ok (.bool (equalValues l r))
  | .notEqual, l, r => .ok (.bool (!equalValues l r))
  | .less, l, r => comparing (· == .lt) l r
  | .greater, l, r => comparing (· == .gt) l r
  | .lessEqual, l, r => comparing (· != .gt) l r
  | .greaterEqual, l, r => comparing (· != .lt) l r
  | .and, l, r => connecting false l r
  | .or, l, r => connecting true l r

/-! ## §4 The opposite of a number -/

/-- **Unary minus.** The opposite of the least integer is a double. -/
def negate : Value → Except EvalError Value
  | .int n =>
    match Numeral.toInt64? (-n.toInt) with
    | some m => .ok (.int m)
    | none => .ok (.double (-(Numeral.ofInt64 n)))
  | .double x => .ok (.double (-x))
  | v => .error (.invalidConversion .number v)

end Operator

end Cascade
