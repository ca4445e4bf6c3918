import Cascade.Numeral.Layout

/-!
# Values

What a symbol holds and what a rule computes: an integer of 64 bits, a double, a string, a truth
value, or a list of values. Values are plain data.

§1 the type; §2 deciding equality; §3 structural sameness, the equality of the language, under which
NaN differs from itself and the two zeros agree; §4 the written form.

Left out: order, arithmetic and reading each have a module of their own under `Value`.
-/

namespace Cascade

/-! ## §1 The type -/

/-- **A value.** -/
inductive Value where
  | int (n : Int64)
  | double (x : Float)
  | string (s : String)
  | bool (b : Bool)
  | list (items : List Value)
  deriving Inhabited

namespace Value

/-- What kind of value there is, or is wanted. No value is of kind `number`: it is wanted where an
integer and a double would do. -/
inductive Kind where
  | int
  | double
  | string
  | bool
  | list
  | number
  deriving DecidableEq, Repr

/-- The name of a kind. -/
def Kind.name : Kind → String
  | .int => "int"
  | .double => "double"
  | .string => "string"
  | .bool => "bool"
  | .list => "list"
  | .number => "number"

/-- The kind of a value. -/
def kind : Value → Kind
  | .int _ => .int
  | .double _ => .double
  | .string _ => .string
  | .bool _ => .bool
  | .list _ => .list

/-- Integers and doubles are numeric. -/
def isNumeric : Value → Bool
  | .int _ => true
  | .double _ => true
  | _ => false

/-- **The neutral value**: what a form gives that did not fire, an empty block, and an `if` without
`else` whose condition is false. -/
def neutral : Value := .bool false

/-! ## §2 Deciding equality -/

mutual

/-- Equality of values is decidable, bit for bit. -/
def decEq : (a b : Value) → Decidable (a = b)
  | .int a, .int b => if h : a = b then isTrue (h ▸ rfl) else isFalse fun e => h (int.inj e)
  | .double a, .double b =>
    if h : a = b then isTrue (h ▸ rfl) else isFalse fun e => h (double.inj e)
  | .string a, .string b =>
    if h : a = b then isTrue (h ▸ rfl) else isFalse fun e => h (string.inj e)
  | .bool a, .bool b => if h : a = b then isTrue (h ▸ rfl) else isFalse fun e => h (bool.inj e)
  | .list a, .list b =>
    match decEqAll a b with
    | isTrue h => isTrue (h ▸ rfl)
    | isFalse h => isFalse fun e => h (list.inj e)
  | .int _, .double _ | .int _, .string _ | .int _, .bool _ | .int _, .list _ => isFalse nofun
  | .double _, .int _ | .double _, .string _ | .double _, .bool _ | .double _, .list _ =>
    isFalse nofun
  | .string _, .int _ | .string _, .double _ | .string _, .bool _ | .string _, .list _ =>
    isFalse nofun
  | .bool _, .int _ | .bool _, .double _ | .bool _, .string _ | .bool _, .list _ => isFalse nofun
  | .list _, .int _ | .list _, .double _ | .list _, .string _ | .list _, .bool _ => isFalse nofun

/-- Equality of lists of values is decidable. -/
def decEqAll : (a b : List Value) → Decidable (a = b)
  | [], [] => isTrue rfl
  | [], _ :: _ => isFalse nofun
  | _ :: _, [] => isFalse nofun
  | a :: as, b :: bs =>
    match decEq a b with
    | isFalse h => isFalse fun e => h (List.cons.inj e).1
    | isTrue h =>
      match decEqAll as bs with
      | isTrue t => isTrue (h ▸ t ▸ rfl)
      | isFalse t => isFalse fun e => t (List.cons.inj e).2

end

instance : DecidableEq Value := decEq

/-! ## §3 Structural sameness -/

mutual

/-- **Structural sameness**: the same kind and the same content, doubles compared as numbers. An
integer is never the same as a double. -/
def same : Value → Value → Bool
  | .int a, .int b => a == b
  | .double a, .double b => a == b
  | .string a, .string b => a == b
  | .bool a, .bool b => a == b
  | .list a, .list b => sameAll a b
  | _, _ => false

/-- Sameness of lists: as many items, and the same ones. -/
def sameAll : List Value → List Value → Bool
  | [], [] => true
  | a :: as, b :: bs => same a b && sameAll as bs
  | _, _ => false

end

/-- Sameness where a value may be missing: two missing values are the same. -/
def sameOption : Option Value → Option Value → Bool
  | none, none => true
  | some a, some b => same a b
  | _, _ => false

/-! ## §4 The written form -/

/-- Puts double quotes around a text; nothing inside is escaped. -/
def quote (s : String) : String := "\"" ++ s ++ "\""

/-- The written form of an integer. -/
def displayInt (n : Int64) : String := toString n.toInt

mutual

/-- **The written form of a value.** -/
def display : Value → String
  | .int n => displayInt n
  | .double x => Numeral.displayDouble x
  | .string s => quote s
  | .bool b => if b then "true" else "false"
  | .list items => "[" ++ ", ".intercalate (displayAll items) ++ "]"

/-- The written forms of the items of a list. -/
def displayAll : List Value → List String
  | [] => []
  | v :: vs => display v :: displayAll vs

end

end Value

end Cascade
