import Cascade.Operator
import Cascade.Glob

/-!
# Rule expressions

The tree of a rule. Two forms remember something between evaluations: `edge_if` the truth of its
condition, `at` the value it watched. The tree itself is plain syntax; the memories are kept beside it
and found by number: the remembering nodes of a tree are numbered from 0, a node before the nodes
inside it, and those from left to right.

§1 the tree; §2 numbering the memories; §3 the names a rule reacts to; §4 the written form.
-/

namespace Cascade

/-! ## §1 The tree -/

/-- **A rule expression.** -/
inductive Expr where
  /-- A literal number or string. -/
  | const (v : Value)
  /-- The value of a symbol. -/
  | var (name : String)
  /-- The values of all symbols whose names match. -/
  | glob (pattern : String)
  /-- Sets a symbol and gives the value set. -/
  | assign (target : String) (value : Expr)
  | binary (op : Operator) (left right : Expr)
  | negate (inner : Expr)
  /-- Evaluates both and gives the second. -/
  | seq (first second : Expr)
  /-- Evaluates all and gives the last. -/
  | block (stmts : List Expr)
  | ifThen (test branch : Expr)
  | ifThenElse (test onTrue onFalse : Expr)
  /-- Takes a branch when the truth of the condition has changed. -/
  | edgeIf (test onTrue onFalse : Expr)
  /-- Acts when the watched value has changed. -/
  | atChange (watch action : Expr)
  | call (name : String) (args : List Expr)
  deriving Inhabited

namespace Expr

/-! ## §2 Numbering the memories -/

mutual

/-- How many memories a tree has. -/
def memories : Expr → Nat
  | const _ => 0
  | var _ => 0
  | glob _ => 0
  | assign _ value => memories value
  | binary _ left right => memories left + memories right
  | negate inner => memories inner
  | seq first second => memories first + memories second
  | block stmts => memoriesAll stmts
  | ifThen test branch => memories test + memories branch
  | ifThenElse test onTrue onFalse => memories test + memories onTrue + memories onFalse
  | edgeIf test onTrue onFalse => 1 + memories test + memories onTrue + memories onFalse
  | atChange watch action => 1 + memories watch + memories action
  | call _ args => memoriesAll args

/-- How many memories a list of trees has. -/
def memoriesAll : List Expr → Nat
  | [] => 0
  | e :: es => memories e + memoriesAll es

end

/-! ## §3 The names a rule reacts to -/

/-- Inserts a name into an ascending list of names, once. -/
def insertName (name : String) : List String → List String
  | [] => [name]
  | other :: rest =>
    if name < other then name :: other :: rest
    else if name = other then other :: rest
    else other :: insertName name rest

theorem mem_insertName {x name : String} :
    ∀ {names : List String}, x ∈ insertName name names ↔ x = name ∨ x ∈ names
  | [] => by simp [insertName]
  | other :: rest => by
    unfold insertName
    split
    · simp
    · split
      · next h => subst h; simp
      · rw [List.mem_cons, mem_insertName, List.mem_cons]
        constructor
        · rintro (h | h | h) <;> simp [h]
        · rintro (h | h | h) <;> simp [h]

mutual

/-- The names and patterns that a tree reads where it reacts, from left to right. What is assigned is
not read, and the remembering forms react to their conditions only. -/
def reads : Expr → List String
  | const _ => []
  | var name => [name]
  | glob pattern => [pattern]
  | assign _ value => reads value
  | binary _ left right => reads left ++ reads right
  | negate inner => reads inner
  | seq first second => reads first ++ reads second
  | block stmts => readsAll stmts
  | ifThen test branch => reads test ++ reads branch
  | ifThenElse test onTrue onFalse => reads test ++ reads onTrue ++ reads onFalse
  | edgeIf test _ _ => reads test
  | atChange watch _ => reads watch
  | call _ args => readsAll args

/-- The names that a list of trees reads. -/
def readsAll : List Expr → List String
  | [] => []
  | e :: es => reads e ++ readsAll es

end

/-- **The dependencies of a rule**: what it reads, ascending and without repetition. -/
def dependencies (e : Expr) : List String := e.reads.foldr insertName []

theorem mem_foldr_insertName {x : String} :
    ∀ {names : List String}, x ∈ names.foldr insertName [] ↔ x ∈ names
  | [] => by simp
  | name :: rest => by
    rw [List.foldr_cons, mem_insertName, mem_foldr_insertName, List.mem_cons]

/-- **The dependencies are the names read.** -/
theorem mem_dependencies {e : Expr} {x : String} : x ∈ e.dependencies ↔ x ∈ e.reads :=
  mem_foldr_insertName

/-! ## §4 The written form -/

mutual

/-- **The written form of a tree**, with parentheses around every operation and form. -/
def describe : Expr → String
  | const v => v.display
  | var name => name
  | glob pattern => pattern
  | assign target value => "(" ++ target ++ " = " ++ describe value ++ ")"
  | binary op left right =>
    "(" ++ describe left ++ " " ++ op.symbol ++ " " ++ describe right ++ ")"
  | negate inner => "(-" ++ describe inner ++ ")"
  | seq first second => "(" ++ describe first ++ "; " ++ describe second ++ ")"
  | block stmts => "\x7b" ++ "; ".intercalate (describeAll stmts) ++ "\x7d"
  | ifThen test branch => "(if " ++ describe test ++ " then " ++ describe branch ++ ")"
  | ifThenElse test onTrue onFalse =>
    "(if " ++ describe test ++ " then " ++ describe onTrue ++ " else " ++ describe onFalse ++ ")"
  | edgeIf test onTrue onFalse =>
    "(edge_if " ++ describe test ++ " then " ++ describe onTrue ++ " else " ++
      describe onFalse ++ ")"
  | atChange watch action => "(at " ++ describe watch ++ " do " ++ describe action ++ ")"
  | call name args => name ++ "(" ++ ", ".intercalate (describeAll args) ++ ")"

/-- The written forms of a list of trees. -/
def describeAll : List Expr → List String
  | [] => []
  | e :: es => describe e :: describeAll es

end

end Expr

end Cascade
