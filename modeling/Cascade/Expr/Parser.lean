import Cascade.Expr
import Cascade.Token.Stream
import Cascade.Value.Reading

/-!
# Reading rule expressions

A recursive-descent reader over the tokens of a source, one token ahead.

```
program    := statement (';' statement)* ';'? END
statement  := '{' '}' | '{' statement (';' statement)* ';'? '}' | expression
expression := or ('=' expression)?
or         := and ('or' and)*
and        := comparison ('and' comparison)*
comparison := sum (('<' | '>' | '<=' | '>=' | '==' | '!=') sum)*
sum        := product (('+' | '-') product)*
product    := term (('*' | '/') term)*
term       := '(' expression ')' | NUMBER | STRING | NAME | NAME '(' arguments ')' | '*' | '-' term
            | 'if' expression 'then' statement ('else' statement)?
            | 'edge_if' expression 'then' statement 'else' statement
            | 'at' expression 'do' statement
```

The readers are defined by recursion on a number of steps that only bounds the recursion; that
sixteen steps per token always suffice is shown in `Expr.Progress`.

§1 errors; §2 readers and their replies; §3 the grammar.
-/

namespace Cascade

/-! ## §1 Errors -/

/-- **Why a source is no rule.** Each error but a lexical one points at the token it met. -/
inductive ParseError where
  | lex (e : LexError)
  | unexpectedToken (found : Token) (wanted : String) (place : Excerpt)
  | invalidNumber (lexeme : String) (place : Excerpt)
  | malformedCall (name : String) (found : Token) (place : Excerpt)
  /-- A glob on the left of an assignment. -/
  | globTarget (pattern : String) (place : Excerpt)
  /-- Something else than a variable on the left of an assignment, by its written form. -/
  | invalidTarget (target : String) (place : Excerpt)
  /-- A glob in front of an argument list. -/
  | globCall (pattern : String) (place : Excerpt)
  deriving DecidableEq, Repr, Inhabited

/-- The wording of an error: what is wrong, then the source with the place underlined. -/
def ParseError.message : ParseError → String
  | .lex e => e.message
  | .unexpectedToken found wanted place =>
    "unexpected " ++ found.display ++ ", expected " ++ wanted ++ "\n" ++ place.render
  | .invalidNumber lexeme place => "invalid number '" ++ lexeme ++ "'\n" ++ place.render
  | .malformedCall name found place =>
    "malformed call to '" ++ name ++ "': expected ',' or ')', got " ++ found.display ++ "\n" ++
      place.render
  | .globTarget pattern place =>
    "cannot assign to glob reference '" ++ pattern ++ "'\n" ++ place.render
  | .invalidTarget target place =>
    "invalid assignment target " ++ target ++ "; only variables can be assigned\n" ++ place.render
  | .globCall pattern place =>
    "'" ++ pattern ++ "' is a glob reference and cannot be called\n" ++ place.render

/-! ## §2 Readers and their replies -/

/-- **What a reader replies**: a result and the tokens after it, an error, or nothing for want of
steps. -/
inductive Reply (α : Type) where
  | ok (value : α) (rest : Tokens)
  | fail (e : ParseError)
  | starved
  deriving Inhabited

/-- **A reader** of something from the front of the tokens. -/
abbrev Parse (α : Type) := Tokens → Reply α

namespace Parse

/-- Reads one thing and then what depends on it. -/
def bind (p : Parse α) (f : α → Parse β) : Parse β := fun ts =>
  match p ts with
  | .ok a rest => f a rest
  | .fail e => .fail e
  | .starved => .starved

instance : Monad Parse where
  pure a ts := .ok a ts
  bind := bind

/-- Stops with an error. -/
def stop (e : ParseError) : Parse α := fun _ => .fail e

/-- Stops for want of steps. -/
def starve : Parse α := fun _ => .starved

/-- The next token, which stays. -/
def peek : Parse Lexeme := fun ts =>
  match ts.peek with
  | .ok l => .ok l ts
  | .error e => .fail (.lex e)

/-- Takes the next token. -/
def advance : Parse Lexeme := fun ts =>
  match ts.peek with
  | .ok l => .ok l ts.tail
  | .error e => .fail (.lex e)

/-- Is the next token of the kind? -/
def nextIs (kind : Token.Kind) : Parse Bool := do
  return (← peek).token.kind == kind

/-- Is the next token the operator? -/
def nextIsOperator (symbol : String) : Parse Bool := do
  return (← peek).token.isOperator symbol

/-- Stops at a token that does not belong where it is. -/
def unexpected (source : String) (l : Lexeme) (wanted : String) : Parse α :=
  stop (.unexpectedToken l.token wanted (l.excerpt source))

/-- Takes a token of the kind. -/
def expect (source : String) (kind : Token.Kind) : Parse Unit := do
  let l ← advance
  if l.token.kind = kind then return ()
  unexpected source l kind.display

/-! ## §3 The grammar -/

/-- **The levels of the binary operators**, from the loosest to the tightest. -/
inductive Level where
  | or
  | and
  | comparison
  | sum
  | product
  deriving DecidableEq, Repr

/-- The operators of a level. -/
def Level.operators : Level → List Operator
  | .or => [.or]
  | .and => [.and]
  | .comparison => [.equal, .notEqual, .less, .greater, .lessEqual, .greaterEqual]
  | .sum => [.add, .subtract]
  | .product => [.multiply, .divide]

/-- The operator of a level that a token spells. -/
def Level.operator? (level : Level) (t : Token) : Option Operator :=
  level.operators.find? fun op => t.isOperator op.symbol

/-- What may be assigned to: a plain variable. The error points at the equals sign. -/
def target (source : String) (equals : Lexeme) : Expr → Parse String
  | .var name => return name
  | .glob pattern => stop (.globTarget pattern (equals.excerpt source))
  | e => stop (.invalidTarget e.describe (equals.excerpt source))

/-- A number token as a constant. -/
def number (source : String) (l : Lexeme) : Parse Expr :=
  match Value.readLiteral? l.token.lexeme.toList with
  | some v => return .const v
  | none => stop (.invalidNumber l.token.lexeme (l.excerpt source))

mutual

/-- Statements up to the end of the input; a `;` may stand before the end. -/
def sequence (source : String) : Nat → Parse Expr
  | 0 => starve
  | steps + 1 => do
    let first ← statement source steps
    if ← nextIsOperator ";" then
      let _ ← advance
      if ← nextIs .endOfInput then return first
      return .seq first (← sequence source steps)
    return first

/-- A block in braces, or an expression. -/
def statement (source : String) : Nat → Parse Expr
  | 0 => starve
  | steps + 1 => do
    if ← nextIs .openCurly then
      let _ ← advance
      if ← nextIs .closeCurly then
        let _ ← advance
        return .block []
      return .block (← blockItems source steps)
    expression source steps

/-- The statements of a block and its closing brace; a `;` may stand before the brace. -/
def blockItems (source : String) : Nat → Parse (List Expr)
  | 0 => starve
  | steps + 1 => do
    let stmt ← statement source steps
    let l ← advance
    if l.token.isOperator ";" then
      if ← nextIs .closeCurly then
        let _ ← advance
        return [stmt]
      return stmt :: (← blockItems source steps)
    if l.token.kind = .closeCurly then return [stmt]
    unexpected source l "';' or '\x7d'"

/-- An expression, which may be an assignment. -/
def expression (source : String) : Nat → Parse Expr
  | 0 => starve
  | steps + 1 => do
    let left ← binary source .or steps
    if ← nextIsOperator "=" then
      let equals ← advance
      let name ← target source equals left
      return .assign name (← expression source steps)
    return left

/-- Operands of a level, joined by its operators to the left. -/
def binary (source : String) (level : Level) : Nat → Parse Expr
  | 0 => starve
  | steps + 1 => do
    let left ← operand source level steps
    joined source level left steps

/-- More operators of the level and their right operands, after the left operand. -/
def joined (source : String) (level : Level) (left : Expr) : Nat → Parse Expr
  | 0 => starve
  | steps + 1 => do
    let l ← peek
    match level.operator? l.token with
    | none => return left
    | some op =>
      let _ ← advance
      let right ← operand source level steps
      joined source level (.binary op left right) steps

/-- An operand of a level: what the next tighter level reads. -/
def operand (source : String) : Level → Nat → Parse Expr
  | _, 0 => starve
  | .or, steps + 1 => binary source .and steps
  | .and, steps + 1 => binary source .comparison steps
  | .comparison, steps + 1 => binary source .sum steps
  | .sum, steps + 1 => binary source .product steps
  | .product, steps + 1 => term source steps

/-- An atom or a form that begins with a word. -/
def term (source : String) : Nat → Parse Expr
  | 0 => starve
  | steps + 1 => do
    let l ← advance
    match l.token.kind with
    | .openParen =>
      let e ← expression source steps
      expect source .closeParen
      return e
    | .number => number source l
    | .string => return .const (.string l.token.lexeme)
    | .name =>
      let next ← peek
      if l.token.isGlob then
        if next.token.kind = .openParen then stop (.globCall l.token.lexeme (next.excerpt source))
        else return .glob l.token.lexeme
      else if next.token.kind = .openParen then
        let _ ← advance
        if ← nextIs .closeParen then
          let _ ← advance
          return .call l.token.lexeme []
        return .call l.token.lexeme (← arguments source l.token.lexeme steps)
      else return .var l.token.lexeme
    | .wordIf =>
      let test ← expression source steps
      expect source .wordThen
      let branch ← statement source steps
      if ← nextIs .wordElse then
        let _ ← advance
        return .ifThenElse test branch (← statement source steps)
      return .ifThen test branch
    | .wordEdgeIf =>
      let test ← expression source steps
      expect source .wordThen
      let onTrue ← statement source steps
      expect source .wordElse
      return .edgeIf test onTrue (← statement source steps)
    | .wordAt =>
      let watch ← expression source steps
      expect source .wordDo
      return .atChange watch (← statement source steps)
    | .operator =>
      if l.token.lexeme = "*" then return .glob l.token.lexeme
      if l.token.lexeme = "-" then return .negate (← term source steps)
      unexpected source l "expression"
    | _ => unexpected source l "expression"

/-- The arguments of a call, one at least, and the closing parenthesis. -/
def arguments (source : String) (name : String) : Nat → Parse (List Expr)
  | 0 => starve
  | steps + 1 => do
    let arg ← expression source steps
    let l ← advance
    match l.token.kind with
    | .comma => return arg :: (← arguments source name steps)
    | .closeParen => return [arg]
    | _ => stop (.malformedCall name l.token (l.excerpt source))

end

end Parse

end Cascade
