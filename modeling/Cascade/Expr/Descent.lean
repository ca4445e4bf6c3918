import Cascade.Expr.Parser
import Cascade.Token.Dialogue

/-!
# Reading an expression straight off a lexer

The grammar of `Expr.Parser`, read without a list of tokens: the readers ask a lexer for one token
after the other. To look at the next token is to read it and to un-read it, so an error points at
whatever the lexer read last. Each reader is one phrase of the grammar, and the forms that begin with a
word are read from behind that word.

The calls made of the lexer are kept; nothing reads them to decide anything.

§1 states and replies; §2 the small readers; §3 the forms; §4 the grammar; §5 its phrases.
-/

namespace Cascade

/-! ## §1 States and replies -/

/-- **A lexer in use**: how it stands, and what it has been asked, latest first. -/
structure Descent where
  lexer : Lexer
  calls : List Lexer.Call
  deriving Inhabited

namespace Descent

/-- In front of a source. -/
def ofSource (source : String) : Descent := ⟨.ofSource source, []⟩

/-- **What a reader replies**: a result or an error, with the lexer as it stands then, or nothing for
want of steps. -/
inductive Reply (α : Type) where
  | ok (value : α) (after : Descent)
  | fail (e : ParseError) (after : Descent)
  | starved
  deriving Inhabited

/-- What a reply says of what was read: nothing if it stopped for want of steps. -/
def Reply.result : Reply α → Option (Except ParseError α)
  | ok a _ => some (.ok a)
  | fail e _ => some (.error e)
  | starved => none

/-- **A reader** of something from a lexer. -/
abbrev Reader (α : Type) := Descent → Reply α

namespace Reader

/-- Reads one thing and then what depends on it. -/
def bind (p : Reader α) (f : α → Reader β) : Reader β := fun d =>
  match p d with
  | .ok a d' => f a d'
  | .fail e d' => .fail e d'
  | .starved => .starved

instance : Monad Reader where
  pure a d := .ok a d
  bind := bind

/-- Stops for want of steps. -/
def starve : Reader α := fun _ => .starved

/-! ## §2 The small readers -/

/-- Takes the next token. -/
def advance : Reader Token := fun d =>
  match d.lexer.next with
  | (.ok t, l) => .ok t ⟨l, .next :: d.calls⟩
  | (.error e, l) => .fail (.lex e) ⟨l, .next :: d.calls⟩

/-- Un-reads the last token. -/
def rewind : Reader Unit := fun d =>
  match d.lexer.rewind with
  | (.ok _, l) => .ok () ⟨l, .rewind :: d.calls⟩
  | (.error e, l) => .fail (.lex e) ⟨l, .rewind :: d.calls⟩

/-- The next token, which stays. -/
def peek : Reader Token := do
  let t ← advance
  rewind
  return t

/-- Is the next token of the kind? -/
def nextIs (kind : Token.Kind) : Reader Bool := do
  return (← peek).kind == kind

/-- Is the next token the operator? -/
def nextIsOperator (symbol : String) : Reader Bool := do
  return (← peek).isOperator symbol

/-- Stops with an error that points at the token read last. -/
def stop (e : Excerpt → ParseError) : Reader α := fun d => .fail (e d.lexer.excerpt) d

/-- Stops at a token that does not belong where it is. -/
def unexpected (t : Token) (wanted : String) : Reader α := stop (.unexpectedToken t wanted)

/-- Takes a token of the kind. -/
def expect (kind : Token.Kind) : Reader Token := do
  let t ← advance
  if t.kind = kind then return t
  unexpected t kind.display

/-- What may be assigned to: a plain variable. -/
def target : Expr → Reader String
  | .var name => return name
  | .glob pattern => stop (.globTarget pattern)
  | e => stop (.invalidTarget e.describe)

/-- A number token as a constant. -/
def number (t : Token) : Reader Expr :=
  match Value.readLiteral? t.lexeme.toList with
  | some v => return .const v
  | none => stop (.invalidNumber t.lexeme)

/-! ## §3 The forms -/

/-- A block: a brace, nothing or statements, and a brace. -/
def block (items : Reader (List Expr)) : Reader Expr := do
  let _ ← expect .openCurly
  if ← nextIs .closeCurly then
    let _ ← advance
    return .block []
  return .block (← items)

/-- A call, from behind the opening parenthesis. -/
def call (name : String) (arguments : Reader (List Expr)) : Reader Expr := do
  if ← nextIs .closeParen then
    let _ ← advance
    return .call name []
  return .call name (← arguments)

/-- What stands behind `if`. -/
def ifForm (expression statement : Reader Expr) : Reader Expr := do
  let test ← expression
  let _ ← expect .wordThen
  let branch ← statement
  if ← nextIs .wordElse then
    let _ ← advance
    return .ifThenElse test branch (← statement)
  return .ifThen test branch

/-- What stands behind `edge_if`. -/
def edgeIfForm (expression statement : Reader Expr) : Reader Expr := do
  let test ← expression
  let _ ← expect .wordThen
  let onTrue ← statement
  let _ ← expect .wordElse
  return .edgeIf test onTrue (← statement)

/-- What stands behind `at`. -/
def atForm (expression statement : Reader Expr) : Reader Expr := do
  let watch ← expression
  let _ ← expect .wordDo
  return .atChange watch (← statement)

/-! ## §4 The grammar -/

open Parse (Level)

mutual

/-- Statements up to the end of the input; a `;` may stand before the end. -/
def sequence : Nat → Reader Expr
  | 0 => starve
  | steps + 1 => do
    let first ← statement steps
    if ← nextIsOperator ";" then
      let _ ← advance
      if ← nextIs .endOfInput then return first
      return .seq first (← sequence steps)
    return first

/-- A block in braces, or an expression. -/
def statement : Nat → Reader Expr
  | 0 => starve
  | steps + 1 => do
    -- the brace is only looked at here; the block takes it
    if ← nextIs .openCurly then block (blockItems steps)
    else expression steps

/-- The statements of a block and its closing brace; a `;` may stand before the brace. -/
def blockItems : Nat → Reader (List Expr)
  | 0 => starve
  | steps + 1 => do
    let stmt ← statement steps
    let t ← advance
    if t.isOperator ";" then
      if ← nextIs .closeCurly then
        let _ ← advance
        return [stmt]
      return stmt :: (← blockItems steps)
    if t.kind = .closeCurly then return [stmt]
    unexpected t "';' or '\x7d'"

/-- An expression, which may be an assignment. -/
def expression : Nat → Reader Expr
  | 0 => starve
  | steps + 1 => do
    let left ← binary .or steps
    if ← nextIsOperator "=" then
      let _ ← advance
      let name ← target left
      return .assign name (← expression steps)
    return left

/-- Operands of a level, joined by its operators to the left. -/
def binary (level : Level) : Nat → Reader Expr
  | 0 => starve
  | steps + 1 => do
    let left ← operand level steps
    joined level left steps

/-- More operators of the level and their right operands, after the left operand. -/
def joined (level : Level) (left : Expr) : Nat → Reader Expr
  | 0 => starve
  | steps + 1 => do
    let t ← peek
    match level.operator? t with
    | none => return left
    | some op =>
      let _ ← advance
      let right ← operand level steps
      joined level (.binary op left right) steps

/-- An operand of a level: what the next tighter level reads. -/
def operand : Level → Nat → Reader Expr
  | _, 0 => starve
  | .or, steps + 1 => binary .and steps
  | .and, steps + 1 => binary .comparison steps
  | .comparison, steps + 1 => binary .sum steps
  | .sum, steps + 1 => binary .product steps
  | .product, steps + 1 => term steps

/-- An atom or a form that begins with a word. -/
def term : Nat → Reader Expr
  | 0 => starve
  | steps + 1 => do
    let t ← advance
    match t.kind with
    | .openParen =>
      let e ← expression steps
      let _ ← expect .closeParen
      return e
    | .number => number t
    | .string => return .const (.string t.lexeme)
    | .name =>
      -- whatever is wrong with a glob is shown at the token behind it
      let isCall ← nextIs .openParen
      if t.isGlob then
        if isCall then stop (.globCall t.lexeme)
        else return .glob t.lexeme
      else if isCall then
        let _ ← advance
        call t.lexeme (arguments t.lexeme steps)
      else return .var t.lexeme
    | .wordIf => ifForm (expression steps) (statement steps)
    | .wordEdgeIf => edgeIfForm (expression steps) (statement steps)
    | .wordAt => atForm (expression steps) (statement steps)
    | .operator =>
      if t.lexeme = "*" then return .glob t.lexeme
      if t.lexeme = "-" then return .negate (← term steps)
      unexpected t "expression"
    | _ => unexpected t "expression"

/-- The arguments of a call, one at least, and the closing parenthesis. -/
def arguments (name : String) : Nat → Reader (List Expr)
  | 0 => starve
  | steps + 1 => do
    let arg ← expression steps
    let t ← advance
    match t.kind with
    | .comma => return arg :: (← arguments name steps)
    | .closeParen => return [arg]
    | _ => stop (.malformedCall name t)

end

/-- A whole rule body: statements, then the end of the input. -/
def program (steps : Nat) : Reader Expr := do
  let e ← sequence steps
  let _ ← expect .endOfInput
  return e

end Reader

/-! ## §5 Its phrases -/

/-- **The phrases of the grammar**, the loops inside them apart. -/
inductive Phrase where
  | sequence
  | statement
  | block
  | expression
  | binary (level : Parse.Level)
  | term
  | call (name : String)
  | ifForm
  | edgeIfForm
  | atForm
  deriving DecidableEq, Repr

/-- The reader of a phrase. -/
def Phrase.reader (steps : Nat) : Phrase → Reader Expr
  | sequence => Reader.sequence steps
  | statement => Reader.statement steps
  | block => Reader.block (Reader.blockItems steps)
  | expression => Reader.expression steps
  | binary level => Reader.binary level steps
  | term => Reader.term steps
  | call name => Reader.call name (Reader.arguments name steps)
  | ifForm => Reader.ifForm (Reader.expression steps) (Reader.statement steps)
  | edgeIfForm => Reader.edgeIfForm (Reader.expression steps) (Reader.statement steps)
  | atForm => Reader.atForm (Reader.expression steps) (Reader.statement steps)

end Descent

end Cascade
