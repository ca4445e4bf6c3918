/-!
# Tokens of the rule language

A token is a lexeme together with its kind. Names, globs and function names are all of kind `name`;
the words that the language reserves have kinds of their own, and `and` and `or` are operators.

§1 kinds and tokens; §2 reserved words; §3 the written forms used in messages.
-/

namespace Cascade

/-! ## §1 Kinds and tokens -/

namespace Token

/-- **The kind of a token.** A lone `!` is `invalid`: it is an operator character that means nothing
by itself. -/
inductive Kind where
  | endOfInput
  | name
  | operator
  | string
  | number
  | openParen
  | closeParen
  | openCurly
  | closeCurly
  | comma
  | wordIf
  | wordEdgeIf
  | wordThen
  | wordElse
  | wordAt
  | wordDo
  | invalid
  deriving DecidableEq, Repr, Inhabited

end Token

/-- **A token**: a kind and the text it was read from, a string without its quotes. -/
structure Token where
  kind : Token.Kind
  lexeme : String
  deriving DecidableEq, Repr, Inhabited

namespace Token

/-- The token at the end of the input. -/
def ending : Token := ⟨.endOfInput, ""⟩

/-- Is the token the operator that is spelled so? -/
def isOperator (t : Token) (symbol : String) : Bool := t.kind == .operator && t.lexeme == symbol

/-- A name with a wildcard in it is a glob. -/
def isGlob (t : Token) : Bool :=
  t.kind == .name && t.lexeme.toList.any fun c => c == '*' || c == '?'

/-! ## §2 Reserved words -/

/-- The kind of a word: reserved words, the two word operators, else a name. -/
def kindOfWord : String → Kind
  | "if" => .wordIf
  | "then" => .wordThen
  | "else" => .wordElse
  | "edge_if" => .wordEdgeIf
  | "at" => .wordAt
  | "do" => .wordDo
  | "and" => .operator
  | "or" => .operator
  | _ => .name

/-- The kind of a run of operator characters. -/
def kindOfSymbol : String → Kind
  | "!" => .invalid
  | _ => .operator

/-! ## §3 Written forms -/

/-- How a kind is named in messages. -/
def Kind.display : Kind → String
  | .endOfInput => "end of input"
  | .name => "variable"
  | .operator => "operator"
  | .string => "string"
  | .number => "number"
  | .openParen => "'('"
  | .closeParen => "')'"
  | .openCurly => "'\x7b'"
  | .closeCurly => "'\x7d'"
  | .comma => "','"
  | .wordIf => "'if'"
  | .wordEdgeIf => "'edge_if'"
  | .wordThen => "'then'"
  | .wordElse => "'else'"
  | .wordAt => "'at'"
  | .wordDo => "'do'"
  | .invalid => "invalid token"

/-- How a token is named in messages: its kind and its lexeme, the end of the input by itself. -/
def display (t : Token) : String :=
  if t.kind = .endOfInput then t.kind.display else t.kind.display ++ " '" ++ t.lexeme ++ "'"

end Token

end Cascade
