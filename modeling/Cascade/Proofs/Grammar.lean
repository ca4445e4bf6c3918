import Cascade.Expr.Parser

/-!
# The grammar of rules

```
program    := statement (';' statement)* ';'? END
statement  := '{' '}' | '{' statement (';' statement)* ';'? '}' | expression
expression := or ('=' expression)?
or         := and ('or' and)*
and        := comparison ('and' comparison)*
comparison := sum (('<' | '>' | '<=' | '>=' | '==' | '!=') sum)*
sum        := product (('+' | '-') product)*
product    := term (('*' | '/') term)*
term       := '(' expression ')' | NUMBER | STRING | NAME | NAME '(' arguments ')' | '*' | '-' term
            | 'if' expression 'then' statement ('else' statement)?
            | 'edge_if' expression 'then' statement 'else' statement
            | 'at' expression 'do' statement
```

The rules above are read as a relation between runs of tokens and trees, without regard to any
reader: a derivation cuts its tokens up, from the first to the last, into those of the phrases that
it is made of. The tree asks for what the grammar leaves open: only a plain variable can be assigned
to or called, and a number has a value.

The grammar is ambiguous: it does not say which of several open forms an `else` belongs to, nor how
far a form without brackets reaches. Two conditions on derivations deal with that.

§1 phrases; §2 derivations; §3 the nearest form for an `else`; §4 forms in parentheses.
-/

namespace Cascade

/-- The token of an operator that is spelled so. -/
def Token.operator (symbol : String) : Token := ⟨.operator, symbol⟩

theorem Token.isOperator_iff {t : Token} {symbol : String} :
    t.isOperator symbol = true ↔ t = .operator symbol := by
  cases t
  simp [isOperator, operator]

namespace Grammar

open Parse (Level)

/-! ## §1 Phrases -/

/-- **A phrase of the grammar**, with the tree or trees that it stands for. -/
inductive Phrase where
  | program (e : Expr)
  | statement (e : Expr)
  /-- The statements of a block, one at least. -/
  | items (es : List Expr)
  | expression (e : Expr)
  /-- Operands of a level, joined by its operators. -/
  | joined (level : Level) (e : Expr)
  | term (e : Expr)
  /-- The arguments of a call, one at least. -/
  | arguments (es : List Expr)

/-- **What a level joins**: phrases of the next tighter level, and terms at the tightest. -/
def operand : Level → Expr → Phrase
  | .or, e => .joined .and e
  | .and, e => .joined .comparison e
  | .comparison, e => .joined .sum e
  | .sum, e => .joined .product e
  | .product, e => .term e

/-- A `;` behind the last statement, or none. -/
def trailing (semicolon : Bool) : List Token := if semicolon then [.operator ";"] else []

/-! ## §2 Derivations -/

/-- **A derivation of a phrase from tokens**: how the grammar makes the phrase of just these tokens,
each used once and in their order. -/
inductive Derivation : Phrase → List Token → Type
  | last {e ts} (semicolon : Bool) : Derivation (.statement e) ts →
      Derivation (.program e) (ts ++ trailing semicolon)
  | next {first rest ts us} : Derivation (.statement first) ts → Derivation (.program rest) us →
      Derivation (.program (.seq first rest)) (ts ++ .operator ";" :: us)
  | emptyBlock {opening closing : Token} : opening.kind = .openCurly → closing.kind = .closeCurly →
      Derivation (.statement (.block [])) [opening, closing]
  | block {es ts} {opening closing : Token} : opening.kind = .openCurly →
      closing.kind = .closeCurly → Derivation (.items es) ts →
      Derivation (.statement (.block es)) (opening :: (ts ++ [closing]))
  | plain {e ts} : Derivation (.expression e) ts → Derivation (.statement e) ts
  | lastItem {e ts} (semicolon : Bool) : Derivation (.statement e) ts →
      Derivation (.items [e]) (ts ++ trailing semicolon)
  | nextItem {e es ts us} : Derivation (.statement e) ts → Derivation (.items es) us →
      Derivation (.items (e :: es)) (ts ++ .operator ";" :: us)
  | value {e ts} : Derivation (.joined .or e) ts → Derivation (.expression e) ts
  /-- Assignment associates to the right. -/
  | assign {target value ts us} : Derivation (.joined .or (.var target)) ts →
      Derivation (.expression value) us →
      Derivation (.expression (.assign target value)) (ts ++ .operator "=" :: us)
  | single {level e ts} : Derivation (operand level e) ts → Derivation (.joined level e) ts
  /-- The operators of a level associate to the left. -/
  | join {level op left right ts us} : op ∈ level.operators →
      Derivation (.joined level left) ts → Derivation (operand level right) us →
      Derivation (.joined level (.binary op left right)) (ts ++ .operator op.symbol :: us)
  | group {e ts} {opening closing : Token} : opening.kind = .openParen →
      closing.kind = .closeParen → Derivation (.expression e) ts →
      Derivation (.term e) (opening :: (ts ++ [closing]))
  | number {v} {t : Token} : t.kind = .number → Value.readLiteral? t.lexeme.toList = some v →
      Derivation (.term (.const v)) [t]
  | string {t : Token} : t.kind = .string → Derivation (.term (.const (.string t.lexeme))) [t]
  | var {t : Token} : t.kind = .name → t.isGlob = false → Derivation (.term (.var t.lexeme)) [t]
  | glob {t : Token} : t.isGlob = true → Derivation (.term (.glob t.lexeme)) [t]
  /-- A star by itself stands for all symbols. -/
  | star : Derivation (.term (.glob "*")) [.operator "*"]
  | negate {e ts} : Derivation (.term e) ts →
      Derivation (.term (.negate e)) (.operator "-" :: ts)
  | emptyCall {t opening closing : Token} : t.kind = .name → t.isGlob = false →
      opening.kind = .openParen → closing.kind = .closeParen →
      Derivation (.term (.call t.lexeme [])) [t, opening, closing]
  | call {es ts} {t opening closing : Token} : t.kind = .name → t.isGlob = false →
      opening.kind = .openParen → closing.kind = .closeParen → Derivation (.arguments es) ts →
      Derivation (.term (.call t.lexeme es)) (t :: opening :: (ts ++ [closing]))
  | lastArgument {e ts} : Derivation (.expression e) ts → Derivation (.arguments [e]) ts
  | nextArgument {e es ts us} {comma : Token} : comma.kind = .comma →
      Derivation (.expression e) ts → Derivation (.arguments es) us →
      Derivation (.arguments (e :: es)) (ts ++ comma :: us)
  | ifThen {test branch ts us} {word thenWord : Token} : word.kind = .wordIf →
      thenWord.kind = .wordThen → Derivation (.expression test) ts →
      Derivation (.statement branch) us →
      Derivation (.term (.ifThen test branch)) (word :: (ts ++ thenWord :: us))
  | ifThenElse {test onTrue onFalse ts us vs} {word thenWord elseWord : Token} :
      word.kind = .wordIf → thenWord.kind = .wordThen → elseWord.kind = .wordElse →
      Derivation (.expression test) ts → Derivation (.statement onTrue) us →
      Derivation (.statement onFalse) vs →
      Derivation (.term (.ifThenElse test onTrue onFalse))
        (word :: (ts ++ thenWord :: (us ++ elseWord :: vs)))
  | edgeIf {test onTrue onFalse ts us vs} {word thenWord elseWord : Token} :
      word.kind = .wordEdgeIf → thenWord.kind = .wordThen → elseWord.kind = .wordElse →
      Derivation (.expression test) ts → Derivation (.statement onTrue) us →
      Derivation (.statement onFalse) vs →
      Derivation (.term (.edgeIf test onTrue onFalse))
        (word :: (ts ++ thenWord :: (us ++ elseWord :: vs)))
  | atChange {watch action ts us} {word doWord : Token} : word.kind = .wordAt →
      doWord.kind = .wordDo → Derivation (.expression watch) ts →
      Derivation (.statement action) us →
      Derivation (.term (.atChange watch action)) (word :: (ts ++ doWord :: us))

namespace Derivation

/-- A term by itself is an operand of every level. -/
def asOperand {e : Expr} {ts : List Token} (d : Derivation (.term e) ts) :
    (level : Level) → Derivation (operand level e) ts
  | .product => d
  | .sum => .single d
  | .comparison => .single (.single d)
  | .and => .single (.single (.single d))
  | .or => .single (.single (.single (.single d)))

/-- A term by itself is a phrase of every level. -/
def ofTerm {e : Expr} {ts : List Token} (d : Derivation (.term e) ts) (level : Level) :
    Derivation (.joined level e) ts :=
  .single (d.asOperand level)

/-- A phrase of any level is one of the loosest. -/
def loosened {e : Expr} {ts : List Token} :
    (level : Level) → Derivation (.joined level e) ts → Derivation (.joined .or e) ts
  | .or, d => d
  | .and, d => .single d
  | .comparison, d => .single (.single d)
  | .sum, d => .single (.single (.single d))
  | .product, d => .single (.single (.single (.single d)))

/-! ## §3 The nearest form for an `else` -/

/-- **Each `else` belongs to the nearest open form that lacks one.** An `if` without an `else` is
open up to its end, so it must not end where an `else` stands, which then would belong to a form
farther off; an `edge_if` is never without. The flag says whether an `else` stands behind the
phrase. -/
def ElseNearest {p : Phrase} {ts : List Token} (followed : Bool) : Derivation p ts → Prop
  | last semicolon d => d.ElseNearest (!semicolon && followed)
  | next d d' => d.ElseNearest false ∧ d'.ElseNearest followed
  | emptyBlock _ _ => True
  | block _ _ d => d.ElseNearest false
  | plain d => d.ElseNearest followed
  | lastItem semicolon d => d.ElseNearest (!semicolon && followed)
  | nextItem d d' => d.ElseNearest false ∧ d'.ElseNearest followed
  | value d => d.ElseNearest followed
  | assign d d' => d.ElseNearest false ∧ d'.ElseNearest followed
  | single d => d.ElseNearest followed
  | join _ d d' => d.ElseNearest false ∧ d'.ElseNearest followed
  | group _ _ d => d.ElseNearest false
  | number _ _ => True
  | string _ => True
  | var _ _ => True
  | glob _ => True
  | star => True
  | negate d => d.ElseNearest followed
  | emptyCall _ _ _ _ => True
  | call _ _ _ _ d => d.ElseNearest false
  | lastArgument d => d.ElseNearest followed
  | nextArgument _ d d' => d.ElseNearest false ∧ d'.ElseNearest followed
  | ifThen _ _ d d' => followed = false ∧ d.ElseNearest false ∧ d'.ElseNearest followed
  | ifThenElse _ _ _ d d' d'' =>
    d.ElseNearest false ∧ d'.ElseNearest true ∧ d''.ElseNearest followed
  | edgeIf _ _ _ d d' d'' =>
    d.ElseNearest false ∧ d'.ElseNearest true ∧ d''.ElseNearest followed
  | atChange _ _ d d' => d.ElseNearest false ∧ d'.ElseNearest followed

/-! ## §4 Forms in parentheses -/

/-- **Each `if`, `edge_if` and `at` form fills a pair of parentheses of its own.** The flag says
whether the phrase is all that stands between two parentheses. -/
def Grouped {p : Phrase} {ts : List Token} (alone : Bool) : Derivation p ts → Prop
  | last _ d => d.Grouped false
  | next d d' => d.Grouped false ∧ d'.Grouped false
  | emptyBlock _ _ => True
  | block _ _ d => d.Grouped false
  | plain d => d.Grouped alone
  | lastItem _ d => d.Grouped false
  | nextItem d d' => d.Grouped false ∧ d'.Grouped false
  | value d => d.Grouped alone
  | assign d d' => d.Grouped false ∧ d'.Grouped false
  | single d => d.Grouped alone
  | join _ d d' => d.Grouped false ∧ d'.Grouped false
  | group _ _ d => d.Grouped true
  | number _ _ => True
  | string _ => True
  | var _ _ => True
  | glob _ => True
  | star => True
  | negate d => d.Grouped false
  | emptyCall _ _ _ _ => True
  | call _ _ _ _ d => d.Grouped false
  | lastArgument d => d.Grouped false
  | nextArgument _ d d' => d.Grouped false ∧ d'.Grouped false
  | ifThen _ _ d d' => alone = true ∧ d.Grouped false ∧ d'.Grouped false
  | ifThenElse _ _ _ d d' d'' =>
    alone = true ∧ d.Grouped false ∧ d'.Grouped false ∧ d''.Grouped false
  | edgeIf _ _ _ d d' d'' =>
    alone = true ∧ d.Grouped false ∧ d'.Grouped false ∧ d''.Grouped false
  | atChange _ _ d d' => alone = true ∧ d.Grouped false ∧ d'.Grouped false

/-! Standing for a phrase of another level changes nothing of what a phrase is made of. -/

section Levels

variable {e : Expr} {ts : List Token} {level : Level} {alone : Bool}

theorem grouped_asOperand {d : Derivation (.term e) ts} :
    (d.asOperand level).Grouped alone ↔ d.Grouped alone := by
  cases level <;> rfl

theorem grouped_ofTerm {d : Derivation (.term e) ts} :
    (d.ofTerm level).Grouped alone ↔ d.Grouped alone :=
  grouped_asOperand

theorem grouped_loosened {d : Derivation (.joined level e) ts} :
    (d.loosened level).Grouped alone ↔ d.Grouped alone := by
  cases level <;> rfl

end Levels

end Derivation

end Grammar

end Cascade
