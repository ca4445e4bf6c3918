import Cascade.Token.Lexer

/-!
# The tokens of a source as a list

A parser looks at the tokens of its source in order and one token ahead. `Tokens` is what it looks
at: the tokens with their places, up to the end of the input or to the first lexical error. The error
is met only by a reader that gets there.

§1 the type; §2 the tokens of a source; §3 the next token.
-/

namespace Cascade

/-! ## §1 The type -/

/-- **A token in its place**: it reaches from offset `start` to before `stop`. -/
structure Lexeme where
  token : Token
  start : Nat
  stop : Nat
  deriving DecidableEq, Repr, Inhabited

/-- The source with the token underlined; the end of the input is one mark wide. -/
def Lexeme.excerpt (l : Lexeme) (source : String) : Excerpt :=
  ⟨source, l.start, max (l.stop - l.start) 1⟩

/-- **The tokens that are left**: some, then the end of the input or a lexical error. -/
inductive Tokens where
  | ended (offset : Nat)
  | broken (e : LexError)
  | cons (head : Lexeme) (tail : Tokens)
  deriving DecidableEq, Repr, Inhabited

namespace Tokens

/-- How many tokens are left. -/
def length : Tokens → Nat
  | ended _ => 0
  | broken _ => 0
  | cons _ tail => tail.length + 1

/-! ## §2 The tokens of a source -/

/-- Scans the tokens of a text that stands at an offset. The fuel bounds their number. -/
def scan (offset : Nat) (text : List Char) : Nat → Tokens
  | 0 => ended offset
  | fuel + 1 =>
    match Scan.next offset text with
    | .token t start stop rest => cons ⟨t, start, stop⟩ (scan stop rest fuel)
    | .ending offset => ended offset
    | .error e _ _ _ => broken e

/-- **The tokens of a source.** -/
def ofSource (source : String) : Tokens :=
  let text := source.toList
  scan 0 text (text.length + 1)

/-- Every amount of fuel above the length of the text gives the same tokens. -/
theorem scan_eq_of_length_lt :
    ∀ (fuel fuel2 : Nat) {offset : Nat} {text : List Char}, text.length < fuel →
      text.length < fuel2 → scan offset text fuel = scan offset text fuel2
  | 0, _, _, _, h, _ => absurd h (Nat.not_lt_zero _)
  | _ + 1, 0, _, _, _, h2 => absurd h2 (Nat.not_lt_zero _)
  | fuel + 1, fuel2 + 1, offset, text, h, h2 => by
    unfold scan
    split
    · next hs =>
      have hl := Scan.next_rest_lt hs
      rw [scan_eq_of_length_lt fuel fuel2 (by omega) (by omega)]
    · rfl
    · rfl

/-! ## §3 The next token -/

/-- The next token, without taking it. At the end of the input that is the end itself. -/
def peek : Tokens → Except LexError Lexeme
  | ended offset => .ok ⟨.ending, offset, offset⟩
  | broken e => .error e
  | cons head _ => .ok head

/-- What is left when the next token is taken; the end of the input stays. -/
def tail : Tokens → Tokens
  | ended offset => ended offset
  | broken e => broken e
  | cons _ tail => tail

end Tokens

end Cascade
