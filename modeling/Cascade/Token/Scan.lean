import Cascade.Token
import Cascade.Unicode.Alphabetic

/-!
# Scanning one token

Scanning skips blanks and reads the longest token its first character can begin: a bracket or a
comma by itself, a string up to the next quote, a number as a run of digits and points, a name as a
run of name characters, an operator of one character or two. All offsets count characters.

§1 character classes; §2 lexical errors; §3 the scan; §4 what it leaves.
-/

namespace Cascade

/-! ## §1 Character classes -/

namespace Token

open Unicode (isAsciiDigit isAlphabetic isAlphanumeric isBlank)

/-- The characters that are tokens by themselves. -/
def bracketKind? : Char → Option Kind
  | '(' => some .openParen
  | ')' => some .closeParen
  | '\x7b' => some .openCurly
  | '\x7d' => some .closeCurly
  | ',' => some .comma
  | _ => none

/-- The characters of a number: it begins with a digit and may hold any points. -/
def isNumberChar (c : Char) : Bool := isAsciiDigit c || c == '.'

/-- The characters that begin a name. -/
def isNameStart (c : Char) : Bool := isAlphabetic c || c == '_' || c == '%' || c == '.'

/-- The characters of a name. -/
def isNameChar (c : Char) : Bool :=
  isAlphanumeric c || c == '_' || c == '-' || c == '%' || c == '.' || c == '*' || c == '?'

/-- The characters of operators. -/
def isOperatorChar (c : Char) : Bool :=
  c == '+' || c == '-' || c == '*' || c == '/' || c == '=' || c == '<' || c == '>' || c == '!' ||
    c == ';'

/-- The operator characters that an equals sign extends. -/
def isExtensible (c : Char) : Bool := c == '<' || c == '>' || c == '=' || c == '!'

end Token

/-! ## §2 Lexical errors -/

/-- **Why no token could be read.** -/
inductive LexError where
  | unexpectedChar (c : Char) (offset : Nat)
  | unterminatedString (offset : Nat)
  | rewindUnavailable
  deriving DecidableEq, Repr, Inhabited

/-- The wording of a lexical error. -/
def LexError.message : LexError → String
  | .unexpectedChar c offset =>
    "unexpected character '" ++ c.toString ++ "' at position " ++ toString offset
  | .unterminatedString offset => "unterminated string starting at position " ++ toString offset
  | .rewindUnavailable => "rewind called twice without reading a token in between"

/-! ## §3 The scan -/

/-- **The outcome of a scan**: a token, the end of the input, or an error; each with the offset at
which the token starts, that after the last character consumed, and the characters left. -/
inductive Scan where
  | token (t : Token) (start stop : Nat) (rest : List Char)
  | ending (offset : Nat)
  | error (e : LexError) (start stop : Nat) (rest : List Char)
  deriving Inhabited

namespace Scan

open Token

/-- A token that is the longest run of characters of one class. -/
def run (p : Char → Bool) (kindOf : String → Kind) (start : Nat) (text : List Char) : Scan :=
  let lexeme := text.takeWhile p
  .token ⟨kindOf (String.ofList lexeme), String.ofList lexeme⟩ start (start + lexeme.length)
    (text.dropWhile p)

/-- A string, from the character after its opening quote, which stands at `start`. -/
def string (start : Nat) (text : List Char) : Scan :=
  let content := text.takeWhile (· != '"')
  match text.dropWhile (· != '"') with
  | [] => .error (.unterminatedString start) start (start + 1 + content.length) []
  | _ :: rest => .token ⟨.string, String.ofList content⟩ start (start + content.length + 2) rest

/-- An operator that begins with `c`. -/
def operator (start : Nat) (c : Char) (text : List Char) : Scan :=
  match text with
  | '=' :: rest =>
    if isExtensible c then .token ⟨.operator, String.ofList [c, '=']⟩ start (start + 2) rest
    else .token ⟨kindOfSymbol (String.ofList [c]), String.ofList [c]⟩ start (start + 1) text
  | _ => .token ⟨kindOfSymbol (String.ofList [c]), String.ofList [c]⟩ start (start + 1) text

/-- The token that begins with `c` at `start`. -/
def begin (start : Nat) (c : Char) (text : List Char) : Scan :=
  match bracketKind? c with
  | some kind => .token ⟨kind, String.ofList [c]⟩ start (start + 1) text
  | none =>
    if c == '"' then string start text
    else if Unicode.isAsciiDigit c then run isNumberChar (fun _ => .number) start (c :: text)
    else if isNameStart c then run isNameChar kindOfWord start (c :: text)
    else if isOperatorChar c then operator start c text
    else .error (.unexpectedChar c start) start start (c :: text)

/-- **Scans one token** of a text that stands at an offset. -/
def next (offset : Nat) (text : List Char) : Scan :=
  let start := offset + (text.takeWhile Unicode.isBlank).length
  match text.dropWhile Unicode.isBlank with
  | [] => .ending start
  | c :: rest => begin start c rest

/-! ## §4 What a scan leaves -/

/-- A name may go on with whatever it may begin with. -/
theorem isNameChar_of_isNameStart {c : Char} (h : isNameStart c = true) : isNameChar c = true := by
  simp only [isNameStart, Bool.or_eq_true] at h
  simp only [isNameChar, Unicode.isAlphanumeric, Bool.or_eq_true]
  rcases h with ((h | h) | h) | h <;> simp [h]

theorem length_dropWhile_le (p : Char → Bool) :
    ∀ text : List Char, (text.dropWhile p).length ≤ text.length
  | [] => Nat.le_refl _
  | c :: text => by
    rw [List.dropWhile_cons]
    split
    · exact Nat.le_succ_of_le (length_dropWhile_le p text)
    · exact Nat.le_refl _

/-- A run whose first character is of its class leaves less than it was given. -/
theorem length_dropWhile_cons_lt {p : Char → Bool} {c : Char} (h : p c = true) (text : List Char) :
    ((c :: text).dropWhile p).length < (c :: text).length := by
  rw [List.dropWhile_cons, if_pos h, List.length_cons]
  exact Nat.lt_succ_of_le (length_dropWhile_le p text)

/-- **A token that begins with a character consumes it.** -/
theorem begin_rest_lt {start : Nat} {c : Char} {text : List Char} {t : Token} {s e : Nat}
    {rest : List Char} (h : begin start c text = .token t s e rest) :
    rest.length < (c :: text).length := by
  unfold begin at h
  split at h
  · cases h; simp
  · split at h
    · unfold string at h
      simp only at h
      split at h
      · cases h
      · next heq =>
        cases h
        have := length_dropWhile_le (· != '"') text
        rw [heq] at this
        simp only [List.length_cons] at this ⊢
        omega
    · split at h
      · next hd =>
        unfold run at h
        cases h
        exact length_dropWhile_cons_lt (by simp [isNumberChar, hd]) text
      · split at h
        · next hn =>
          unfold run at h
          cases h
          exact length_dropWhile_cons_lt (isNameChar_of_isNameStart hn) text
        · split at h
          · unfold operator at h
            split at h
            · split at h <;> cases h <;> simp only [List.length_cons] <;> omega
            · cases h; simp only [List.length_cons]; omega
          · cases h

/-- **A scanned token consumes at least one character.** -/
theorem next_rest_lt {offset : Nat} {text : List Char} {t : Token} {s e : Nat} {rest : List Char}
    (h : next offset text = .token t s e rest) : rest.length < text.length := by
  unfold next at h
  simp only at h
  split at h
  · cases h
  · next c tail heq =>
    have := length_dropWhile_le Unicode.isBlank text
    rw [heq] at this
    exact Nat.lt_of_lt_of_le (begin_rest_lt h) this

end Scan

end Cascade
