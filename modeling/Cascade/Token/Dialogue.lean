import Cascade.Token.Lexer

/-!
# A dialogue with a lexer

What is asked of a lexer, call by call, and what it says each time. A dialogue is kept with its latest
turn first. It has stopped when reading has failed.

§1 calls and answers; §2 turns; §3 what a dialogue tells.
-/

namespace Cascade

namespace Lexer

/-! ## §1 Calls and answers -/

/-- **What a lexer can be asked**: to read a token, or to un-read the last one. -/
inductive Call where
  | next
  | rewind
  deriving DecidableEq, Repr, Inhabited

/-- **What a lexer says**: a token that it read, or why it could read none; that a token was un-read,
or why none was. -/
inductive Answer where
  | token (t : Token)
  | failure (e : LexError)
  | unread
  | refusal (e : LexError)
  deriving DecidableEq, Repr, Inhabited

/-- Has the lexer done what it was asked? -/
def Answer.succeeds : Answer → Bool
  | token _ => true
  | failure _ => false
  | unread => true
  | refusal _ => false

/-- Does it answer a call to read? -/
def Answer.isReading : Answer → Bool
  | token _ => true
  | failure _ => true
  | unread => false
  | refusal _ => false

/-! ## §2 Turns -/

/-- **A turn**: what the lexer said, and how it stands afterwards. -/
structure Turn where
  answer : Answer
  lexer : Lexer
  deriving Inhabited

/-- Makes a call. -/
def ask (l : Lexer) : Call → Turn
  | .next =>
    match l.next with
    | (.ok t, l') => ⟨.token t, l'⟩
    | (.error e, l') => ⟨.failure e, l'⟩
  | .rewind =>
    match l.rewind with
    | (.ok _, l') => ⟨.unread, l'⟩
    | (.error e, l') => ⟨.refusal e, l'⟩

/-- How the lexer stands after some turns. -/
def after (l : Lexer) : List Turn → Lexer
  | [] => l
  | turn :: _ => turn.lexer

/-- Has reading failed? -/
def stopped : List Turn → Bool
  | ⟨.failure _, _⟩ :: _ => true
  | _ => false

/-- **The turns of some calls**, up to the first reading that fails. The latest comes first on both
sides. -/
def dialogue (l : Lexer) : List Call → List Turn
  | [] => []
  | call :: past =>
    if stopped (l.dialogue past) then l.dialogue past
    else (l.after (l.dialogue past)).ask call :: l.dialogue past

/-! ## §3 What a dialogue tells -/

/-- What the lexer said when it last did what it was asked. -/
def lastSuccess? (turns : List Turn) : Option Answer :=
  (turns.map Turn.answer).find? Answer.succeeds

/-- **The turns in which something new was read**, or reading failed: what was read after an
un-reading has been read before. -/
def firsts : List Turn → List Turn
  | [] => []
  | turn :: past =>
    if turn.answer.isReading && lastSuccess? past != some .unread then turn :: firsts past
    else firsts past

/-- The turns of reading again and again, without ever un-reading. -/
def plainly (l : Lexer) (readings : Nat) : List Turn := l.dialogue (List.replicate readings .next)

end Lexer

end Cascade
