import Cascade.Token.Scan

/-!
# A lexer that can un-read one token

The lexer stands in its source between two tokens. It remembers the last token it gave, so that one
token can be un-read and given again, and where that token starts, so that a message can point at
it.

§1 the state; §2 reading and un-reading; §3 pointing at a token; §4 reading to the end.
-/

namespace Cascade

/-! ## §1 The state -/

/-- **The place of a text that a message points at**: the text with `width` characters from `start`
on underlined. -/
structure Excerpt where
  source : String
  start : Nat
  width : Nat
  deriving DecidableEq, Repr, Inhabited

/-- The source, and under it the marks. -/
def Excerpt.render (e : Excerpt) : String :=
  e.source ++ "\n" ++ String.ofList (List.replicate e.start ' ' ++ List.replicate e.width '^')

/-- **A lexer**: what is left of the source, where that begins, the last token and where it starts,
and whether it was un-read. -/
structure Lexer where
  source : String
  rest : List Char
  position : Nat
  tokenStart : Nat
  last : Option Token
  rewound : Bool
  deriving Inhabited

namespace Lexer

/-- A lexer in front of a source. -/
def ofSource (source : String) : Lexer := ⟨source, source.toList, 0, 0, none, false⟩

/-! ## §2 Reading and un-reading -/

/-- Scans a new token. An error leaves the last token as it was; after the end of the input comes the
end of the input again. -/
def scan (l : Lexer) : Except LexError Token × Lexer :=
  match Scan.next l.position l.rest with
  | .token t start stop rest =>
    (.ok t, { l with rest, position := stop, tokenStart := start, last := some t })
  | .ending offset =>
    (.ok .ending,
      { l with rest := [], position := offset, tokenStart := offset, last := some .ending })
  | .error e start stop rest => (.error e, { l with rest, position := stop, tokenStart := start })

/-- **Reads a token**: the last one again if it was un-read, a new one otherwise. -/
def next (l : Lexer) : Except LexError Token × Lexer :=
  match l.rewound, l.last with
  | true, some t => (.ok t, { l with rewound := false })
  | _, _ => l.scan

/-- **Un-reads the last token.** Only one token can be un-read at a time. -/
def rewind (l : Lexer) : Except LexError Unit × Lexer :=
  if l.rewound || l.last.isNone then (.error .rewindUnavailable, l)
  else (.ok (), { l with rewound := true })

/-! ## §3 Pointing at a token -/

/-- The source with the last token underlined, at least one character wide. -/
def excerpt (l : Lexer) : Excerpt := ⟨l.source, l.tokenStart, max (l.position - l.tokenStart) 1⟩

/-! ## §4 Reading to the end -/

/-- Reads tokens until the end of the input or an error; each with the offset at which it starts. -/
def readAll (l : Lexer) : Nat → List (Token × Nat) × Option LexError × Lexer
  | 0 => ([], none, l)
  | fuel + 1 =>
    match l.next with
    | (.error e, l) => ([], some e, l)
    | (.ok t, l) =>
      if t.kind = .endOfInput then ([(t, l.tokenStart)], none, l)
      else
        match l.readAll fuel with
        | (tokens, failure, l') => ((t, l.tokenStart) :: tokens, failure, l')

/-- **All tokens of a source**, the end of the input included, the error that stopped the reading if
there was one, and the lexer as it stands afterwards. A token consumes a character, so there are no
more tokens than characters, and the end. -/
def tokenize (source : String) : List (Token × Nat) × Option LexError × Lexer :=
  (ofSource source).readAll (source.length + 1)

end Lexer

end Cascade
