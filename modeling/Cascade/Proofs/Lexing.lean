import Cascade.Token.Stream
import Mathlib.Data.List.TakeWhile

/-!
# What the lexer reads

A source is made of tokens if reading it to the end gives just these. The list of tokens that the
readers of the grammar look at is the same one.

The tokens that can be read at all are told class by class, and each of them is read again from its
own text, whatever text comes behind it as long as that cannot go on with the token.

§1 a text and its tokens; §2 the tokens there are; §3 reading a token from its own text; §4 texts
written token by token.
-/

namespace Cascade

/-! ## §1 A text and its tokens -/

/-- **A source is made of these tokens**: read to the end, it gives them and then the end of the
input, and no error. -/
structure Lexer.Tokenizes (source : String) (ts : List Token) : Prop where
  tokens : (tokenize source).1.map Prod.fst = ts ++ [.ending]
  complete : (tokenize source).2.1 = none

namespace Tokens

/-- **The tokens begin with these**, and the rest is left after them. -/
inductive Starts : Tokens → List Token → Tokens → Prop
  | nil (ts : Tokens) : Starts ts [] ts
  | cons {ts rest : Tokens} {list : List Token} (l : Lexeme) : Starts ts list rest →
      Starts (cons l ts) (l.token :: list) rest

theorem starts_nil_iff {ts rest : Tokens} : ts.Starts [] rest ↔ ts = rest := by
  constructor
  · rintro (_ | _)
    rfl
  · rintro rfl
    exact .nil ts

theorem starts_cons_iff {ts rest : Tokens} {t : Token} {list : List Token} :
    ts.Starts (t :: list) rest ↔
      ∃ l tail, ts = .cons l tail ∧ l.token = t ∧ tail.Starts list rest := by
  constructor
  · rintro (_ | ⟨l, h⟩)
    exact ⟨l, _, rfl, rfl, h⟩
  · rintro ⟨l, tail, rfl, rfl, h⟩
    exact h.cons l

theorem starts_append_iff {ts rest : Tokens} {list more : List Token} :
    ts.Starts (list ++ more) rest ↔ ∃ mid, ts.Starts list mid ∧ mid.Starts more rest := by
  induction list generalizing ts with
  | nil =>
    constructor
    · exact fun h => ⟨ts, .nil ts, h⟩
    · rintro ⟨mid, _ | _, h⟩
      exact h
  | cons t list ih =>
    simp only [List.cons_append, starts_cons_iff, ih]
    constructor
    · rintro ⟨l, tail, rfl, rfl, mid, h, h'⟩
      exact ⟨mid, ⟨l, tail, rfl, rfl, h⟩, h'⟩
    · rintro ⟨mid, ⟨l, tail, rfl, rfl, h⟩, h'⟩
      exact ⟨l, tail, rfl, rfl, mid, h, h'⟩

theorem Starts.append {ts mid rest : Tokens} {list more : List Token} (h : ts.Starts list mid)
    (h' : mid.Starts more rest) : ts.Starts (list ++ more) rest :=
  starts_append_iff.mpr ⟨mid, h, h'⟩

/-- The first of some tokens is the next one. -/
theorem Starts.peek {ts rest : Tokens} {t : Token} {list : List Token}
    (h : ts.Starts (t :: list) rest) :
    ∃ l, ts.peek = .ok l ∧ l.token = t ∧ ts.tail.Starts list rest := by
  obtain ⟨l, tail, rfl, hl, htail⟩ := starts_cons_iff.mp h
  exact ⟨l, rfl, hl, htail⟩

/-- A token in the middle of some is the next one when those in front of it have been taken. -/
theorem Starts.split {ts rest : Tokens} {t : Token} {list more : List Token}
    (h : ts.Starts (list ++ t :: more) rest) :
    ∃ mid l, ts.Starts list mid ∧ mid.peek = .ok l ∧ l.token = t ∧ mid.tail.Starts more rest := by
  obtain ⟨mid, hlist, hmore⟩ := starts_append_iff.mp h
  obtain ⟨l, hl, ht, htail⟩ := hmore.peek
  exact ⟨mid, l, hlist, hl, ht, htail⟩

/-- **The tokens that are left are these**, and then the end of the input. -/
def Spell (ts : Tokens) (list : List Token) : Prop := ∃ offset, ts.Starts list (ended offset)

theorem spell_ended {offset : Nat} {list : List Token} : (ended offset).Spell list ↔ list = [] := by
  constructor
  · rintro ⟨_, _ | _⟩
    rfl
  · rintro rfl
    exact ⟨offset, .nil _⟩

theorem not_spell_broken {e : LexError} {list : List Token} : ¬ (broken e).Spell list := by
  rintro ⟨_, _ | _⟩

theorem spell_cons {l : Lexeme} {ts : Tokens} {list : List Token} :
    (cons l ts).Spell list ↔ ∃ rest, list = l.token :: rest ∧ ts.Spell rest := by
  constructor
  · rintro ⟨offset, _ | ⟨_, h⟩⟩
    exact ⟨_, rfl, offset, h⟩
  · rintro ⟨_, rfl, offset, h⟩
    exact ⟨offset, h.cons l⟩

end Tokens

/-! ## §2 The tokens there are -/

namespace Token

open Unicode (isAsciiDigit isBlank)

/-- **The tokens that can be read**, class by class. -/
inductive Lexical : Token → Prop
  | bracket {c : Char} {kind : Kind} : bracketKind? c = some kind → Lexical ⟨kind, .ofList [c]⟩
  | string {s : List Char} : (∀ c ∈ s, c ≠ '"') → Lexical ⟨.string, .ofList s⟩
  | number {c : Char} {s : List Char} : isAsciiDigit c = true → (∀ x ∈ s, isNumberChar x = true) →
      Lexical ⟨.number, .ofList (c :: s)⟩
  | word {c : Char} {s : List Char} : isBlank c = false → isNameStart c = true →
      (∀ x ∈ s, isNameChar x = true) →
      Lexical ⟨kindOfWord (.ofList (c :: s)), .ofList (c :: s)⟩
  | extended {c : Char} : isExtensible c = true → Lexical ⟨.operator, .ofList [c, '=']⟩
  | symbol {c : Char} : isOperatorChar c = true →
      Lexical ⟨kindOfSymbol (.ofList [c]), .ofList [c]⟩

theorem mem_of_bracketKind? {c : Char} {kind : Kind} (h : bracketKind? c = some kind) :
    c ∈ ['(', ')', '\x7b', '\x7d', ','] := by
  unfold bracketKind? at h
  split at h <;> simp at h ⊢

theorem mem_of_isOperatorChar {c : Char} (h : isOperatorChar c = true) :
    c ∈ ['+', '-', '*', '/', '=', '<', '>', '!', ';'] := by
  simpa [isOperatorChar, or_assoc] using h

/-- Brackets and the comma have no other kinds than these. -/
theorem bracketKind?_ne {c : Char} {kind k : Kind} (h : bracketKind? c = some kind)
    (hk : k ∉ [.openParen, .closeParen, .openCurly, .closeCurly, .comma]) : kind ≠ k := by
  rintro rfl
  unfold bracketKind? at h
  split at h <;> cases h <;> exact hk (by decide)

/-- Words have no other kinds than these. -/
theorem kindOfWord_ne {k : Kind} (s : String) (hk : k ∉ [.wordIf, .wordThen, .wordElse, .wordEdgeIf,
    .wordAt, .wordDo, .operator, .name]) : kindOfWord s ≠ k := by
  rintro rfl
  unfold kindOfWord at hk
  split at hk <;> exact hk (by decide)

/-- Operator characters by themselves have no other kinds than these. -/
theorem kindOfSymbol_ne {k : Kind} (s : String) (hk : k ∉ [.invalid, .operator]) :
    kindOfSymbol s ≠ k := by
  rintro rfl
  unfold kindOfSymbol at hk
  split at hk <;> exact hk (by decide)

/-- **No token that can be read is the end of the input.** -/
theorem Lexical.kind_ne_endOfInput {t : Token} (h : t.Lexical) : t.kind ≠ .endOfInput := by
  cases h with
  | bracket hc => exact bracketKind?_ne hc (by decide)
  | word => exact kindOfWord_ne _ (by decide)
  | symbol => exact kindOfSymbol_ne _ (by decide)
  | _ => exact nofun

end Token

namespace Scan

open Token Unicode

/-- What stands behind a run of characters of a class is not of the class. -/
theorem eq_false_of_head?_dropWhile {p : Char → Bool} {text : List Char} {x : Char}
    (h : (text.dropWhile p).head? = some x) : p x = false := by
  have hnot := List.head?_dropWhile_not p text
  rw [h] at hnot
  simpa using hnot

/-- **How a scan goes on from its first character**, case by case: what is read, what is left, and why
it is not more. -/
inductive Begun (start : Nat) (c : Char) (text : List Char) : Scan → Prop
  | bracket {kind : Kind} : bracketKind? c = some kind →
      Begun start c text (.token ⟨kind, .ofList [c]⟩ start (start + 1) text)
  | string {s rest : List Char} : c = '"' → text = s ++ '"' :: rest → (∀ x ∈ s, x ≠ '"') →
      Begun start c text (.token ⟨.string, .ofList s⟩ start (start + s.length + 2) rest)
  | unclosed : c = '"' → '"' ∉ text →
      Begun start c text (.error (.unterminatedString start) start (start + 1 + text.length) [])
  | number {s rest : List Char} : isAsciiDigit c = true → text = s ++ rest →
      (∀ x ∈ s, isNumberChar x = true) → (∀ x, rest.head? = some x → isNumberChar x = false) →
      Begun start c text (.token ⟨.number, .ofList (c :: s)⟩ start (start + (c :: s).length) rest)
  | word {s rest : List Char} : isNameStart c = true → text = s ++ rest →
      (∀ x ∈ s, isNameChar x = true) → (∀ x, rest.head? = some x → isNameChar x = false) →
      Begun start c text (.token ⟨kindOfWord (.ofList (c :: s)), .ofList (c :: s)⟩ start
        (start + (c :: s).length) rest)
  | extended {rest : List Char} : isExtensible c = true → text = '=' :: rest →
      Begun start c text (.token ⟨.operator, .ofList [c, '=']⟩ start (start + 2) rest)
  | symbol : isOperatorChar c = true → (isExtensible c = true → text.head? ≠ some '=') →
      Begun start c text
        (.token ⟨kindOfSymbol (.ofList [c]), .ofList [c]⟩ start (start + 1) text)
  | dead : bracketKind? c = none → c ≠ '"' → isAsciiDigit c = false → isNameStart c = false →
      isOperatorChar c = false →
      Begun start c text (.error (.unexpectedChar c start) start start (c :: text))

section begun

variable (start : Nat) {c : Char} (text : List Char)

theorem run_cons {p : Char → Bool} (kindOf : String → Kind) (hc : p c = true) :
    run p kindOf start (c :: text) =
      .token ⟨kindOf (.ofList (c :: text.takeWhile p)), .ofList (c :: text.takeWhile p)⟩ start
        (start + (c :: text.takeWhile p).length) (text.dropWhile p) := by
  rw [run, List.takeWhile_cons_of_pos hc, List.dropWhile_cons_of_pos hc]

theorem begun_string : Begun start '"' text (string start text) := by
  have hsplit := List.takeWhile_append_dropWhile (p := (· != '"')) (l := text)
  have hclean : ∀ x ∈ text.takeWhile (· != '"'), x ≠ '"' := fun x hx => by
    simpa using List.mem_takeWhile_imp hx
  unfold string
  dsimp only
  split
  · next hdrop =>
    rw [hdrop, List.append_nil] at hsplit
    rw [hsplit] at hclean ⊢
    exact .unclosed rfl fun hmem => hclean _ hmem rfl
  · next q rest hdrop =>
    -- what ends the run of other characters is the closing quote
    have hq : (q != '"') = false :=
      eq_false_of_head?_dropWhile (p := (· != '"')) (congrArg List.head? hdrop)
    rw [hdrop, bne_eq_false_iff_eq.mp hq] at hsplit
    exact .string rfl hsplit.symm hclean

theorem begun_operator (hc : isOperatorChar c = true) :
    Begun start c text (operator start c text) := by
  unfold operator
  split
  · split
    · next hext => exact .extended hext rfl
    · next hext => exact .symbol hc fun hext' => absurd hext' hext
  · next hequals =>
    refine .symbol hc fun _ hhead => ?_
    obtain ⟨rest, rfl⟩ := List.head?_eq_some_iff.mp hhead
    exact hequals rest rfl

/-- **Every scan goes on in one of these ways.** -/
theorem begun_begin (c : Char) : Begun start c text (begin start c text) := by
  unfold begin
  split
  · next hkind => exact .bracket hkind
  · next hbracket =>
    split
    · next hquote =>
      rw [beq_iff_eq] at hquote
      subst hquote
      exact begun_string start text
    · next hquote =>
      split
      · next hdigit =>
        have hc : isNumberChar c = true := by simp [isNumberChar, hdigit]
        rw [run_cons start text _ hc]
        exact .number hdigit List.takeWhile_append_dropWhile.symm
          (fun x hx => List.mem_takeWhile_imp hx) fun x hx => eq_false_of_head?_dropWhile hx
      · next hdigit =>
        split
        · next hname =>
          rw [run_cons start text _ (isNameChar_of_isNameStart hname)]
          exact .word hname List.takeWhile_append_dropWhile.symm
            (fun x hx => List.mem_takeWhile_imp hx) fun x hx => eq_false_of_head?_dropWhile hx
        · next hname =>
          split
          · next hop => exact begun_operator start text hop
          · next hop =>
            exact .dead hbracket (by simpa using hquote) (by simpa using hdigit)
              (by simpa using hname) (by simpa using hop)

end begun

/-- **A token that begins with a character is one of those.** -/
theorem lexical_of_begin {start s stop : Nat} {c : Char} {text rest : List Char} {t : Token}
    (hblank : isBlank c = false) (h : begin start c text = .token t s stop rest) : t.Lexical := by
  have hbegun := begun_begin start text c
  rw [h] at hbegun
  cases hbegun with
  | bracket hkind => exact .bracket hkind
  | string _ _ hs => exact .string hs
  | number hdigit _ hs _ => exact .number hdigit hs
  | word hname _ hs _ => exact .word hblank hname hs
  | extended hext _ => exact .extended hext
  | symbol hop _ => exact .symbol hop

/-- **A scanned token is one of those.** -/
theorem lexical_of_next {offset s stop : Nat} {text rest : List Char} {t : Token}
    (h : next offset text = .token t s stop rest) : t.Lexical := by
  unfold next at h
  dsimp only at h
  split at h
  · cases h
  · next c tail htext =>
    have hblank : isBlank c = false := eq_false_of_head?_dropWhile (congrArg List.head? htext)
    exact lexical_of_begin hblank h

end Scan

/-- **The list of tokens is what the lexer gives**, as long as the fuel is enough for all. -/
theorem Lexer.readAll_iff {fuel : Nat} {l : Lexer} {ts : List Token} (hrewound : l.rewound = false)
    (hfuel : l.rest.length < fuel) :
    ((l.readAll fuel).1.map Prod.fst = ts ++ [.ending] ∧ (l.readAll fuel).2.1 = none) ↔
      (Tokens.scan l.position l.rest fuel).Spell ts := by
  induction fuel generalizing l ts with
  | zero => exact absurd hfuel (Nat.not_lt_zero _)
  | succ fuel ih =>
    have hnext : l.next = l.scan := by
      unfold next
      rw [hrewound]
    rw [readAll, hnext, Tokens.scan]
    unfold scan
    cases hscan : Scan.next l.position l.rest with
    | token t start stop rest =>
      have hkind : t.kind ≠ .endOfInput := (Scan.lexical_of_next hscan).kind_ne_endOfInput
      have hrest : rest.length < l.rest.length := Scan.next_rest_lt hscan
      simp only [if_neg hkind, List.map_cons, Tokens.spell_cons]
      rw [← exists_congr fun us => and_congr_right fun _ =>
        ih (l := { l with rest, position := stop, tokenStart := start, last := some t }) hrewound
          (show rest.length < fuel by omega)]
      cases ts with
      | nil =>
        constructor
        · rintro ⟨hcons, -⟩
          have : t = .ending := by simpa using (List.cons.inj hcons).1
          exact absurd (this ▸ rfl) hkind
        · rintro ⟨_, hcons, -⟩
          cases hcons
      | cons u us =>
        simp [and_assoc, eq_comm]
    | ending offset =>
      rw [Tokens.spell_ended]
      cases ts with
      | nil => simp [Token.ending]
      | cons u us => simp [Token.ending]
    | error e start stop rest =>
      simp [Tokens.not_spell_broken]

theorem Lexer.tokenizes_iff {source : String} {ts : List Token} :
    Tokenizes source ts ↔ (Tokens.ofSource source).Spell ts := by
  have hall : _ ↔ (Tokens.ofSource source).Spell ts :=
    readAll_iff (l := ofSource source) rfl (Nat.lt_succ_self _)
  refine ⟨fun h => hall.mp ⟨h.tokens, h.complete⟩, fun h => ?_⟩
  obtain ⟨htokens, hcomplete⟩ := hall.mpr h
  exact ⟨htokens, hcomplete⟩

/-- The tokens of a text can be read, and behind some of them are the tokens of another text. -/
theorem Tokens.lexical_of_starts {offset fuel : Nat} {text : List Char} {list : List Token}
    {rest : Tokens} (h : (scan offset text fuel).Starts list rest) :
    (∀ t ∈ list, t.Lexical) ∧ ∃ offset text fuel, rest = scan offset text fuel := by
  induction list generalizing offset text fuel with
  | nil =>
    exact ⟨nofun, offset, text, fuel, (starts_nil_iff.mp h).symm⟩
  | cons t list ih =>
    obtain ⟨l, tail, hscan, rfl, htail⟩ := starts_cons_iff.mp h
    cases fuel with
    | zero => cases hscan
    | succ fuel =>
      rw [scan] at hscan
      split at hscan
      · next hnext =>
        cases hscan
        obtain ⟨hlist, hrest⟩ := ih htail
        exact ⟨List.forall_mem_cons.mpr ⟨Scan.lexical_of_next hnext, hlist⟩, hrest⟩
      · cases hscan
      · cases hscan

/-- Where the end of the input comes next in a text, nothing is left of it. -/
theorem Tokens.ended_of_peek_scan {offset fuel : Nat} {text : List Char} {l : Lexeme}
    (h : (scan offset text fuel).peek = .ok l) (hl : l.token.kind = .endOfInput) :
    ∃ offset', scan offset text fuel = ended offset' := by
  cases fuel with
  | zero => exact ⟨offset, rfl⟩
  | succ fuel =>
    rw [scan] at h ⊢
    split at h
    · next hnext =>
      cases h
      exact absurd hl (Scan.lexical_of_next hnext).kind_ne_endOfInput
    · exact ⟨_, rfl⟩
    · cases h

/-- **A source is made of tokens that can be read.** -/
theorem Lexer.Tokenizes.lexical {source : String} {ts : List Token} (h : Tokenizes source ts) :
    ∀ t ∈ ts, t.Lexical := by
  obtain ⟨offset, hstarts⟩ := tokenizes_iff.mp h
  exact (Tokens.lexical_of_starts hstarts).1

/-- Tokens in front of the end of the input are all that a source is made of. -/
theorem Lexer.tokenizes_of_peek {source : String} {list : List Token} {rest : Tokens} {l : Lexeme}
    (h : (Tokens.ofSource source).Starts list rest) (hl : rest.peek = .ok l)
    (hend : l.token.kind = .endOfInput) : Tokenizes source list := by
  obtain ⟨-, offset, text, fuel, rfl⟩ := Tokens.lexical_of_starts h
  obtain ⟨offset', hended⟩ := Tokens.ended_of_peek_scan hl hend
  rw [hended] at h
  exact tokenizes_iff.mpr ⟨offset', h⟩

/-! ## §3 Reading a token from its own text -/

namespace Token

open Unicode

/-- **A text cannot go on with a token in front of it**: it begins with no character of a name and
with no equals sign. -/
def Closed (k : List Char) : Prop := ∀ c, k.head? = some c → isNameChar c = false ∧ c ≠ '='

theorem closed_nil : Closed [] := nofun

theorem closed_cons {c : Char} {k : List Char} (h : isNameChar c = false ∧ c ≠ '=') :
    Closed (c :: k) := by
  intro d hd
  cases hd
  exact h

theorem toNat_lt_of_isAsciiDigit {c : Char} (h : isAsciiDigit c = true) :
    48 ≤ c.toNat ∧ c.toNat < 58 := by
  simp only [isAsciiDigit, Bool.and_eq_true, decide_eq_true_eq, Char.le_def,
    UInt32.le_iff_toNat_le] at h
  have h0 : '0'.val.toNat = 48 := rfl
  have h9 : '9'.val.toNat = 57 := rfl
  simp only [Char.toNat]
  omega

/-- Digits and points are characters of names too. -/
theorem isNameChar_of_isNumberChar {c : Char} (h : isNumberChar c = true) :
    isNameChar c = true := by
  simp only [isNumberChar, Bool.or_eq_true, beq_iff_eq] at h
  rcases h with h | rfl
  · have hlt : c.toNat < 128 := by
      have := toNat_lt_of_isAsciiDigit h
      omega
    simp [isNameChar, isAlphanumeric, isNumeric, hlt, h]
  · decide

theorem Closed.name {k : List Char} (h : Closed k) :
    ∀ c, k.head? = some c → isNameChar c = false :=
  fun c hc => (h c hc).1

theorem Closed.number {k : List Char} (h : Closed k) :
    ∀ c, k.head? = some c → isNumberChar c = false := by
  intro c hc
  refine Bool.eq_false_iff.mpr fun hnumber => ?_
  exact absurd (isNameChar_of_isNumberChar hnumber) (by simp [h.name c hc])

/-- A digit begins no name. -/
theorem isAsciiDigit_eq_false_of_isNameStart {c : Char} (h : isNameStart c = true) :
    isAsciiDigit c = false := by
  rw [Bool.eq_false_iff]
  intro hdigit
  simp only [isNameStart, isAlphabetic_eq_false_of_isAsciiDigit hdigit, Bool.false_or,
    Bool.or_eq_true, beq_iff_eq] at h
  rcases h with (rfl | rfl) | rfl <;> exact absurd hdigit (by decide)

theorem isOperatorChar_of_isExtensible {c : Char} (h : isExtensible c = true) :
    isOperatorChar c = true := by
  simp only [isExtensible, Bool.or_eq_true, beq_iff_eq] at h
  rcases h with ((rfl | rfl) | rfl) | rfl <;> decide

/-- A run of characters of one class ends where its text ends, if what follows is not of the class.
-/
theorem takeWhile_of_closed {p : Char → Bool} {s k : List Char} (hs : ∀ c ∈ s, p c = true)
    (hk : ∀ c, k.head? = some c → p c = false) :
    (s ++ k).takeWhile p = s ∧ (s ++ k).dropWhile p = k := by
  rw [List.takeWhile_append_of_pos hs, List.dropWhile_append_of_pos hs]
  cases k with
  | nil => simp
  | cons c k =>
    have hc : ¬ p c = true := by simp [hk c rfl]
    rw [List.takeWhile_cons_of_neg hc, List.dropWhile_cons_of_neg hc]
    simp

end Token

namespace Scan

open Token Unicode

theorem isBlank_of_isAsciiDigit {c : Char} (h : isAsciiDigit c = true) : isBlank c = false := by
  have hrange := toNat_lt_of_isAsciiDigit h
  have hlt : c.toNat < 128 := by omega
  have hspace : c ≠ ' ' := by
    rintro rfl
    exact absurd h (by decide)
  have hcontrol : ¬ c ≤ '\r' := by
    have hr : '\r'.val.toNat = 13 := rfl
    simp only [Char.toNat] at hrange
    rw [Char.le_def, UInt32.le_iff_toNat_le]
    omega
  simp [isBlank, hlt, hspace, hcontrol]

/-- A character of a class without brackets is no bracket. -/
theorem bracketKind?_eq_none {p : Char → Bool} {c : Char} (h : p c = true)
    (hp : ['(', ')', '\x7b', '\x7d', ','].any p = false) : bracketKind? c = none := by
  cases hc : bracketKind? c with
  | none => rfl
  | some kind =>
    have hany := List.any_eq_true.mpr ⟨c, mem_of_bracketKind? hc, h⟩
    exact absurd (hany.symm.trans hp) nofun

/-! Which run begins with a character is decided class by class. -/

theorem begin_bracket {c : Char} {kind : Kind} (h : bracketKind? c = some kind) (start : Nat)
    (text : List Char) :
    begin start c text = .token ⟨kind, .ofList [c]⟩ start (start + 1) text := by
  simp only [begin, h]

theorem begin_digit {c : Char} (h : isAsciiDigit c = true) (start : Nat) (text : List Char) :
    begin start c text = run isNumberChar (fun _ => .number) start (c :: text) := by
  have hbracket : bracketKind? c = none := bracketKind?_eq_none h (by decide)
  have hquote : ¬ (c == '"') = true := by
    rw [beq_iff_eq]
    rintro rfl
    exact absurd h (by decide)
  simp only [begin, hbracket, if_neg hquote, if_pos h]

theorem begin_nameStart {c : Char} (h : isNameStart c = true) (start : Nat) (text : List Char) :
    begin start c text = run isNameChar kindOfWord start (c :: text) := by
  have hbracket : bracketKind? c = none := bracketKind?_eq_none h (by decide)
  have hquote : ¬ (c == '"') = true := by
    rw [beq_iff_eq]
    rintro rfl
    exact absurd h (by decide)
  have hdigit : ¬ isAsciiDigit c = true := by simp [isAsciiDigit_eq_false_of_isNameStart h]
  simp only [begin, hbracket, if_neg hquote, if_neg hdigit, if_pos h]

theorem begin_operatorChar {c : Char} (h : isOperatorChar c = true) (start : Nat)
    (text : List Char) : begin start c text = operator start c text := by
  have hmem := mem_of_isOperatorChar h
  simp only [List.mem_cons, List.not_mem_nil, or_false] at hmem
  rcases hmem with rfl | rfl | rfl | rfl | rfl | rfl | rfl | rfl | rfl <;> rfl

/-- **A token stands in front of a text**: wherever that is scanned, the token comes first. -/
def Gives (text : List Char) (t : Token) (k : List Char) : Prop :=
  ∀ offset, ∃ start stop, next offset text = .token t start stop k

theorem gives_of_begin {c : Char} {text k : List Char} {t : Token} (hblank : isBlank c = false)
    (h : ∀ start, ∃ s stop, begin start c text = .token t s stop k) : Gives (c :: text) t k := by
  intro offset
  have hc : ¬ isBlank c = true := by simp [hblank]
  simp only [next, List.dropWhile_cons_of_neg hc]
  exact h _

theorem gives_bracket {c : Char} {kind : Kind} (h : bracketKind? c = some kind) (k : List Char) :
    Gives (c :: k) ⟨kind, .ofList [c]⟩ k := by
  refine gives_of_begin ?_ fun start => ⟨start, start + 1, begin_bracket h start k⟩
  have := mem_of_bracketKind? h
  simp only [List.mem_cons, List.not_mem_nil, or_false] at this
  rcases this with rfl | rfl | rfl | rfl | rfl <;> decide

theorem gives_string {s : List Char} (hs : ∀ c ∈ s, c ≠ '"') (k : List Char) :
    Gives ('"' :: (s ++ '"' :: k)) ⟨.string, .ofList s⟩ k := by
  refine gives_of_begin (by decide) fun start => ⟨start, start + s.length + 2, ?_⟩
  obtain ⟨htake, hdrop⟩ := takeWhile_of_closed (p := (· != '"')) (s := s) (k := '"' :: k)
    (by simpa using hs) (by simp)
  have hquote : bracketKind? '"' = none := rfl
  simp only [begin, hquote, beq_self_eq_true, if_true, string, htake, hdrop]

theorem gives_number {c : Char} {s k : List Char} (hc : isAsciiDigit c = true)
    (hs : ∀ x ∈ s, isNumberChar x = true)
    (hk : ∀ x, k.head? = some x → isNumberChar x = false) :
    Gives (c :: (s ++ k)) ⟨.number, .ofList (c :: s)⟩ k := by
  refine gives_of_begin (isBlank_of_isAsciiDigit hc) fun start =>
    ⟨start, start + (c :: s).length, ?_⟩
  have hnumber : ∀ x ∈ c :: s, isNumberChar x = true := by
    intro x hx
    rcases List.mem_cons.mp hx with rfl | hx
    · simp [isNumberChar, hc]
    · exact hs x hx
  obtain ⟨htake, hdrop⟩ := takeWhile_of_closed hnumber hk
  rw [begin_digit hc, ← List.cons_append, run, htake, hdrop]

theorem gives_word {c : Char} {s k : List Char} (hblank : isBlank c = false)
    (hc : isNameStart c = true) (hs : ∀ x ∈ s, isNameChar x = true)
    (hk : ∀ x, k.head? = some x → isNameChar x = false) :
    Gives (c :: (s ++ k)) ⟨kindOfWord (.ofList (c :: s)), .ofList (c :: s)⟩ k := by
  refine gives_of_begin hblank fun start => ⟨start, start + (c :: s).length, ?_⟩
  have hname : ∀ x ∈ c :: s, isNameChar x = true := by
    intro x hx
    rcases List.mem_cons.mp hx with rfl | hx
    · exact isNameChar_of_isNameStart hc
    · exact hs x hx
  obtain ⟨htake, hdrop⟩ := takeWhile_of_closed hname hk
  rw [begin_nameStart hc, ← List.cons_append, run, htake, hdrop]

theorem isBlank_of_isOperatorChar {c : Char} (h : isOperatorChar c = true) :
    isBlank c = false := by
  have hmem := mem_of_isOperatorChar h
  simp only [List.mem_cons, List.not_mem_nil, or_false] at hmem
  rcases hmem with rfl | rfl | rfl | rfl | rfl | rfl | rfl | rfl | rfl <;> decide

/-- An operator of two characters takes them both, whatever comes next. -/
theorem gives_extended {c : Char} (hc : isExtensible c = true) (k : List Char) :
    Gives (c :: '=' :: k) ⟨.operator, .ofList [c, '=']⟩ k := by
  have hop : isOperatorChar c = true := isOperatorChar_of_isExtensible hc
  refine gives_of_begin (isBlank_of_isOperatorChar hop) fun start => ⟨start, start + 2, ?_⟩
  rw [begin_operatorChar hop, operator, if_pos hc]

/-- An operator character stands for itself where no equals sign extends it. -/
theorem gives_symbol {c : Char} (hc : isOperatorChar c = true) {k : List Char}
    (hk : isExtensible c = true → k.head? ≠ some '=') :
    Gives (c :: k) ⟨kindOfSymbol (.ofList [c]), .ofList [c]⟩ k := by
  refine gives_of_begin (isBlank_of_isOperatorChar hc) fun start => ⟨start, start + 1, ?_⟩
  rw [begin_operatorChar hc]
  unfold operator
  split
  · next rest =>
    have hext : ¬ isExtensible c = true := fun hext => hk hext rfl
    rw [if_neg hext]
  · rfl

end Scan

/-- The text of a token: a string stands between quotes. -/
def Token.written (t : Token) : List Char :=
  if t.kind = .string then '"' :: (t.lexeme.toList ++ ['"']) else t.lexeme.toList

theorem Token.written_of_kind {t : Token} {kind : Kind} (h : t.kind = kind)
    (hkind : kind ≠ .string) : t.written = t.lexeme.toList :=
  if_neg (h ▸ hkind)

theorem Token.written_of_ne {k : Kind} (h : k ≠ .string) (s : List Char) :
    written ⟨k, .ofList s⟩ = s := by
  rw [written_of_kind rfl h, String.toList_ofList]

/-- **A token is read again from its own text**, if what comes behind cannot go on with it. -/
theorem Token.Lexical.gives {t : Token} (h : t.Lexical) {k : List Char} (hk : Closed k) :
    Scan.Gives (t.written ++ k) t k := by
  cases h with
  | bracket hc =>
    rw [written_of_ne (bracketKind?_ne hc (by decide))]
    exact Scan.gives_bracket hc k
  | @string s hs =>
    have := Scan.gives_string hs k
    simpa [written] using this
  | number hc hs =>
    rw [written_of_ne (k := .number) nofun]
    exact Scan.gives_number hc hs hk.number
  | word hblank hc hs =>
    rw [written_of_ne (kindOfWord_ne _ (by decide))]
    exact Scan.gives_word hblank hc hs hk.name
  | extended hc =>
    rw [written_of_ne (k := .operator) nofun]
    exact Scan.gives_extended hc k
  | symbol hc =>
    rw [written_of_ne (kindOfSymbol_ne _ (by decide))]
    exact Scan.gives_symbol hc fun _ heq => (hk '=' heq).2 rfl

/-! ## §4 Texts written token by token -/

/-- **A text is made of these tokens**, wherever it stands. -/
def Lexes (text : List Char) (ts : List Token) : Prop :=
  ∀ offset, (Tokens.scan offset text (text.length + 1)).Spell ts

theorem Lexes.tokenizes {source : String} {ts : List Token} (h : Lexes source.toList ts) :
    Lexer.Tokenizes source ts :=
  Lexer.tokenizes_iff.mpr (h 0)

theorem lexes_nil : Lexes [] [] := fun offset => ⟨offset, .nil _⟩

/-- A blank in front of a text is skipped. -/
theorem Lexes.blank {c : Char} {text : List Char} {ts : List Token}
    (hc : Unicode.isBlank c = true) (h : Lexes text ts) : Lexes (c :: text) ts := by
  intro offset
  have hnext : Scan.next offset (c :: text) = Scan.next (offset + 1) text := by
    simp only [Scan.next, List.takeWhile_cons_of_pos hc, List.dropWhile_cons_of_pos hc,
      List.length_cons]
    rw [Nat.add_right_comm, Nat.add_assoc]
  have hscan : Tokens.scan offset (c :: text) ((c :: text).length + 1) =
      Tokens.scan (offset + 1) text (text.length + 1) := by
    rw [Tokens.scan_eq_of_length_lt (text.length + 1) (text.length + 2) (by omega) (by omega),
      List.length_cons, Tokens.scan, Tokens.scan, hnext]
  rw [hscan]
  exact h _

/-- A token in front of a text comes first. -/
theorem Lexes.token {text k : List Char} {t : Token} {ts : List Token}
    (hgives : Scan.Gives text t k) (h : Lexes k ts) : Lexes text (t :: ts) := by
  intro offset
  obtain ⟨start, stop, hnext⟩ := hgives offset
  have hlength := Scan.next_rest_lt hnext
  rw [Tokens.scan, hnext, Tokens.spell_cons,
    Tokens.scan_eq_of_length_lt _ (k.length + 1) hlength (Nat.lt_succ_self _)]
  exact ⟨ts, rfl, h stop⟩

theorem Lexes.bracket {c : Char} {kind : Token.Kind} {k : List Char} {ts : List Token}
    (hc : Token.bracketKind? c = some kind) (h : Lexes k ts) :
    Lexes (c :: k) (⟨kind, .ofList [c]⟩ :: ts) :=
  h.token (Scan.gives_bracket hc k)

/-- **A token's own text in front of a text** that cannot go on with it. -/
theorem Lexes.written {t : Token} {k : List Char} {ts : List Token} (ht : t.Lexical)
    (hk : Token.Closed k) (h : Lexes k ts) : Lexes (t.written ++ k) (t :: ts) :=
  h.token (ht.gives hk)

end Cascade
