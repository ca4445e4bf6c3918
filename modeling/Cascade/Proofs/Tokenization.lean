import Cascade.Proofs.Lexing

/-!
# A source and its tokens

Reading a source token by token loses nothing and splits nothing: every token is a piece of the
source, what lies between two tokens is blank, and no token could have been longer. Reading ends where
the source ends or at the first place where no token can be read, and says which.

The other way round, tokens that are written one after the other with blanks between them are read
again as they were.

§1 reading with `next`; §2 what can go on with a token; §3 one scan; §4 a source is tiled by its
tokens; §5 tokens written out.
-/

namespace Cascade

/-! ## §1 Reading with `next` -/

/-- **Tokens are read one after the other**, each with the place where it stands: from where the lexer
says that it starts to where the lexer stands once it has been read. -/
inductive Lexer.Reads : Lexer → List Lexeme → Lexer → Prop
  | nil (l : Lexer) : Reads l [] l
  | cons {l next last : Lexer} {t : Token} {ls : List Lexeme} : l.next = (.ok t, next) →
      t.kind ≠ .endOfInput → Reads next ls last →
      Reads l (⟨t, next.tokenStart, next.position⟩ :: ls) last

/-- **A token can be read** if some source gives it. -/
def Token.Readable (t : Token) : Prop :=
  ∃ source ls l, (Lexer.ofSource source).Reads ls l ∧ t ∈ ls.map Lexeme.token

/-- Reading always goes the same way: as long as it has not stopped, it has read a part of what it
reads at all. -/
theorem Lexer.Reads.isPrefix {l last last' : Lexer} {ls ls' : List Lexeme} (h : l.Reads ls last)
    (hlast : ∀ t next, last.next = (.ok t, next) → t.kind = .endOfInput) (h' : l.Reads ls' last') :
    ls' <+: ls := by
  induction h generalizing ls' with
  | nil l =>
    cases h' with
    | nil => exact List.prefix_rfl
    | cons hnext hkind _ => exact absurd (hlast _ _ hnext) hkind
  | cons hnext _ _ ih =>
    cases h' with
    | nil => exact List.nil_prefix
    | cons hnext' _ h' =>
      cases hnext.symm.trans hnext'
      exact List.prefix_cons_inj _ |>.mpr (ih hlast h')

/-- The same tokens are read in one way. -/
theorem Lexer.Reads.last_eq {l last last' : Lexer} {ls : List Lexeme} (h : l.Reads ls last)
    (h' : l.Reads ls last') : last' = last := by
  induction h with
  | nil => cases h' with | nil => rfl
  | cons hnext _ _ ih =>
    generalize hls : Lexeme.mk _ _ _ :: _ = ls at h'
    cases h' with
    | nil => cases hls
    | cons hnext' _ h' =>
      cases hnext.symm.trans hnext'
      cases hls
      exact ih h'

/-! ## §2 What can go on with a token -/

namespace Token

open Unicode (isAsciiDigit isBlank)

/-- The spellings that no name has. -/
def reserved : List String := ["if", "then", "else", "edge_if", "at", "do", "and", "or"]

/-- **Could the token have gone on with this character?** A number goes on with digits and points, a
name and a reserved word with the characters of names, and one of `<`, `>`, `=`, `!` with an equals
sign. Nothing goes on with a bracket, a comma, a string or another operator. -/
def continues (t : Token) (c : Char) : Bool :=
  match t.written with
  | [] => false
  | d :: tail =>
    if isAsciiDigit d then isNumberChar c
    else if isNameStart d then isNameChar c
    else tail.isEmpty && isExtensible d && c == '='

theorem not_mem_reserved {s : String} (h : kindOfWord s = .name) : s ∉ reserved := by
  intro hmem
  simp only [reserved, List.mem_cons, List.not_mem_nil, or_false] at hmem
  rcases hmem with rfl | rfl | rfl | rfl | rfl | rfl | rfl | rfl <;> exact absurd h (by decide)

/-- A name is spelled as no reserved word is. -/
theorem Lexical.not_reserved {t : Token} (h : t.Lexical) (hname : t.kind = .name) :
    t.lexeme ∉ reserved := by
  cases h with
  | bracket hc => exact absurd hname (bracketKind?_ne hc (by decide))
  | word => exact not_mem_reserved hname
  | symbol => exact absurd hname (kindOfSymbol_ne _ (by decide))
  | _ => cases hname

/-- **The texts of tokens**, class by class. -/
inductive Spelled : List Char → Prop
  | bracket {c : Char} {kind : Kind} : bracketKind? c = some kind → Spelled [c]
  | string {s : List Char} : (∀ c ∈ s, c ≠ '"') → Spelled ('"' :: (s ++ ['"']))
  | number {c : Char} {s : List Char} : isAsciiDigit c = true → (∀ x ∈ s, isNumberChar x = true) →
      Spelled (c :: s)
  | word {c : Char} {s : List Char} : isNameStart c = true → (∀ x ∈ s, isNameChar x = true) →
      Spelled (c :: s)
  | extended {c : Char} : isExtensible c = true → Spelled [c, '=']
  | symbol {c : Char} : isOperatorChar c = true → Spelled [c]

theorem written_string (s : List Char) :
    Token.written ⟨.string, .ofList s⟩ = '"' :: (s ++ ['"']) := by
  simp [Token.written]

/-- **A token is written as its class says.** -/
theorem Lexical.spelled {t : Token} (h : t.Lexical) : Spelled t.written := by
  cases h with
  | bracket hc =>
    rw [written_of_ne (bracketKind?_ne hc (by decide))]
    exact .bracket hc
  | @string s hs =>
    rw [written_string]
    exact .string hs
  | number hc hs =>
    rw [written_of_ne (k := .number) nofun]
    exact .number hc hs
  | word _ hc hs =>
    rw [written_of_ne (kindOfWord_ne _ (by decide))]
    exact .word hc hs
  | extended hc =>
    rw [written_of_ne (k := .operator) nofun]
    exact .extended hc
  | symbol hc =>
    rw [written_of_ne (kindOfSymbol_ne _ (by decide))]
    exact .symbol hc

theorem Spelled.ne_nil {text : List Char} (h : Spelled text) : text ≠ [] := by
  cases h <;> nofun

/-- A text of a token that begins with a quote is that of a string. -/
theorem Spelled.string_of_quote {tail : List Char} (h : Spelled ('"' :: tail)) :
    ∃ s, (∀ c ∈ s, c ≠ '"') ∧ tail = s ++ ['"'] := by
  cases h with
  | bracket hc => cases hc
  | @string s hs => exact ⟨s, hs, rfl⟩
  | number hc _ | word hc _ | extended hc | symbol hc => exact absurd hc (by decide)

theorem isNameStart_eq_false_of_isExtensible {c : Char} (h : isExtensible c = true) :
    isAsciiDigit c = false ∧ isNameStart c = false := by
  simp only [isExtensible, Bool.or_eq_true, beq_iff_eq] at h
  rcases h with ((rfl | rfl) | rfl) | rfl <;> decide

/-! What goes on with a token is told by the first character of its text. -/

section continues

variable {t : Token} {d c : Char} {tail : List Char} (h : t.written = d :: tail)
include h

theorem continues_of_digit (hd : isAsciiDigit d = true) : t.continues c = isNumberChar c := by
  simp only [continues, h, hd, if_true]

theorem continues_of_nameStart (hd : isNameStart d = true) : t.continues c = isNameChar c := by
  simp only [continues, h, isAsciiDigit_eq_false_of_isNameStart hd, hd, if_true, Bool.false_eq_true,
    if_false]

theorem continues_of_extensible (hd : isExtensible d = true) :
    t.continues c = (tail.isEmpty && c == '=') := by
  obtain ⟨hdigit, hname⟩ := isNameStart_eq_false_of_isExtensible hd
  simp only [continues, h, hdigit, hname, hd, Bool.false_eq_true, if_false, Bool.and_true]

theorem continues_of_other (hdigit : isAsciiDigit d = false) (hname : isNameStart d = false)
    (hext : isExtensible d = false ∨ tail ≠ []) : t.continues c = false := by
  rcases hext with hext | htail
  · simp only [continues, h, hdigit, hname, hext, Bool.false_eq_true, if_false, Bool.and_false,
      Bool.false_and]
  · have hempty : tail.isEmpty = false := by simpa using htail
    simp only [continues, h, hdigit, hname, hempty, Bool.false_eq_true, if_false, Bool.false_and]

end continues

end Token

/-! ## §3 One scan -/

namespace Scan

open Token Unicode

/-- **A token stands at the front of a text**: the rest comes behind it, and it could not have gone
on with that. -/
structure Fronts (text : List Char) (t : Token) (rest : List Char) : Prop where
  text_eq : text = t.written ++ rest
  ends : ∀ c, rest.head? = some c → t.continues c = false

/-- Where a token stands that is scanned at `start`. -/
def Spans (start : Nat) (text : List Char) (t : Token) (s stop : Nat) (rest : List Char) : Prop :=
  s = start ∧ stop = start + t.written.length ∧ Fronts text t rest

theorem spans_of_written {start stop : Nat} {text written rest : List Char} {t : Token}
    (hwritten : t.written = written) (htext : text = written ++ rest)
    (hstop : stop = start + written.length)
    (hends : ∀ c, rest.head? = some c → t.continues c = false) :
    Spans start text t start stop rest := by
  subst hwritten
  exact ⟨rfl, hstop, htext, hends⟩

/-- **A token that begins with a character stands at the front of its text.** -/
theorem spans_of_begin {start s stop : Nat} {c : Char} {text rest : List Char} {t : Token}
    (h : begin start c text = .token t s stop rest) : Spans start (c :: text) t s stop rest := by
  have hbegun := begun_begin start text c
  rw [h] at hbegun
  cases hbegun with
  | @bracket kind hkind =>
    have hwritten := written_of_ne (bracketKind?_ne hkind (by decide)) [c]
    have hclass : isAsciiDigit c = false ∧ isNameStart c = false ∧ isExtensible c = false := by
      have hmem := mem_of_bracketKind? hkind
      simp only [List.mem_cons, List.not_mem_nil, or_false] at hmem
      rcases hmem with rfl | rfl | rfl | rfl | rfl <;> decide
    exact spans_of_written hwritten rfl rfl fun x _ =>
      continues_of_other hwritten hclass.1 hclass.2.1 (.inl hclass.2.2)
  | @string content _ hquote htext _ =>
    subst hquote htext
    have hwritten := written_string content
    refine spans_of_written hwritten (by simp) (by simp; omega) fun x _ => ?_
    exact continues_of_other hwritten (by decide) (by decide) (.inl (by decide))
  | @number digits _ hdigit htext _ hends =>
    subst htext
    have hwritten := written_of_ne (k := .number) nofun (c :: digits)
    refine spans_of_written hwritten rfl rfl fun x hx => ?_
    rw [continues_of_digit hwritten hdigit]
    exact hends x hx
  | @word tail _ hname htext _ hends =>
    subst htext
    have hwritten := written_of_ne (kindOfWord_ne (.ofList (c :: tail)) (by decide)) (c :: tail)
    refine spans_of_written hwritten rfl rfl fun x hx => ?_
    rw [continues_of_nameStart hwritten hname]
    exact hends x hx
  | extended hext htext =>
    subst htext
    have hwritten := written_of_ne (k := .operator) nofun [c, '=']
    obtain ⟨hdigit, hname⟩ := isNameStart_eq_false_of_isExtensible hext
    exact spans_of_written hwritten rfl rfl fun x _ =>
      continues_of_other hwritten hdigit hname (.inr nofun)
  | symbol hop hequals =>
    have hwritten := written_of_ne (kindOfSymbol_ne (.ofList [c]) (by decide)) [c]
    refine spans_of_written hwritten rfl rfl fun x hx => ?_
    cases hext : isExtensible c with
    | true =>
      -- an equals sign would have been taken
      have hne : x ≠ '=' := by
        rintro rfl
        exact hequals hext hx
      rw [continues_of_extensible hwritten hext]
      simp [hne]
    | false =>
      have hclass : isAsciiDigit c = false ∧ isNameStart c = false := by
        have hmem := mem_of_isOperatorChar hop
        simp only [List.mem_cons, List.not_mem_nil, or_false] at hmem
        rcases hmem with rfl | rfl | rfl | rfl | rfl | rfl | rfl | rfl | rfl <;> decide
      exact continues_of_other hwritten hclass.1 hclass.2 (.inl hext)

/-- **No token begins with this character.** -/
def Dead (c : Char) : Prop := ∀ t : Token, t.Lexical → t.written.head? ≠ some c

theorem dead_of_classes {c : Char} (hbracket : bracketKind? c = none) (hquote : c ≠ '"')
    (hdigit : isAsciiDigit c = false) (hname : isNameStart c = false)
    (hop : isOperatorChar c = false) : Dead c := by
  rintro t ht hhead
  have hspelled := ht.spelled
  cases htext : t.written with
  | nil =>
    rw [htext] at hhead
    cases hhead
  | cons d tail =>
    rw [htext] at hhead hspelled
    cases hhead
    cases hspelled with
    | bracket hc => exact absurd (hbracket.symm.trans hc) nofun
    | string => exact hquote rfl
    | number hc _ => exact absurd (hdigit.symm.trans hc) nofun
    | word hc _ => exact absurd (hname.symm.trans hc) nofun
    | extended hc => exact absurd (hop.symm.trans (isOperatorChar_of_isExtensible hc)) nofun
    | symbol hc => exact absurd (hop.symm.trans hc) nofun

/-- **Why no token could be read at a character**: none begins with it, or it is a quote that is not
closed. -/
inductive Stuck (start : Nat) (c : Char) (text : List Char) : LexError → Nat → Prop
  | dead : Dead c → Stuck start c text (.unexpectedChar c start) start
  | unclosed : c = '"' → '"' ∉ text →
      Stuck start c text (.unterminatedString start) (start + 1 + text.length)

theorem stuck_of_begin {start s stop : Nat} {c : Char} {text rest : List Char} {e : LexError}
    (h : begin start c text = .error e s stop rest) : s = start ∧ Stuck start c text e stop := by
  have hbegun := begun_begin start text c
  rw [h] at hbegun
  cases hbegun with
  | unclosed hquote hopen => exact ⟨rfl, .unclosed hquote hopen⟩
  | dead hbracket hquote hdigit hname hop =>
    exact ⟨rfl, .dead (dead_of_classes hbracket hquote hdigit hname hop)⟩

/-- The blanks in front of a text, and what stands behind them. -/
theorem next_eq (offset : Nat) (text : List Char) :
    ∃ gap tail, text = gap ++ tail ∧ (∀ c ∈ gap, isBlank c = true) ∧
      (∀ c, tail.head? = some c → isBlank c = false) ∧
      next offset text =
        match tail with
        | [] => .ending (offset + gap.length)
        | c :: rest => begin (offset + gap.length) c rest := by
  refine ⟨text.takeWhile isBlank, text.dropWhile isBlank, ?_, fun c hc => List.mem_takeWhile_imp hc,
    fun c hc => eq_false_of_head?_dropWhile hc, rfl⟩
  exact List.takeWhile_append_dropWhile.symm

/-- What begins with a character does not end there. -/
theorem begin_ne_ending (start stop : Nat) (c : Char) (text : List Char) :
    begin start c text ≠ .ending stop := by
  intro h
  have hbegun := begun_begin start text c
  rw [h] at hbegun
  cases hbegun

/-- **What a scanned token leaves**: blanks in front of it, and a rest that it could not have gone on
with. -/
theorem spans_of_next {offset start stop : Nat} {text rest : List Char} {t : Token}
    (h : next offset text = .token t start stop rest) :
    ∃ gap tail, text = gap ++ tail ∧ (∀ c ∈ gap, isBlank c = true) ∧
      Spans (offset + gap.length) tail t start stop rest := by
  obtain ⟨gap, tail, htext, hgap, hfront, hnext⟩ := next_eq offset text
  rw [hnext] at h
  cases tail with
  | nil => cases h
  | cons c tail => exact ⟨gap, c :: tail, htext, hgap, spans_of_begin h⟩

/-- **The end of the input comes behind blanks.** -/
theorem blank_of_next {offset stop : Nat} {text : List Char} (h : next offset text = .ending stop) :
    (∀ c ∈ text, isBlank c = true) ∧ stop = offset + text.length := by
  obtain ⟨gap, tail, htext, hgap, hfront, hnext⟩ := next_eq offset text
  rw [hnext] at h
  cases tail with
  | nil =>
    cases h
    rw [List.append_nil] at htext
    rw [htext]
    exact ⟨hgap, rfl⟩
  | cons c tail => exact absurd h (begin_ne_ending _ _ _ _)

/-- **An error names the first character behind the blanks.** -/
theorem stuck_of_next {offset start stop : Nat} {text rest : List Char} {e : LexError}
    (h : next offset text = .error e start stop rest) :
    ∃ gap c tail, text = gap ++ c :: tail ∧ (∀ x ∈ gap, isBlank x = true) ∧ isBlank c = false ∧
      start = offset + gap.length ∧ Stuck start c tail e stop := by
  obtain ⟨gap, tail, htext, hgap, hfront, hnext⟩ := next_eq offset text
  rw [hnext] at h
  cases tail with
  | nil => cases h
  | cons c tail =>
    obtain ⟨rfl, hstuck⟩ := stuck_of_begin h
    exact ⟨gap, c, tail, htext, hgap, hfront c rfl, rfl, hstuck⟩

end Scan

/-! ## §4 A source is tiled by its tokens -/

open Unicode (isBlank)

/-- The characters of a text from one offset to another. -/
def slice (text : List Char) (start stop : Nat) : List Char := (text.drop start).take (stop - start)

/-- **Tokens tile a text** between two offsets: they come in order, each is a piece of the text that
could not have been longer, and the characters between them are blank. -/
structure Tiled (text : List Char) (first last : Nat) (ls : List Lexeme) : Prop where
  le : first ≤ last ∧ last ≤ text.length
  inside : ∀ l ∈ ls, first ≤ l.start ∧ l.start < l.stop ∧ l.stop ≤ last
  ordered : ls.Pairwise fun a b => a.stop ≤ b.start
  blank : ∀ i, first ≤ i → i < last → (∀ l ∈ ls, i < l.start ∨ l.stop ≤ i) →
    ∃ c, text[i]? = some c ∧ isBlank c = true
  written : ∀ l ∈ ls, slice text l.start l.stop = l.token.written
  ends : ∀ l ∈ ls, ∀ c, text[l.stop]? = some c → l.token.continues c = false
  lexical : ∀ l ∈ ls, l.token.Lexical

/-- Nothing tiles a stretch of blanks. -/
theorem tiled_nil {text gap rest : List Char} {first : Nat} (hfirst : first ≤ text.length)
    (htext : text.drop first = gap ++ rest) (hgap : ∀ c ∈ gap, isBlank c = true) :
    Tiled text first (first + gap.length) [] := by
  have hlength : text.length - first = gap.length + rest.length := by
    rw [← List.length_drop, htext, List.length_append]
  refine ⟨⟨by omega, by omega⟩, nofun, .nil, fun i hi hlast _ => ?_, nofun, nofun, nofun⟩
  have hin : i - first < gap.length := by omega
  refine ⟨gap[i - first], ?_, hgap _ (List.getElem_mem hin)⟩
  have hget : (text.drop first)[i - first]? = text[i]? := by
    rw [List.getElem?_drop]
    congr 1
    omega
  rw [← hget, htext, List.getElem?_append_left hin, List.getElem?_eq_getElem hin]

/-- **One more token in front.** -/
theorem Tiled.cons {text gap tail rest : List Char} {t : Token} {first start stop last : Nat}
    {ls : List Lexeme} (hfirst : first ≤ text.length) (htext : text.drop first = gap ++ tail)
    (hgap : ∀ c ∈ gap, isBlank c = true) (ht : t.Lexical)
    (hspans : Scan.Spans (first + gap.length) tail t start stop rest)
    (h : Tiled text stop last ls) : Tiled text first last (⟨t, start, stop⟩ :: ls) := by
  obtain ⟨rfl, hstop, hfronts⟩ := hspans
  have hpos : 0 < t.written.length := List.length_pos_iff.mpr ht.spelled.ne_nil
  have hbehind : text.drop (first + gap.length) = t.written ++ rest := by
    rw [← List.drop_drop, htext, List.drop_left, hfronts.text_eq]
  have hrest : text.drop stop = rest := by
    rw [hstop, ← List.drop_drop, hbehind, List.drop_left]
  have hblank := tiled_nil hfirst htext hgap
  have hle := h.le
  refine ⟨⟨by omega, hle.2⟩, ?_, ?_, ?_, ?_, ?_, ?_⟩
  · refine List.forall_mem_cons.mpr ⟨⟨by simp, by simp only; omega, hle.1⟩, fun l hl => ?_⟩
    have := h.inside l hl
    omega
  · exact List.pairwise_cons.mpr ⟨fun l hl => (h.inside l hl).1, h.ordered⟩
  · intro i hi hlast hout
    obtain ⟨hhead, htail⟩ := List.forall_mem_cons.mp hout
    -- a character in no token stands in front of the first one or behind it
    rcases hhead with hbefore | hafter
    · exact hblank.blank i hi hbefore nofun
    · exact h.blank i hafter hlast htail
  · refine List.forall_mem_cons.mpr ⟨?_, h.written⟩
    have hlength : stop - (first + gap.length) = t.written.length := by omega
    show slice text (first + gap.length) stop = t.written
    rw [slice, hbehind, hlength, List.take_left]
  · refine List.forall_mem_cons.mpr ⟨fun c hc => hfronts.ends c ?_, h.ends⟩
    rw [← hrest, List.head?_drop]
    exact hc
  · exact List.forall_mem_cons.mpr ⟨ht, h.lexical⟩

/-- Where a token stands, its text comes first and then what is behind it. -/
theorem Tiled.drop_start {text : List Char} {first last : Nat} {ls : List Lexeme}
    (h : Tiled text first last ls) {l : Lexeme} (hl : l ∈ ls) :
    text.drop l.start = l.token.written ++ text.drop l.stop ∧
      l.token.written.length = l.stop - l.start := by
  obtain ⟨-, hpos, hlast⟩ := h.inside l hl
  have hle := h.le.2
  have hstop : l.stop = l.start + (l.stop - l.start) := by omega
  have hsplit := (List.take_append_drop (l.stop - l.start) (text.drop l.start)).symm
  rw [List.drop_drop, ← hstop, ← slice, h.written l hl] at hsplit
  refine ⟨hsplit, ?_⟩
  rw [← h.written l hl, slice, List.length_take, List.length_drop]
  omega

/-! ### No token could have been longer -/

/-- **Whatever token has one for its front could go on with what comes next**, unless they are the
same. -/
theorem continues_of_longer {t u : Token} {x : Char} {more : List Char} (ht : t.Lexical)
    (hu : u.Lexical) (h : u.written = t.written ++ x :: more) : t.continues x = true := by
  have hspelled := ht.spelled
  have hlonger := hu.spelled
  rw [h] at hlonger
  cases hfront : t.written with
  | nil => exact absurd hfront hspelled.ne_nil
  | cons d tail =>
    rw [hfront] at hspelled
    rw [hfront, List.cons_append] at hlonger
    -- the first character of the longer token tells the class of both
    generalize htext : d :: (tail ++ x :: more) = text at hlonger
    cases hlonger with
    | bracket | symbol => cases tail <;> cases htext
    | @string s hs =>
      obtain ⟨rfl, hs'⟩ := List.cons.inj htext
      obtain ⟨s', hclean, rfl⟩ := hspelled.string_of_quote
      -- two strings with one front close at the same quote
      have hstop : ∀ k : List Char, ∀ c, ('"' :: k).head? = some c → (c != '"') = false := by
        rintro k c hc
        cases hc
        rfl
      have hone := (Token.takeWhile_of_closed (p := (· != '"')) (k := '"' :: [])
        (fun c hc => by simpa using hs c hc) (hstop _)).2
      have htwo := (Token.takeWhile_of_closed (p := (· != '"')) (k := '"' :: x :: more)
        (fun c hc => by simpa using hclean c hc) (hstop _)).2
      rw [← hs', List.append_assoc] at hone
      exact absurd (hone.symm.trans htwo) nofun
    | number hc hs =>
      obtain ⟨rfl, rfl⟩ := List.cons.inj htext
      rw [Token.continues_of_digit hfront hc]
      exact hs x (by simp)
    | word hc hs =>
      obtain ⟨rfl, rfl⟩ := List.cons.inj htext
      rw [Token.continues_of_nameStart hfront hc]
      exact hs x (by simp)
    | extended hc =>
      obtain ⟨rfl, htail⟩ := List.cons.inj htext
      cases tail with
      | nil =>
        cases htail
        rw [Token.continues_of_extensible hfront hc]
        rfl
      | cons y tail => cases tail <;> cases htail

/-- **A token that could not go on with what comes next is the longest** that stands there. -/
theorem length_le_of_continues {t u : Token} {rest : List Char} (ht : t.Lexical) (hu : u.Lexical)
    (hends : ∀ c, rest.head? = some c → t.continues c = false)
    (hstands : u.written <+: t.written ++ rest) : u.written.length ≤ t.written.length := by
  by_contra hlonger
  obtain ⟨more, hmore⟩ := List.prefix_of_prefix_length_le (List.prefix_append t.written rest) hstands
    (by omega)
  cases more with
  | nil =>
    rw [← hmore, List.append_nil] at hlonger
    exact hlonger (Nat.le_refl _)
  | cons x more =>
    have hnext : rest.head? = some x := by
      obtain ⟨k, hk⟩ := hstands
      rw [← hmore, List.append_assoc] at hk
      rw [← List.append_cancel_left hk]
      rfl
    have hgoes := continues_of_longer ht hu hmore.symm
    exact absurd (hgoes.symm.trans (hends x hnext)) nofun

/-! ### Tokens that can be read -/

namespace Lexer

theorem next_of_not_rewound {l : Lexer} (h : l.rewound = false) : l.next = l.scan := by
  unfold next
  rw [h]

/-- **What is read comes from a scan**, and nothing is un-read by it. -/
theorem scan_of_next {l next : Lexer} {t : Token} (hrewound : l.rewound = false)
    (hnext : l.next = (.ok t, next)) (ht : t.kind ≠ .endOfInput) :
    Scan.next l.position l.rest = .token t next.tokenStart next.position next.rest ∧
      next.rewound = false := by
  rw [next_of_not_rewound hrewound] at hnext
  unfold scan at hnext
  split at hnext
  · next hscan =>
    cases hnext
    exact ⟨hscan, hrewound⟩
  · cases hnext
    exact absurd rfl ht
  · cases hnext

/-- A scanned token is the next one. -/
theorem next_of_scan {l : Lexer} {t : Token} {start stop : Nat} {rest : List Char}
    (hrewound : l.rewound = false) (hscan : Scan.next l.position l.rest = .token t start stop rest) :
    l.next = (.ok t, { l with rest, position := stop, tokenStart := start, last := some t }) := by
  rw [next_of_not_rewound hrewound]
  unfold scan
  rw [hscan]

theorem Reads.lexical {l last : Lexer} {ls : List Lexeme} (h : l.Reads ls last)
    (hrewound : l.rewound = false) : ∀ x ∈ ls, x.token.Lexical := by
  induction h with
  | nil => nofun
  | cons hnext hkind _ ih =>
    obtain ⟨hscan, hrewound⟩ := scan_of_next hrewound hnext hkind
    exact List.forall_mem_cons.mpr ⟨Scan.lexical_of_next hscan, ih hrewound⟩

end Lexer

/-- **The tokens that can be read are those of the classes.** -/
theorem Token.readable_iff {t : Token} : t.Readable ↔ t.Lexical := by
  constructor
  · rintro ⟨source, ls, l, hreads, ht⟩
    obtain ⟨x, hx, rfl⟩ := List.mem_map.mp ht
    exact hreads.lexical rfl x hx
  · intro ht
    -- its own text is a source that gives it
    obtain ⟨start, stop, hscan⟩ := ht.gives closed_nil 0
    have hsource : (Lexer.ofSource (.ofList t.written)).rest = t.written ++ [] := by
      simp [Lexer.ofSource]
    have hnext := Lexer.next_of_scan (l := Lexer.ofSource (.ofList t.written)) rfl (hsource ▸ hscan)
    exact ⟨_, _, _, .cons hnext ht.kind_ne_endOfInput (.nil _), List.mem_singleton_self t⟩

/-! ### Where reading stops -/

/-- **How reading stops** at an offset of a text, and where the lexer stands then: at the end, at a
character that begins no token, or at a quote that no later quote closes. -/
inductive Stops (text : List Char) (offset : Nat) : Except LexError Token → Nat → Prop
  | ending : offset = text.length → Stops text offset (.ok .ending) offset
  | unexpected {c : Char} : text[offset]? = some c → isBlank c = false → Scan.Dead c →
      Stops text offset (.error (.unexpectedChar c offset)) offset
  | unterminated : text[offset]? = some '"' → (∀ i, offset < i → text[i]? ≠ some '"') →
      Stops text offset (.error (.unterminatedString offset)) text.length

namespace Lexer

/-- **Reading stops here**: only blanks are left before the offset where it stops, and no token comes
next. -/
structure Halts (l : Lexer) (text : List Char) (offset : Nat) : Prop where
  tiled : Tiled text l.position offset []
  stops : Stops text offset l.next.1 l.next.2.position
  last : ∀ t next, l.next = (.ok t, next) → t.kind = .endOfInput

section halts

variable {text : List Char} {l : Lexer} (hrewound : l.rewound = false)
  (hposition : l.position ≤ text.length) (hrest : text.drop l.position = l.rest)
include hrewound hposition hrest

theorem halts_of_ending {offset : Nat} (hscan : Scan.next l.position l.rest = .ending offset) :
    l.Halts text offset := by
  obtain ⟨hblank, hoffset⟩ := Scan.blank_of_next hscan
  have hnext : l.next = (.ok .ending,
      { l with rest := [], position := offset, tokenStart := offset, last := some .ending }) := by
    rw [next_of_not_rewound hrewound]
    unfold scan
    rw [hscan]
  have hend : offset = text.length := by
    have hlength := congrArg List.length hrest
    rw [List.length_drop] at hlength
    omega
  constructor
  · rw [hoffset]
    exact tiled_nil hposition (hrest.trans (List.append_nil _).symm) hblank
  · rw [hnext]
    exact .ending hend
  · intro t next h
    cases hnext.symm.trans h
    rfl

theorem halts_of_error {e : LexError} {start stop : Nat} {rest : List Char}
    (hscan : Scan.next l.position l.rest = .error e start stop rest) : l.Halts text start := by
  obtain ⟨gap, c, tail, htext, hgap, hc, hstart, hstuck⟩ := Scan.stuck_of_next hscan
  have hnext : l.next = (.error e, { l with rest, position := stop, tokenStart := start }) := by
    rw [next_of_not_rewound hrewound]
    unfold scan
    rw [hscan]
  have hdrop : text.drop start = c :: tail := by
    rw [hstart, ← List.drop_drop, hrest, htext, List.drop_left]
  have hget : text[start]? = some c := by
    rw [← List.head?_drop, hdrop]
    rfl
  constructor
  · rw [hstart]
    exact tiled_nil hposition (hrest.trans htext) hgap
  · rw [hnext]
    cases hstuck with
    | dead hdead => exact .unexpected hget hc hdead
    | unclosed hquote hopen =>
      have hlength : start + 1 + tail.length = text.length := by
        have hlengths := congrArg List.length hdrop
        rw [List.length_drop, List.length_cons] at hlengths
        omega
      rw [hlength]
      refine .unterminated (hquote ▸ hget) fun i hi hclose => ?_
      -- a later quote would be among what comes behind
      have hlater : tail[i - start - 1]? = some '"' := by
        rw [← hclose, ← List.getElem?_cons_succ (a := c), ← hdrop, List.getElem?_drop]
        congr 1
        omega
      exact hopen (List.mem_of_getElem? hlater)
  · intro t next h
    exact absurd (hnext.symm.trans h) (by simp)

end halts

/-- **Reading goes on until it stops**, from wherever the lexer stands in a text. -/
theorem exists_reads {text : List Char} (l : Lexer) (hrewound : l.rewound = false)
    (hposition : l.position ≤ text.length) (hrest : text.drop l.position = l.rest) :
    ∃ ls last offset, l.Reads ls last ∧ Tiled text l.position offset ls ∧ last.Halts text offset := by
  -- every token that is read leaves less
  induction hlength : l.rest.length using Nat.strongRecOn generalizing l with
  | ind n ih =>
    subst hlength
    cases hscan : Scan.next l.position l.rest with
    | token t start stop rest =>
      obtain ⟨gap, tail, htext, hgap, hspans⟩ := Scan.spans_of_next hscan
      have ht := Scan.lexical_of_next hscan
      have hnext := next_of_scan hrewound hscan
      have hless : rest.length < l.rest.length := Scan.next_rest_lt hscan
      obtain ⟨rfl, hstop, hfronts⟩ := hspans
      have hdrop : text.drop stop = rest := by
        rw [hstop, ← List.drop_drop, ← List.drop_drop, hrest, htext, List.drop_left,
          hfronts.text_eq, List.drop_left]
      have hstop_le : stop ≤ text.length := by
        have hlengths := congrArg List.length (hrest.trans (htext.trans (by rw [hfronts.text_eq])))
        simp only [List.length_drop, List.length_append] at hlengths
        omega
      obtain ⟨ls, last, offset, hreads, htiled, hhalts⟩ :=
        ih rest.length hless
          { l with rest, position := stop, tokenStart := l.position + gap.length, last := some t }
          hrewound hstop_le hdrop rfl
      exact ⟨_, last, offset, .cons hnext ht.kind_ne_endOfInput hreads,
        .cons hposition (hrest.trans htext) hgap ht ⟨rfl, hstop, hfronts⟩ htiled, hhalts⟩
    | ending offset =>
      have hhalts := halts_of_ending hrewound hposition hrest hscan
      exact ⟨[], l, offset, .nil l, hhalts.tiled, hhalts⟩
    | error e start stop rest =>
      have hhalts := halts_of_error hrewound hposition hrest hscan
      exact ⟨[], l, start, .nil l, hhalts.tiled, hhalts⟩

end Lexer

/-- **A source is tiled by its tokens.** Reading any source token by token comes to a stop, and
however far it has come, it has read the first of the same tokens. The tokens come in order, none is
empty, each is the piece of the source where it stands, without the quotes if it is a string, and
everything in front of them, between them and behind them up to the place where reading stops is
blank. What can be read from some source are the tokens of the character classes, all of them and no
others. A token could not have gone on with the character behind it, and no token of the classes that
stands at the same place is longer. A name is spelled as no reserved word is. Reading stops at the end
of the source, at the first character that is not blank and with which no token of the classes begins,
or at a quote that no later quote closes; the lexer never stands behind the end. -/
theorem source_is_tiled (source : String) :
    (∀ t : Token, t.Readable ↔ t.Lexical) ∧
    ∃ ls last offset, (Lexer.ofSource source).Reads ls last ∧
      (∀ ls' last', (Lexer.ofSource source).Reads ls' last' → ls' <+: ls) ∧
      Tiled source.toList 0 offset ls ∧
      (∀ l ∈ ls, ∀ t : Token, t.Lexical → t.written <+: source.toList.drop l.start →
        t.written.length ≤ l.stop - l.start) ∧
      (∀ l ∈ ls, l.token.kind = .name → l.token.lexeme ∉ Token.reserved) ∧
      Stops source.toList offset last.next.1 last.next.2.position := by
  obtain ⟨ls, last, offset, hreads, htiled, hhalts⟩ :=
    @Lexer.exists_reads source.toList (.ofSource source) rfl (Nat.zero_le _) rfl
  refine ⟨fun t => Token.readable_iff, ls, last, offset, hreads,
    fun ls' last' h => hreads.isPrefix hhalts.last h, htiled, ?_,
    fun l hl => (htiled.lexical l hl).not_reserved, hhalts.stops⟩
  intro l hl t ht hstands
  obtain ⟨hdrop, hlength⟩ := htiled.drop_start hl
  rw [hdrop] at hstands
  rw [← hlength]
  refine length_le_of_continues (htiled.lexical l hl) ht ?_ hstands
  rw [List.head?_drop]
  exact htiled.ends l hl

/-- Three tokens and then a character that begins none. The name is not cut off behind the reserved
word in front of it, nor the operator behind its first character. -/
theorem three_tokens_then_unexpected :
    let text := "if_a >= 2.5 ~ b".toList
    let ls : List Lexeme :=
      [⟨⟨.name, "if_a"⟩, 0, 4⟩, ⟨⟨.operator, ">="⟩, 5, 7⟩, ⟨⟨.number, "2.5"⟩, 8, 11⟩]
    ∃ last, (Lexer.ofSource "if_a >= 2.5 ~ b").Reads ls last ∧ Tiled text 0 12 ls ∧
      last.next.1 = .error (.unexpectedChar '~' 12) ∧ last.next.2.position = 12 ∧
      (∀ t : Token, t.Lexical → t.written.head? ≠ some '~') ∧
      Token.Readable ⟨.wordIf, "if"⟩ ∧ "if".toList <+: text ∧
      (∀ t : Token, t.Lexical → t.written <+: text → t.written.length ≤ 4) ∧
      (∀ t : Token, t.Lexical → t.written <+: text.drop 5 → t.written.length ≤ 2) ∧
      "if_a" ∉ Token.reserved := by
  intro text ls
  obtain ⟨last, hreads, herror⟩ : ∃ last, (Lexer.ofSource "if_a >= 2.5 ~ b").Reads ls last ∧
      last.next.1 = .error (.unexpectedChar '~' 12) := by
    let l := (Lexer.ofSource "if_a >= 2.5 ~ b").next.2
    have hname : (Lexer.ofSource "if_a >= 2.5 ~ b").next = (.ok ⟨.name, "if_a"⟩, l) := rfl
    have hoperator : l.next = (.ok ⟨.operator, ">="⟩, l.next.2) := rfl
    have hnumber : l.next.2.next = (.ok ⟨.number, "2.5"⟩, l.next.2.next.2) := rfl
    exact ⟨_, .cons hname nofun (.cons hoperator nofun (.cons hnumber nofun (.nil _))), rfl⟩
  obtain ⟨hreadable, ls', last', offset, hall, hfirst, htiled, hlongest, hnames, hstops⟩ :=
    source_is_tiled "if_a >= 2.5 ~ b"
  -- there are no more tokens than these, since reading stops behind them
  have hls : ls' = ls := by
    have hlast : ∀ t next, last.next = (.ok t, next) → t.kind = .endOfInput := by
      intro t next h
      cases (congrArg Prod.fst h).symm.trans herror
    exact (hreads.isPrefix hlast hall).eq_of_length_le (hfirst ls last hreads).length_le
  subst hls
  obtain rfl := hreads.last_eq hall
  rw [herror] at hstops
  generalize hposition : last'.next.2.position = position at hstops
  cases hstops with
  | unexpected _ _ hdead =>
    have htail : ∀ c ∈ ['f'], Token.isNameChar c = true := List.forall_mem_singleton.mpr (by decide)
    have hif : Token.Lexical ⟨.wordIf, "if"⟩ := .word (c := 'i') (by decide) (by decide) htail
    have hfront : "if".toList <+: text := ⟨"_a >= 2.5 ~ b".toList, rfl⟩
    refine ⟨_, hreads, htiled, herror, hposition, hdead, (hreadable _).mpr hif, hfront, ?_, ?_, ?_⟩
    · exact hlongest _ (List.mem_cons_self ..)
    · exact hlongest _ (List.mem_cons_of_mem _ (List.mem_cons_self ..))
    · exact hnames _ (List.mem_cons_self ..) rfl

/-! ## §5 Tokens written out -/

namespace Token

/-- **Tokens written in a row**, each as it is spelled, with single blanks between them. -/
def spaced (ts : List Token) : String := " ".intercalate (ts.map fun t => .ofList t.written)

theorem toList_spaced_cons (t u : Token) (ts : List Token) :
    (spaced (t :: u :: ts)).toList = t.written ++ ' ' :: (spaced (u :: ts)).toList := by
  have hblank : " ".toList = [' '] := rfl
  simp only [spaced, List.map_cons, String.intercalate_cons_cons, String.toList_append,
    String.toList_ofList, hblank, List.append_assoc, List.cons_append, List.nil_append]

theorem lexes_spaced {ts : List Token} (h : ∀ t ∈ ts, t.Lexical) : Lexes (spaced ts).toList ts := by
  induction ts with
  | nil => exact lexes_nil
  | cons t ts ih =>
    obtain ⟨ht, hts⟩ := List.forall_mem_cons.mp h
    cases ts with
    | nil =>
      have hone : (spaced [t]).toList = t.written ++ [] := by simp [spaced]
      rw [hone]
      exact .written ht closed_nil lexes_nil
    | cons u ts =>
      rw [toList_spaced_cons]
      -- the blank ends the token in front of it and is no part of the one behind it
      exact .written ht (closed_cons (by decide)) ((ih hts).blank (by decide))

end Token

/-- **Reading undoes writing.** Tokens that can be read, each of them in some source, are read again
from a row of all of them, in their order and nothing else, up to its end; and so are all tokens of a
source that is read to its end. -/
theorem spaced_tokens_read {ts : List Token} :
    ((∀ t ∈ ts, t.Readable) → Lexer.Tokenizes (Token.spaced ts) ts) ∧
      ∀ {source}, Lexer.Tokenizes source ts → Lexer.Tokenizes (Token.spaced ts) ts :=
  ⟨fun h => (Token.lexes_spaced fun t ht => Token.readable_iff.mp (h t ht)).tokenizes,
    fun h => (Token.lexes_spaced h.lexical).tokenizes⟩

/-- Seven tokens without a blank between them: a lone `!` is kept apart from what would extend it, and a
name that only begins like a word stays one. -/
theorem crowded_tokens_read :
    let ts : List Token := [⟨.name, "x?"⟩, ⟨.operator, ">="⟩, ⟨.number, "1..2"⟩, ⟨.string, "a  b"⟩,
      ⟨.invalid, "!"⟩, ⟨.name, "if-"⟩, ⟨.operator, "="⟩]
    Lexer.Tokenizes "x?>=1..2\"a  b\"!if-=" ts ∧ (∀ t ∈ ts, t.Readable) ∧
      Lexer.Tokenizes "x? >= 1..2 \"a  b\" ! if- =" ts ∧ Lexer.Tokenizes (Token.spaced ts) ts := by
  intro ts
  have hsource : Lexer.Tokenizes "x?>=1..2\"a  b\"!if-=" ts := ⟨rfl, rfl⟩
  have hreadable : ∀ t ∈ ts, t.Readable := fun t ht => Token.readable_iff.mpr (hsource.lexical t ht)
  exact ⟨hsource, hreadable, spaced_tokens_read.1 hreadable, spaced_tokens_read.2 hsource⟩

end Cascade
