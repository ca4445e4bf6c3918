import Cascade.Proofs.Onward

/-!
# An error points at the token that it names

What stands on the line below the source when a rule cannot be read: as many blanks as characters
come before the token that the error names, and as many carets as the token has characters. The place
comes from a lexer that has been read and un-read all the way to the error.

§1 reading on; §2 where a token stands; §3 the token read last; §4 the law.
-/

namespace Cascade

/-! ## §1 Reading on -/

namespace Lexer

variable {l mid last next : Lexer} {ls : List Lexeme} {t : Token} {source : String}

/-- One more token at the end. -/
theorem Reads.snoc (h : l.Reads ls mid) (hnext : mid.next = (.ok t, next))
    (ht : t.kind ≠ .endOfInput) :
    l.Reads (ls ++ [⟨t, next.tokenStart, next.position⟩]) next := by
  induction h with
  | nil l => exact .cons hnext ht (.nil next)
  | cons hfirst hkind _ ih => exact .cons hfirst hkind (ih hnext)

/-- A token that was asked for has been read. -/
theorem next_of_ask (h : l.ask .next = ⟨.token t, next⟩) : l.next = (.ok t, next) := by
  unfold ask at h
  dsimp only at h
  split at h
  · next heq =>
    cases h
    exact heq
  · cases h

/-- What a lexer has read it remembers. -/
theorem last_of_next (hrewound : l.rewound = false) (hnext : l.next = (.ok t, next)) :
    next.last = some t := by
  rw [next_of_not_rewound hrewound] at hnext
  exact (scan_ok hnext).2

/-- **What has been read and what is left are the whole text**, and nothing is un-read. -/
theorem Reads.whole (h : l.Reads ls last) (hrewound : l.rewound = false) :
    last.position + last.rest.length = l.position + l.rest.length ∧ last.rewound = false := by
  induction h with
  | nil l => exact ⟨rfl, hrewound⟩
  | @cons l next last t ls hnext hkind _ ih =>
    obtain ⟨hscan, hrewound'⟩ := scan_of_next hrewound hnext hkind
    obtain ⟨gap, tail, htext, -, -, hstop, hfronts⟩ := Scan.spans_of_next hscan
    obtain ⟨hwhole, hlast⟩ := ih hrewound'
    have hlength := congrArg List.length (htext.trans (congrArg (gap ++ ·) hfronts.text_eq))
    simp only [List.length_append] at hlength
    exact ⟨by omega, hlast⟩

/-- **The token read last** is the last one that has been read. -/
theorem Reads.last_mem (h : l.Reads ls last) (hrewound : l.rewound = false) :
    last = l ∨ ∃ t, last.last = some t ∧ ⟨t, last.tokenStart, last.position⟩ ∈ ls := by
  induction h with
  | nil l => exact .inl rfl
  | @cons l next last t ls hnext hkind _ ih =>
    obtain ⟨-, hrewound'⟩ := scan_of_next hrewound hnext hkind
    obtain rfl | ⟨u, hlast, hmem⟩ := ih hrewound'
    · exact .inr ⟨t, last_of_next hrewound hnext, List.mem_cons_self⟩
    · exact .inr ⟨u, hlast, List.mem_cons_of_mem _ hmem⟩

/-- **The end of the input is met behind the last character.** -/
theorem Reads.ending (h : (ofSource source).Reads ls mid) (hnext : mid.next = (.ok t, next))
    (ht : t.kind = .endOfInput) :
    t = .ending ∧ next.last = some .ending ∧ next.tokenStart = source.length ∧
      next.position = source.length := by
  obtain ⟨hwhole, hrewound⟩ := h.whole rfl
  rw [next_of_not_rewound hrewound] at hnext
  unfold scan at hnext
  split at hnext
  · next hscan =>
    cases hnext
    exact absurd ht (Scan.lexical_of_next hscan).kind_ne_endOfInput
  · next offset hscan =>
    cases hnext
    have hoffset : offset = source.length := by
      rw [(Scan.blank_of_next hscan).2, hwhole]
      exact Nat.zero_add _
    exact ⟨rfl, rfl, hoffset, hoffset⟩
  · cases hnext

end Lexer

/-! ## §2 Where a token stands -/

/-- **A source has a token** at an offset, which takes up some characters: one that is read there, and
the characters there are those of the token, with the quotes if it is a string; or the end of the
input, behind the last character. -/
inductive Token.StandsIn (source : String) : Token → Nat → Nat → Prop
  | read {ls : List Lexeme} {last : Lexer} {t : Token} {start width : Nat} :
      (Lexer.ofSource source).Reads ls last → ⟨t, start, start + width⟩ ∈ ls →
      slice source.toList start (start + width) = t.written → t.written.length = width →
      StandsIn source t start width
  | ending {ls : List Lexeme} {last : Lexer} : (Lexer.ofSource source).Reads ls last →
      last.next.1 = .ok .ending → StandsIn source .ending source.length 1

/-- **A source with a token of it underlined**: the source, and on a line below it blanks up to the
token and carets under all its characters. -/
def Token.UnderlinedIn (source : String) (t : Token) (context : String) : Prop :=
  ∃ start width, t.StandsIn source start width ∧
    context = source ++ "\n" ++ .ofList (List.replicate start ' ' ++ List.replicate width '^')

namespace Lexer

variable {l last : Lexer} {ls : List Lexeme} {t : Token} {source : String}

/-- A token that has been read stands where it was read, and is a character wide at least. -/
theorem Reads.standsIn (h : (ofSource source).Reads ls last) {x : Lexeme} (hx : x ∈ ls) :
    x.token.StandsIn source x.start (max (x.stop - x.start) 1) := by
  obtain ⟨all, halt, offset, hall, htiled, hhalts⟩ :=
    @exists_reads source.toList (ofSource source) rfl (Nat.zero_le _) rfl
  have hmem : x ∈ all := (hall.isPrefix hhalts.last h).subset hx
  obtain ⟨-, hwide, -⟩ := htiled.inside x hmem
  obtain ⟨-, hlength⟩ := htiled.drop_start hmem
  have hwidth : max (x.stop - x.start) 1 = x.stop - x.start := by omega
  have hstop : x.start + (x.stop - x.start) = x.stop := by omega
  rw [hwidth]
  refine .read h (by rwa [hstop]) ?_ hlength
  rw [hstop]
  exact htiled.written x hmem

/-! ## §3 The token read last -/

/-- **Plain reading has read the tokens up to where the lexer stands**, or the end of the input behind
them. -/
theorem reads_plainly {n : Nat} (hopen : stopped ((ofSource source).plainly n) = false) :
    ∃ ls l, (ofSource source).Reads ls l ∧
      ((ofSource source).after ((ofSource source).plainly n) = l ∨
        l.next = (.ok .ending, (ofSource source).after ((ofSource source).plainly n))) := by
  induction n with
  | zero => exact ⟨[], _, .nil _, .inl rfl⟩
  | succ n ih =>
    have hn := stopped_tail hopen
    have hrewound := rewound_plainly (fresh_ofSource source) hn
    obtain ⟨ls, l, hreads, hstands⟩ := ih hn
    rw [plainly_succ hn] at hopen ⊢
    generalize (ofSource source).after ((ofSource source).plainly n) = now at *
    obtain rfl | hending := hstands
    · obtain ⟨t, next, hask, -⟩ | ⟨e, next, hask⟩ := ask_next_cases hrewound
      · have hnext := next_of_ask hask
        rw [hask]
        by_cases ht : t.kind = .endOfInput
        · obtain ⟨rfl, -⟩ := hreads.ending hnext ht
          exact ⟨ls, now, hreads, .inr hnext⟩
        · exact ⟨_, next, hreads.snoc hnext ht, .inl rfl⟩
      · rw [hask] at hopen
        cases hopen
    · -- behind the end of the input the lexer stays where it is
      have hscan := (next_of_not_rewound (hreads.whole rfl).2).symm.trans hending
      rw [(atEnd_of_scan hscan rfl).ask_next hrewound]
      exact ⟨ls, l, hreads, .inr hending⟩

/-- **Where plain reading stands, the token read last stands in the source.** -/
theorem standsIn_of_plainly {n : Nat} (hopen : stopped ((ofSource source).plainly n) = false)
    (hl : (ofSource source).after ((ofSource source).plainly n) = l) (hlast : l.last = some t) :
    t.StandsIn source l.tokenStart (max (l.position - l.tokenStart) 1) := by
  obtain ⟨ls, now, hreads, rfl | hending⟩ := reads_plainly hopen
  · rw [hl] at hreads
    obtain rfl | ⟨u, hu, hmem⟩ := hreads.last_mem rfl
    · cases hlast
    · cases hlast.symm.trans hu
      exact hreads.standsIn hmem
  · rw [hl] at hending
    obtain ⟨-, hend, hstart, hstop⟩ := hreads.ending hending rfl
    cases hlast.symm.trans hend
    rw [hstart, hstop, Nat.sub_self]
    exact .ending hreads (congrArg Prod.fst hending)

end Lexer

namespace Descent

variable {source : String} {d : Descent} {t : Token} {place : Excerpt}

/-- **A lexer in use stands where plain reading has come to**, but for the token that is un-read. -/
theorem Within.plainly (h : d.Within source) :
    ∃ n, Lexer.stopped ((Lexer.ofSource source).plainly n) = false ∧
      (Lexer.ofSource source).after ((Lexer.ofSource source).plainly n) =
        { d.lexer with rewound := false } := by
  have hsame := Lexer.firsts_eq_plainly (Lexer.fresh_ofSource source) d.calls
  refine ⟨(Lexer.firsts ((Lexer.ofSource source).dialogue d.calls)).length, ?_⟩
  rw [← hsame, h.lexer]
  cases h.stance with
  | silent hfirsts _ hafter =>
    rw [hfirsts, hafter]
    exact ⟨rfl, rfl⟩
  | given hfirsts hrewound _ _ hafter | taken hfirsts hrewound _ _ hafter =>
    rw [hfirsts, hafter]
    exact ⟨rfl, by rw [← hrewound]; rfl⟩

/-- **A lexer that points at a token underlines it.** -/
theorem PointsAt.underlined (h : d.PointsAt source t place) :
    t.UnderlinedIn source place.render := by
  obtain ⟨n, hopen, hafter⟩ := h.within.plainly
  have hstands := Lexer.standsIn_of_plainly hopen hafter h.last
  refine ⟨_, _, hstands, ?_⟩
  rw [h.excerpt, Lexer.excerpt, h.within.source_eq]
  rfl

end Descent

/-! ## §4 The law -/

open Descent in
/-- **Errors point at the tokens that they name.** A source that cannot be read, as a rule body or as an
expression, is not read by the readers that ask a lexer either, and they meet the error where the lexer
points. A token that does not belong where it is, or does not go on with a call, is the token that the
lexer has read last, and it is the one that the error shows, underlined, and names in its wording; and
so is the number that cannot be read. -/
theorem errors_point_at_tokens {source : String} {e : ParseError}
    (h : Expr.read source = .error e ∨ Expr.readFront source = .error e) :
    ∃ steps d, (Reader.program steps (ofSource source) = .fail e d ∨
        Reader.expression steps (ofSource source) = .fail e d) ∧
      (∀ found wanted place, e = .unexpectedToken found wanted place →
        d.lexer.last = some found ∧ d.lexer.excerpt = place ∧
          found.UnderlinedIn source place.render ∧
          e.message = "unexpected " ++ found.display ++ ", expected " ++ wanted ++ "\n" ++
            place.render) ∧
      (∀ name found place, e = .malformedCall name found place →
        d.lexer.last = some found ∧ d.lexer.excerpt = place ∧
          found.UnderlinedIn source place.render ∧
          e.message = "malformed call to '" ++ name ++ "': expected ',' or ')', got " ++
            found.display ++ "\n" ++ place.render) ∧
      ∀ lexeme place, e = .invalidNumber lexeme place →
        ∃ t : Token, t.kind = .number ∧ t.lexeme = lexeme ∧
          d.lexer.last = some t ∧ d.lexer.excerpt = place ∧ t.UnderlinedIn source place.render ∧
          e.message = "invalid number '" ++ lexeme ++ "'\n" ++ place.render := by
  have hfail : ∃ steps d, (Reader.program steps (ofSource source) = .fail e d ∨
      Reader.expression steps (ofSource source) = .fail e d) ∧ d.Blames source e := by
    obtain h | h := h
    · obtain ⟨steps, d, hread, hblames⟩ := fail_of_read h
      exact ⟨steps, d, .inl hread, hblames⟩
    · obtain ⟨steps, d, hread, hblames⟩ := fail_of_readFront h
      exact ⟨steps, d, .inr hread, hblames⟩
  obtain ⟨steps, d, hread, hblames⟩ := hfail
  refine ⟨steps, d, hread, ?_, ?_, ?_⟩
  · rintro found wanted place rfl
    exact ⟨hblames.last, hblames.excerpt.symm, hblames.underlined, rfl⟩
  · rintro name found place rfl
    exact ⟨hblames.last, hblames.excerpt.symm, hblames.underlined, rfl⟩
  · rintro lexeme place rfl
    obtain ⟨t, hlexeme, hkind, hpoints⟩ := hblames
    exact ⟨t, hkind, hlexeme, hpoints.last, hpoints.excerpt.symm, hpoints.underlined, rfl⟩

/-- A parenthesis that closes nothing, a string where a comma was wanted, the end of the input where an
expression was, and a number with two points. -/
theorem four_tokens_underlined :
    (Expr.read "a + )" =
        .error (.unexpectedToken ⟨.closeParen, ")"⟩ "expression" ⟨"a + )", 4, 1⟩) ∧
      Token.UnderlinedIn "a + )" ⟨.closeParen, ")"⟩ "a + )\n    ^") ∧
      (Expr.read "f(1 \"x\")" = .error (.malformedCall "f" ⟨.string, "x"⟩ ⟨"f(1 \"x\")", 4, 3⟩) ∧
        Token.UnderlinedIn "f(1 \"x\")" ⟨.string, "x"⟩ "f(1 \"x\")\n    ^^^") ∧
      (Expr.read "a = " = .error (.unexpectedToken .ending "expression" ⟨"a = ", 4, 1⟩) ∧
        Token.UnderlinedIn "a = " .ending "a = \n    ^") ∧
      Expr.readFront "1.2.3" = .error (.invalidNumber "1.2.3" ⟨"1.2.3", 0, 5⟩) ∧
      Token.UnderlinedIn "1.2.3" ⟨.number, "1.2.3"⟩ "1.2.3\n^^^^^" := by
  have hparen : Expr.read "a + )" =
      .error (.unexpectedToken ⟨.closeParen, ")"⟩ "expression" ⟨"a + )", 4, 1⟩) := rfl
  have hstring : Expr.read "f(1 \"x\")" =
      .error (.malformedCall "f" ⟨.string, "x"⟩ ⟨"f(1 \"x\")", 4, 3⟩) := rfl
  have hend : Expr.read "a = " =
      .error (.unexpectedToken .ending "expression" ⟨"a = ", 4, 1⟩) := rfl
  have hnumber : Expr.readFront "1.2.3" = .error (.invalidNumber "1.2.3" ⟨"1.2.3", 0, 5⟩) := rfl
  obtain ⟨_, _, _, hunexpected, -, -⟩ := errors_point_at_tokens (.inl hparen)
  obtain ⟨_, _, _, -, hmalformed, -⟩ := errors_point_at_tokens (.inl hstring)
  obtain ⟨_, _, _, hended, -, -⟩ := errors_point_at_tokens (.inl hend)
  obtain ⟨_, _, _, -, -, hinvalid⟩ := errors_point_at_tokens (.inr hnumber)
  obtain ⟨t, hkind, hlexeme, -, -, hunderlined, -⟩ := hinvalid _ _ rfl
  obtain rfl : t = ⟨.number, "1.2.3"⟩ := by rw [← hkind, ← hlexeme]
  exact ⟨⟨hparen, (hunexpected _ _ _ rfl).2.2.1⟩, ⟨hstring, (hmalformed _ _ _ rfl).2.2.1⟩,
    ⟨hend, (hended _ _ _ rfl).2.2.1⟩, hnumber, hunderlined⟩

end Cascade
