import Cascade.Proofs.LookAhead

/-!
# Reading ends and goes onward

A reader that uses a lexer ends if it has sixteen steps for every token, and says then what is read off
the tokens of the source. Wherever it is asked for a phrase and reads one, tokens are gone that were in
front of the lexer, and it has un-read none but those that it read itself.

§1 phrases off a list of tokens; §2 the tokens that a phrase takes; §3 the tokens of a source; §4 the
law.
-/

namespace Cascade

/-! ## §1 Phrases off a list of tokens -/

namespace Descent

variable {source : String} {d : Descent} {ts : Tokens}

/-- A phrase as it is read off a list of tokens. -/
def Phrase.parse (source : String) (steps : Nat) : Phrase → Parse Expr
  | sequence => Parse.sequence source steps
  | statement => Parse.statement source steps
  | block => Parse.block source (Parse.blockItems source steps)
  | expression => Parse.expression source steps
  | binary level => Parse.binary source level steps
  | term => Parse.term source steps
  | call name => Parse.call name (Parse.arguments source name steps)
  | ifForm => Parse.ifForm source (Parse.expression source steps) (Parse.statement source steps)
  | edgeIfForm => Parse.edgeIfForm source (Parse.expression source steps) (Parse.statement source steps)
  | atForm => Parse.atForm source (Parse.expression source steps) (Parse.statement source steps)

theorem Phrase.mirrors {more : Prop} {n m : Nat} (hall : AllMirror source more n m) (phrase : Phrase)
    (h : d.Faces source ts) :
    Mirrors source more (phrase.reader m) (phrase.parse source n) d ts := by
  cases phrase with
  | sequence => exact hall.sequence h
  | statement => exact hall.statement h
  | block => exact block_mirrors h hall.blockItems
  | expression => exact hall.expression h
  | binary level => exact hall.binary level h
  | term => exact hall.term h
  | call name => exact call_mirrors h name (hall.arguments name)
  | ifForm => exact ifForm_mirrors h hall.expression hall.statement
  | edgeIfForm => exact edgeIfForm_mirrors h hall.expression hall.statement
  | atForm => exact atForm_mirrors h hall.expression hall.statement

theorem program_mirrors {more : Prop} {n m : Nat} (hall : AllMirror source more n m)
    (h : d.Faces source ts) :
    Mirrors source more (Reader.program m) (Parse.program source n) d ts := by
  refine (hall.sequence h).bind fun e d₁ _ h₁ => ?_
  exact .expect h₁ fun _ d₂ _ _ h₂ => .pure h₂ e

/-- **With as many steps** both reply alike. -/
theorem Mirrors.replies {q : Reader α} {p : Parse α} (h : Mirrors source False q p d ts) :
    (∃ a rest d', p ts = .ok a rest ∧ q d = .ok a d' ∧ Comes source d ts d' rest) ∨
      (∃ e d', p ts = .fail e ∧ q d = .fail e d' ∧ d'.Blames source e) ∨
      (p ts = .starved ∧ q d = .starved) := by
  unfold Mirrors at h
  cases hp : p ts with
  | ok a rest =>
    rw [hp] at h
    obtain ⟨d', hq, hcomes⟩ := h
    exact .inl ⟨a, rest, d', rfl, hq, hcomes⟩
  | fail e =>
    rw [hp] at h
    obtain ⟨d', hq, hblames⟩ := h
    exact .inr (.inl ⟨e, d', rfl, hq, hblames⟩)
  | starved =>
    rw [hp] at h
    exact .inr (.inr ⟨rfl, h.resolve_left id⟩)

/-- Where there are steps enough, both say the same. -/
theorem Mirrors.result_eq {more : Prop} {q : Reader α} {p : Parse α}
    (h : Mirrors source more q p d ts) (hp : p ts ≠ .starved) :
    (q d).result = some ((p ts).outcome hp) := by
  unfold Mirrors at h
  generalize p ts = reply at h hp
  cases reply with
  | ok a rest =>
    obtain ⟨d', hq, -⟩ := h
    rw [hq]
    rfl
  | fail e =>
    obtain ⟨d', hq, -⟩ := h
    rw [hq]
    rfl
  | starved => exact absurd rfl hp

/-- An error is met where it points. -/
theorem Mirrors.fail_of_outcome {more : Prop} {q : Reader α} {p : Parse α} {e : ParseError}
    (h : Mirrors source more q p d ts) (hp : p ts ≠ .starved) (he : (p ts).outcome hp = .error e) :
    ∃ d', q d = .fail e d' ∧ d'.Blames source e := by
  unfold Mirrors at h
  generalize p ts = reply at h hp he
  cases reply with
  | ok a rest => cases he
  | fail e' =>
    cases he
    exact h
  | starved => exact absurd rfl hp

end Descent

/-! ## §2 The tokens that a phrase takes -/

namespace Parse

variable {source : String} {ts : Tokens}

/-- An expected token is taken, unless it is the end of the input that is expected. -/
theorem takes_expect_one {kind : Token.Kind} (hkind : kind ≠ .endOfInput) (ts : Tokens) :
    Takes (expect source kind) 1 ts := by
  cases hx : ts.peek with
  | ok x =>
    by_cases h : x.token.kind = kind
    · refine takes_bind (takes_advance_of_peek hx (h ▸ hkind)) fun y rest hy _ => ?_
      split
      · exact takes_pure _ _
      · exact takes_unexpected ..
    · have hp : expect source kind ts =
          .fail (.unexpectedToken x.token kind.display (x.excerpt source)) := by
        rw [expect, bind_advance hx, if_neg h]
        rfl
      exact takes_of_fail hp
  | error e => exact takes_of_fail (bind_of_fail (advance_of_broken hx))

theorem takes_block {items : Parse (List Expr)}
    (hitems : ∀ rest : Tokens, rest.length ≤ ts.length → Takes items 1 rest) :
    Takes (block source items) 1 ts := by
  refine takes_bind (takes_expect_one (by decide) ts) fun _ r₁ _ h₁ => ?_
  refine takes_bind (takes_nextIs _ r₁) fun _ r₂ _ h₂ => ?_
  split
  · exact takes_bind (takes_advance r₂) fun _ _ _ _ => takes_pure _ _
  · exact (takes_bind_pure (hitems r₂ (by omega))).mono (by omega)

theorem takes_call (name : String) {arguments : Parse (List Expr)}
    (harguments : Takes arguments 1 ts) : Takes (call name arguments) 1 ts := by
  refine takes_bind (takes_nextIs _ ts) fun b r₁ hb h₁ => ?_
  split
  · next hclose =>
    -- a parenthesis that has been looked at is there to be taken
    subst hclose
    obtain ⟨rfl, x, hx, hkind⟩ := nextIs_true hb
    refine takes_bind (takes_advance_of_peek hx (by rw [hkind]; decide)) fun _ _ _ _ => ?_
    exact takes_pure _ _
  · obtain rfl : r₁ = ts := by
      obtain ⟨x, -, hpure⟩ := ok_of_peek hb
      cases hpure
      rfl
    exact takes_bind_pure harguments

section Forms

variable {test branch : Parse Expr} (htest : Takes test 1 ts)
  (hbranch : ∀ rest : Tokens, rest.length ≤ ts.length → Takes branch 1 rest)
include htest hbranch

theorem takes_ifForm : Takes (ifForm source test branch) 1 ts := by
  refine takes_bind htest fun _ r₁ _ h₁ => ?_
  refine takes_bind (takes_expect source _ r₁) fun _ r₂ _ h₂ => ?_
  refine takes_bind (hbranch r₂ (by omega)) fun _ r₃ _ h₃ => ?_
  refine takes_bind (takes_nextIs _ r₃) fun _ r₄ _ h₄ => ?_
  split
  · refine takes_bind (takes_advance r₄) fun _ r₅ _ h₅ => ?_
    exact (takes_bind_pure (hbranch r₅ (by omega))).mono (by omega)
  · exact takes_pure _ _

theorem takes_edgeIfForm : Takes (edgeIfForm source test branch) 1 ts := by
  refine takes_bind htest fun _ r₁ _ h₁ => ?_
  refine takes_bind (takes_expect source _ r₁) fun _ r₂ _ h₂ => ?_
  refine takes_bind (hbranch r₂ (by omega)) fun _ r₃ _ h₃ => ?_
  refine takes_bind (takes_expect source _ r₃) fun _ r₄ _ h₄ => ?_
  exact (takes_bind_pure (hbranch r₄ (by omega))).mono (by omega)

theorem takes_atForm : Takes (atForm source test branch) 1 ts := by
  refine takes_bind htest fun _ r₁ _ h₁ => ?_
  refine takes_bind (takes_expect source _ r₁) fun _ r₂ _ h₂ => ?_
  exact (takes_bind_pure (hbranch r₂ (by omega))).mono (by omega)

end Forms

end Parse

namespace Descent

open Parse (Takes reads)

variable {source : String} {d d' : Descent} {steps : Nat} {e : Expr}

/-- **A phrase takes a token**, and it is read with sixteen steps for each of the tokens. -/
theorem Phrase.takes (source : String) (phrase : Phrase) {ts : Tokens} {steps : Nat}
    (h : Parse.steps ts.length ≤ steps) : Takes (phrase.parse source steps) 1 ts := by
  unfold Parse.steps at h
  have hall := reads source steps
  cases phrase with
  | sequence => exact hall.sequence ts (by omega)
  | statement => exact hall.statement ts (by omega)
  | block => exact Parse.takes_block fun rest _ => hall.blockItems rest (by omega)
  | expression => exact hall.expression ts (by omega)
  | binary level =>
    have := level.rank_le
    exact hall.binary level ts (by omega)
  | term => exact hall.term ts (by omega)
  | call name => exact Parse.takes_call name (hall.arguments name ts (by omega))
  | ifForm =>
    exact Parse.takes_ifForm (hall.expression ts (by omega)) fun rest _ =>
      hall.statement rest (by omega)
  | edgeIfForm =>
    exact Parse.takes_edgeIfForm (hall.expression ts (by omega)) fun rest _ =>
      hall.statement rest (by omega)
  | atForm =>
    exact Parse.takes_atForm (hall.expression ts (by omega)) fun rest _ =>
      hall.statement rest (by omega)

/-- A lexer in use faces what is in front of it. -/
theorem Within.faces (h : d.Within source) : d.Faces source d.lexer.ahead := ⟨h, rfl⟩

/-- A phrase with as many steps on both sides. -/
theorem Phrase.replies (phrase : Phrase) (steps : Nat) (hd : d.Within source) :
    (∃ a rest d', phrase.parse source steps d.lexer.ahead = .ok a rest ∧
        phrase.reader steps d = .ok a d' ∧ Comes source d d.lexer.ahead d' rest) ∨
      (∃ e d', phrase.parse source steps d.lexer.ahead = .fail e ∧
        phrase.reader steps d = .fail e d' ∧ d'.Blames source e) ∨
      (phrase.parse source steps d.lexer.ahead = .starved ∧ phrase.reader steps d = .starved) :=
  (phrase.mirrors (allMirror source (.inr rfl) steps) hd.faces).replies

/-- **A phrase that was read is read off the tokens too**, with as many steps. -/
theorem Phrase.comes_of_ok (phrase : Phrase) (hd : d.Within source)
    (h : phrase.reader steps d = .ok e d') :
    ∃ rest, phrase.parse source steps d.lexer.ahead = .ok e rest ∧
      Comes source d d.lexer.ahead d' rest := by
  obtain ⟨a, rest, d₂, hparse, hread, hcomes⟩ | ⟨_, _, -, hread, -⟩ | ⟨-, hread⟩ :=
    phrase.replies steps hd <;> cases h.symm.trans hread
  exact ⟨rest, hparse, hcomes⟩

/-- **A phrase that was read has taken a token**, however many steps there were. -/
theorem Phrase.onward (phrase : Phrase) (hd : d.Within source)
    (h : phrase.reader steps d = .ok e d') :
    ∃ rest, Comes source d d.lexer.ahead d' rest ∧ rest.length < d.lexer.ahead.length := by
  obtain ⟨rest, hparse, hcomes⟩ := phrase.comes_of_ok hd h
  refine ⟨rest, hcomes, ?_⟩
  -- more steps make no difference, and with more steps than it needs it takes a token
  have hall : AllMirror source True steps (steps + Parse.steps d.lexer.ahead.length) :=
    allMirror source (.inl trivial) steps
  have hmore := phrase.mirrors hall hd.faces
  unfold Mirrors at hmore
  rw [hparse] at hmore
  obtain ⟨d₂, hread, hcomes₂⟩ := hmore
  obtain ⟨rest₂, hparse₂, hcomes₃⟩ := phrase.comes_of_ok hd hread
  have hrest : rest = rest₂ := hcomes₂.faces.ahead.symm.trans hcomes₃.faces.ahead
  have htakes := phrase.takes source (Nat.le_add_left (Parse.steps d.lexer.ahead.length) steps)
  rw [Parse.takes_iff_of_ok hparse₂] at htakes
  rw [hrest]
  exact htakes

/-- With steps enough a phrase is read, or an error is met. -/
theorem Phrase.ne_starved (phrase : Phrase) (hd : d.Within source)
    (h : Parse.steps d.lexer.ahead.length ≤ steps) : phrase.reader steps d ≠ .starved := by
  intro hstarved
  obtain ⟨_, _, _, -, hread, -⟩ | ⟨_, _, -, hread, -⟩ | ⟨hparse, -⟩ := phrase.replies steps hd
  · cases hstarved.symm.trans hread
  · cases hstarved.symm.trans hread
  · exact Parse.not_takes_of_starved hparse (phrase.takes source h)

/-- A phrase meets an error where the error points. -/
theorem Phrase.blames (phrase : Phrase) (hd : d.Within source) {e : ParseError}
    (h : phrase.reader steps d = .fail e d') : d'.Blames source e := by
  obtain ⟨_, _, _, -, hread, -⟩ | ⟨_, _, -, hread, hblames⟩ | ⟨-, hread⟩ :=
    phrase.replies steps hd <;> cases h.symm.trans hread
  exact hblames

end Descent

/-! ## §3 The tokens of a source -/

/-- A text has no more tokens than characters. -/
theorem Tokens.length_scan_le (fuel offset : Nat) (text : List Char) :
    (scan offset text fuel).length ≤ text.length := by
  induction fuel generalizing offset text with
  | zero => exact Nat.zero_le _
  | succ fuel ih =>
    unfold scan
    split
    · next t start stop rest hscan =>
      have hrest := Scan.next_rest_lt hscan
      have := ih stop rest
      simp only [length]
      omega
    · exact Nat.zero_le _
    · exact Nat.zero_le _

theorem Tokens.length_ofSource_le (source : String) : (ofSource source).length ≤ source.length :=
  length_scan_le _ 0 source.toList

namespace Descent

variable {source : String} {e : ParseError}

/-- **A source is read off a lexer as it is read off its tokens.** -/
theorem result_eq_read {steps : Nat} (h : Parse.steps source.length ≤ steps) :
    (Reader.program steps (ofSource source)).result = some (Expr.read source) ∧
      (Reader.expression steps (ofSource source)).result = some (Expr.readFront source) := by
  have hlength := Tokens.length_ofSource_le source
  unfold Parse.steps at h
  obtain ⟨k, rfl⟩ := Nat.exists_eq_add_of_le
    (show Parse.steps (Tokens.ofSource source).length ≤ steps by unfold Parse.steps; omega)
  have hall : AllMirror source True _ (Parse.steps (Tokens.ofSource source).length + k) :=
    allMirror source (.inl trivial) _
  exact ⟨(program_mirrors hall (faces_ofSource source)).result_eq (Parse.program_ne_starved source _),
    (hall.expression (faces_ofSource source)).result_eq (Parse.expression_ne_starved source _)⟩

/-- **An error of a source is met off a lexer**, where it points. -/
theorem fail_of_read (h : Expr.read source = .error e) :
    ∃ steps d, Reader.program steps (ofSource source) = .fail e d ∧ d.Blames source e :=
  have hall : AllMirror source False _ _ := allMirror source (.inr rfl) _
  ⟨_, (program_mirrors hall (faces_ofSource source)).fail_of_outcome
    (Parse.program_ne_starved source _) h⟩

theorem fail_of_readFront (h : Expr.readFront source = .error e) :
    ∃ steps d, Reader.expression steps (ofSource source) = .fail e d ∧ d.Blames source e :=
  have hall : AllMirror source False _ _ := allMirror source (.inr rfl) _
  ⟨_, (hall.expression (faces_ofSource source)).fail_of_outcome
    (Parse.expression_ne_starved source _) h⟩

end Descent

/-! ## §4 The law -/

open Descent in
/-- **Reading ends, goes onward and never trips over its look-ahead.** With sixteen steps for every
character and sixteen more, the readers that ask a lexer for the tokens of a source say what the source
is read as, be it a tree or an error. Whatever phrase they are asked for wherever they stand: with
steps for the tokens in front they come to an end; if they have read the phrase, fewer tokens are in
front, they have made more readings than un-readings, and at no moment since they began had they
un-read more than they had read; and no error is about an un-reading. -/
theorem descent_ends (source : String) :
    (∀ steps, Parse.steps source.length ≤ steps →
      (Reader.program steps (ofSource source)).result = some (Expr.read source) ∧
        (Reader.expression steps (ofSource source)).result = some (Expr.readFront source)) ∧
      (∀ (phrase : Phrase) (steps : Nat) (d : Descent), d.Within source →
        (Parse.steps d.lexer.ahead.length ≤ steps → phrase.reader steps d ≠ .starved) ∧
          (∀ e d', phrase.reader steps d = .ok e d' →
            d'.Within source ∧ d'.lexer.ahead.length < d.lexer.ahead.length ∧
              ∃ calls, d'.calls = calls ++ d.calls ∧ Onward calls ∧
                calls.count .rewind < calls.count .next) ∧
          ∀ e d', phrase.reader steps d = .fail e d' → e ≠ .lex .rewindUnavailable) ∧
      Expr.read source ≠ .error (.lex .rewindUnavailable) ∧
      Expr.readFront source ≠ .error (.lex .rewindUnavailable) := by
  refine ⟨fun steps h => result_eq_read h, fun phrase steps d hd =>
    ⟨phrase.ne_starved hd, fun e d' h => ?_, fun e d' h => ?_⟩, fun h => ?_, fun h => ?_⟩
  · obtain ⟨rest, hcomes, hlength⟩ := phrase.onward hd h
    obtain ⟨calls, hcalls, honward, hcount⟩ := hcomes.calls
    exact ⟨hcomes.faces.within, hcomes.faces.ahead ▸ hlength, calls, hcalls, honward, by omega⟩
  · rintro rfl
    exact phrase.blames hd h rfl
  · obtain ⟨steps, d, -, hblames⟩ := fail_of_read h
    exact hblames rfl
  · obtain ⟨steps, d, -, hblames⟩ := fail_of_readFront h
    exact hblames rfl

end Cascade
