import Cascade.Expr.Descent
import Cascade.Proofs.Readers
import Cascade.Proofs.Rewinding

/-!
# A lexer in place of a list of tokens

Reading an expression straight off a lexer, which is un-read to look ahead, comes to the same as
reading it off the list of the tokens of its source: the same trees, the same errors with the same
excerpts, and the same tokens left.

Where both succeed, the lexer has un-read nothing but what it was read just before; where both fail, it
has just read the token that the error is about. That readers end is carried over from the tokens in
`Proofs.Onward`, and what errors show is told in `Proofs.Pointing`.

§1 what is in front of a lexer; §2 reading and looking; §3 one reader beside another; §4 the forms;
§5 one more step; §6 all readers.
-/

namespace Cascade

/-! ## §1 What is in front of a lexer -/

namespace Lexer

/-- **The tokens in front of a lexer**: the one that was un-read, if one was, and those that are
scanned from where it stands. -/
def ahead (l : Lexer) : Tokens :=
  match l.rewound, l.last with
  | true, some t =>
    if t.kind = .endOfInput then .ended l.tokenStart
    else .cons ⟨t, l.tokenStart, l.position⟩ (.scan l.position l.rest (l.rest.length + 1))
  | _, _ => .scan l.position l.rest (l.rest.length + 1)

variable {l : Lexer}

theorem ahead_of_not_rewound (h : l.rewound = false) :
    l.ahead = .scan l.position l.rest (l.rest.length + 1) := by
  unfold ahead
  rw [h]

theorem AtEnd.ahead_eq (h : l.AtEnd) : l.ahead = .ended l.position := by
  unfold ahead
  rw [h.last, h.rest, h.place]
  cases l.rewound <;> rfl

/-- The end of the input stays in front of a lexer that un-reads it. -/
theorem AtEnd.ahead_rewound (h : l.AtEnd) : ahead { l with rewound := true } = .ended l.position :=
  AtEnd.ahead_eq (l := { l with rewound := true }) ⟨h.last, h.rest, h.place⟩

theorem ahead_rewound {t : Token} (hlast : l.last = some t) (ht : t.kind ≠ .endOfInput) :
    ahead { l with rewound := true } =
      .cons ⟨t, l.tokenStart, l.position⟩ (.scan l.position l.rest (l.rest.length + 1)) := by
  simp only [ahead, hlast, if_neg ht]

/-- **The lexer reads a token** that was in front of it. -/
structure Gives (l : Lexer) (x : Lexeme) (l' : Lexer) : Prop where
  next : l.next = (.ok x.token, l')
  rewound : l'.rewound = false
  last : l'.last = some x.token
  ahead : l'.ahead = l.ahead.tail
  back : Lexer.ahead { l' with rewound := true } = l.ahead
  excerpt : l'.excerpt = x.excerpt l.source

/-- What is scanned was in front of the lexer. -/
theorem gives_of_peek (hrewound : l.rewound = false) {x : Lexeme} (hx : l.ahead.peek = .ok x) :
    ∃ l', l.Gives x l' := by
  -- one scan decides both what is in front and what is read
  have hahead := ahead_of_not_rewound hrewound
  have hnext := next_of_not_rewound hrewound
  rw [hahead] at hx
  rw [Tokens.scan] at hahead hx
  unfold scan at hnext
  split at hahead
  · next t start stop rest hscan =>
    rw [hscan] at hnext hx
    cases hx
    have hkind := (Scan.lexical_of_next hscan).kind_ne_endOfInput
    have hfuel : Tokens.scan stop rest l.rest.length = .scan stop rest (rest.length + 1) :=
      Tokens.scan_eq_of_length_lt _ _ (Scan.next_rest_lt hscan) (Nat.lt_succ_self _)
    refine ⟨_, hnext, hrewound, rfl, ?_, ?_, rfl⟩
    · have hnew := ahead_of_not_rewound
        (l := { l with rest, position := stop, tokenStart := start, last := some t }) hrewound
      rw [hahead, hnew]
      exact hfuel.symm
    · rw [hahead, ahead_rewound rfl hkind, hfuel]
  · next offset hscan =>
    rw [hscan] at hnext hx
    cases hx
    have hend : AtEnd { l with
        rest := [], position := offset, tokenStart := offset, last := some .ending } :=
      ⟨rfl, rfl, rfl⟩
    refine ⟨_, hnext, hrewound, rfl, ?_, ?_, rfl⟩
    · rw [hahead]
      exact hend.ahead_eq
    · rw [hahead]
      exact hend.ahead_rewound
  · next e start stop rest hscan =>
    rw [hscan] at hx
    cases hx

/-- What was un-read is read again. -/
theorem gives_again {t : Token} (hrewound : l.rewound = false) (hlast : l.last = some t)
    (hend : t.kind = .endOfInput → l.AtEnd) {x : Lexeme}
    (hx : (ahead { l with rewound := true }).peek = .ok x) :
    Gives { l with rewound := true } x l := by
  by_cases ht : t.kind = .endOfInput
  · have hAtEnd := hend ht
    have hback := hAtEnd.ahead_rewound
    rw [hback] at hx
    cases hx
    refine ⟨next_of_last hAtEnd.last hrewound, hrewound, hAtEnd.last, ?_, rfl, ?_⟩
    · rw [hback, hAtEnd.ahead_eq]
      rfl
    · rw [excerpt, hAtEnd.place]
      rfl
  · have hback := ahead_rewound hlast ht
    rw [hback] at hx
    cases hx
    refine ⟨next_of_last hlast hrewound, hrewound, hlast, ?_, rfl, rfl⟩
    rw [hback, ahead_of_not_rewound hrewound]
    rfl

/-- **Where no token is in front of a lexer, reading fails**, and not for want of something to
un-read. -/
theorem next_of_broken (hrewound : l.rewound = false) {e : LexError}
    (he : l.ahead.peek = .error e) : ∃ l', l.next = (.error e, l') ∧ e ≠ .rewindUnavailable := by
  have hahead := ahead_of_not_rewound hrewound
  have hnext := next_of_not_rewound hrewound
  rw [hahead, Tokens.scan] at he
  unfold scan at hnext
  split at he
  · cases he
  · cases he
  · next e' start stop rest hscan =>
    rw [hscan] at hnext
    cases he
    refine ⟨_, hnext, ?_⟩
    obtain ⟨_, _, _, _, _, _, _, hstuck⟩ := Scan.stuck_of_next hscan
    intro hrefusal
    cases hstuck <;> cases hrefusal

/-- An un-read token is in front of the lexer. -/
theorem exists_peek_of_rewound {t : Token} (hlast : l.last = some t)
    (hend : t.kind = .endOfInput → l.AtEnd) : ∃ x, (ahead { l with rewound := true }).peek = .ok x := by
  by_cases ht : t.kind = .endOfInput
  · have hAtEnd := hend ht
    have hback := hAtEnd.ahead_rewound
    exact ⟨_, by rw [hback]; rfl⟩
  · exact ⟨_, by rw [ahead_rewound hlast ht]; rfl⟩

/-- A lexer that has something un-read, or nothing. -/
theorem rewound_cases {first : Lexer} {turns : List Turn} (hfirst : first.Fresh)
    (h : Stance first turns) :
    (first.after turns).rewound = false ∨
      ∃ t l past, firsts turns = ⟨.token t, l⟩ :: past ∧ l.rewound = false ∧ l.last = some t ∧
        first.after turns = { l with rewound := true } := by
  cases h with
  | silent _ _ hafter =>
    rw [hafter]
    exact .inl hfirst.rewound
  | given _ hrewound _ _ hafter =>
    rw [hafter]
    exact .inl hrewound
  | taken hfirsts hrewound hlast _ hafter => exact .inr ⟨_, _, _, hfirsts, hrewound, hlast, hafter⟩

end Lexer

/-! ## §2 Reading and looking -/

namespace Descent

open Lexer (stopped)

/-- **A lexer in use stands as its calls say**, and reading has not failed. -/
structure Within (source : String) (d : Descent) : Prop where
  lexer : d.lexer = (Lexer.ofSource source).after ((Lexer.ofSource source).dialogue d.calls)
  open_ : stopped ((Lexer.ofSource source).dialogue d.calls) = false

variable {source : String} {d : Descent}

theorem within_ofSource (source : String) : (ofSource source).Within source := ⟨rfl, rfl⟩

theorem Within.stance (h : d.Within source) :
    Lexer.Stance (.ofSource source) ((Lexer.ofSource source).dialogue d.calls) :=
  Lexer.stance (Lexer.fresh_ofSource source) d.calls h.open_

theorem Within.source_eq (h : d.Within source) : d.lexer.source = source := by
  rw [h.lexer, Lexer.source_after]
  rfl

/-- **One more call that does what it is asked.** -/
theorem Within.ask (h : d.Within source) {call : Lexer.Call} {a : Lexer.Answer} {l : Lexer}
    (hask : d.lexer.ask call = ⟨a, l⟩) (ha : a.succeeds = true) :
    Within source ⟨l, call :: d.calls⟩ := by
  have hcons := Lexer.dialogue_cons call h.open_
  rw [← h.lexer, hask] at hcons
  constructor
  · rw [hcons]
    rfl
  · rw [hcons]
    cases a with
    | token | unread => rfl
    | failure | refusal => cases ha

/-- The end of the input as the last token. -/
theorem atEnd_of_firsts {l : Lexer} {t : Token} {calls : List Lexer.Call} {past : List Lexer.Turn}
    (h : Lexer.firsts ((Lexer.ofSource source).dialogue calls) = ⟨.token t, l⟩ :: past)
    (ht : t.kind = .endOfInput) : l.AtEnd :=
  Lexer.atEnd_of_plainly (Lexer.fresh_ofSource source)
    ((Lexer.firsts_eq_plainly (Lexer.fresh_ofSource source) calls).symm.trans h) ht

/-- **What is in front of the lexer is read next.** -/
theorem Within.gives (h : d.Within source) {x : Lexeme} (hx : d.lexer.ahead.peek = .ok x) :
    ∃ l, d.lexer.Gives x l := by
  obtain hrewound | ⟨t, l, past, hfirsts, hrewound, hlast, hafter⟩ :=
    Lexer.rewound_cases (Lexer.fresh_ofSource source) h.stance
  · rw [← h.lexer] at hrewound
    exact Lexer.gives_of_peek hrewound hx
  · rw [h.lexer, hafter] at hx ⊢
    exact ⟨l, Lexer.gives_again hrewound hlast (atEnd_of_firsts hfirsts) hx⟩

/-- **Where nothing is, reading fails.** -/
theorem Within.broken (h : d.Within source) {e : LexError} (he : d.lexer.ahead.peek = .error e) :
    ∃ l, d.lexer.next = (.error e, l) ∧ e ≠ .rewindUnavailable := by
  obtain hrewound | ⟨t, l, past, hfirsts, hrewound, hlast, hafter⟩ :=
    Lexer.rewound_cases (Lexer.fresh_ofSource source) h.stance
  · rw [← h.lexer] at hrewound
    exact Lexer.next_of_broken hrewound he
  · obtain ⟨x, hx⟩ := Lexer.exists_peek_of_rewound hlast (atEnd_of_firsts hfirsts)
    rw [h.lexer, hafter, hx] at he
    cases he

/-- **A lexer in use that has these tokens in front of it.** -/
structure Faces (source : String) (d : Descent) (ts : Tokens) : Prop where
  within : d.Within source
  ahead : d.lexer.ahead = ts

theorem faces_ofSource (source : String) : (ofSource source).Faces source (.ofSource source) :=
  ⟨within_ofSource source, rfl⟩

/-- **The lexer points at a token**: it has read it last. -/
structure PointsAt (source : String) (d : Descent) (t : Token) (place : Excerpt) : Prop where
  within : d.Within source
  last : d.lexer.last = some t
  excerpt : place = d.lexer.excerpt

/-- **Nothing is un-read that was read before**: at no moment of these calls, of which the latest comes
first, have there been more un-readings than readings. -/
def Onward (calls : List Lexer.Call) : Prop :=
  ∀ earlier, earlier <:+ calls → earlier.count .rewind ≤ earlier.count .next

theorem onward_nil : Onward [] := by
  intro earlier h
  rw [List.suffix_nil.mp h]
  exact Nat.le_refl _

theorem onward_next : Onward [.next] := by
  intro earlier h
  obtain rfl | h := List.suffix_cons_iff.mp h
  · decide
  · exact onward_nil earlier h

/-- Looking at a token un-reads just what it has read. -/
theorem onward_look : Onward [.rewind, .next] := by
  intro earlier h
  obtain rfl | h := List.suffix_cons_iff.mp h
  · decide
  · exact onward_next earlier h

theorem Onward.append {calls later : List Lexer.Call} (h : Onward calls) (h' : Onward later) :
    Onward (later ++ calls) := by
  -- a moment of both is one of the calls made first, or it has all of those behind it
  intro earlier hearlier
  obtain hin | ⟨behind, rfl⟩ :=
    List.suffix_or_suffix_of_suffix hearlier (List.suffix_append later calls)
  · exact h earlier hin
  · have hbehind : behind <:+ later := by
      obtain ⟨front, hfront⟩ := hearlier
      rw [← List.append_assoc] at hfront
      exact ⟨front, List.append_cancel_right hfront⟩
    have := h calls List.suffix_rfl
    have := h' behind hbehind
    rw [List.count_append, List.count_append]
    omega

/-- **From one state to another**: some tokens were taken, and nothing else was un-read. -/
structure Comes (source : String) (d : Descent) (ts : Tokens) (d' : Descent) (rest : Tokens) :
    Prop where
  faces : d'.Faces source rest
  calls : ∃ calls, d'.calls = calls ++ d.calls ∧ Onward calls ∧
    ts.length + calls.count .rewind ≤ rest.length + calls.count .next

section Comes

variable {d' d'' : Descent} {ts mid rest : Tokens}

theorem Comes.refl (h : d.Faces source ts) : Comes source d ts d ts :=
  ⟨h, [], rfl, onward_nil, Nat.le_refl _⟩

theorem Comes.trans (h : Comes source d ts d' mid) (h' : Comes source d' mid d'' rest) :
    Comes source d ts d'' rest := by
  obtain ⟨calls, hcalls, honward, hcount⟩ := h.calls
  obtain ⟨later, hlater, honward', hcount'⟩ := h'.calls
  refine ⟨h'.faces, later ++ calls, ?_, honward.append honward', ?_⟩
  · rw [hlater, hcalls, List.append_assoc]
  · rw [List.count_append, List.count_append]
    omega

theorem length_le_tail (ts : Tokens) : ts.length ≤ ts.tail.length + 1 := by
  cases ts with
  | ended | broken => exact Nat.zero_le _
  | cons head tail => exact Nat.le_refl _

end Comes

namespace Reader

theorem bind_of_ok {q : Reader α} {g : α → Reader β} {a : α} {d' : Descent} (h : q d = .ok a d') :
    (q >>= g) d = g a d' := by
  show bind q g d = _
  unfold bind
  rw [h]

theorem bind_of_fail {q : Reader α} {g : α → Reader β} {e : ParseError} {d' : Descent}
    (h : q d = .fail e d') : (q >>= g) d = .fail e d' := by
  show bind q g d = _
  unfold bind
  rw [h]

theorem bind_of_starved {q : Reader α} {g : α → Reader β} (h : q d = .starved) :
    (q >>= g) d = .starved := by
  show bind q g d = _
  unfold bind
  rw [h]

theorem bind_map (q : Reader α) (g : α → β) (k : β → Reader γ) :
    ((q >>= fun a => pure (g a)) >>= k) = (q >>= fun a => k (g a)) := by
  funext d
  show bind (bind q _) k d = bind q _ d
  unfold bind
  cases q d <;> rfl

variable {ts : Tokens} {x : Lexeme}

/-- **Taking the next token.** -/
theorem advance_of_peek (h : d.Faces source ts) (hx : ts.peek = .ok x) :
    ∃ d', advance d = .ok x.token d' ∧ Comes source d ts d' ts.tail ∧
      d'.PointsAt source x.token (x.excerpt source) ∧ d'.calls = .next :: d.calls ∧
      d.lexer.Gives x d'.lexer := by
  obtain ⟨hwithin, rfl⟩ := h
  obtain ⟨l, hl⟩ := hwithin.gives hx
  have hask : d.lexer.ask .next = ⟨.token x.token, l⟩ := by rw [Lexer.ask, hl.next]
  have hnew := hwithin.ask hask rfl
  refine ⟨⟨l, .next :: d.calls⟩, ?_, ?_, ?_, rfl, hl⟩
  · unfold advance
    rw [hl.next]
  · exact ⟨⟨hnew, hl.ahead⟩, [.next], rfl, onward_next, length_le_tail _⟩
  · exact ⟨hnew, hl.last, (hl.excerpt.trans (by rw [hwithin.source_eq])).symm⟩

/-- **Looking at the next token.** -/
theorem peek_of_peek (h : d.Faces source ts) (hx : ts.peek = .ok x) :
    ∃ d', peek d = .ok x.token d' ∧ Comes source d ts d' ts ∧
      d'.PointsAt source x.token (x.excerpt source) := by
  obtain ⟨d₁, hadvance, hcomes, hpoints, hcalls, hl⟩ := advance_of_peek h hx
  have hrewind : d₁.lexer.rewind = (.ok (), { d₁.lexer with rewound := true }) := by
    simp [Lexer.rewind, hl.rewound, hl.last]
  have hask : d₁.lexer.ask .rewind = ⟨.unread, { d₁.lexer with rewound := true }⟩ := by
    rw [Lexer.ask, hrewind]
  have hnew := hpoints.within.ask hask rfl
  refine ⟨⟨{ d₁.lexer with rewound := true }, .rewind :: d₁.calls⟩, ?_, ?_, ?_⟩
  · have hback : rewind d₁ = .ok () ⟨{ d₁.lexer with rewound := true }, .rewind :: d₁.calls⟩ := by
      unfold rewind
      rw [hrewind]
    rw [peek, bind_of_ok hadvance, bind_of_ok hback]
    rfl
  · refine ⟨⟨hnew, hl.back.trans h.ahead⟩, [.rewind, .next], ?_, onward_look, Nat.le_refl _⟩
    rw [hcalls]
    rfl
  · exact ⟨hnew, hpoints.last, hpoints.excerpt⟩

/-- Where no token is, taking one fails, and so does looking at it. -/
theorem advance_of_broken (h : d.Faces source ts) {e : LexError} (he : ts.peek = .error e) :
    e ≠ .rewindUnavailable ∧ ∃ d', advance d = .fail (.lex e) d' ∧ peek d = .fail (.lex e) d' := by
  obtain ⟨hwithin, rfl⟩ := h
  obtain ⟨l, hl, hne⟩ := hwithin.broken he
  have hadvance : advance d = .fail (.lex e) ⟨l, .next :: d.calls⟩ := by
    unfold advance
    rw [hl]
  exact ⟨hne, _, hadvance, bind_of_fail hadvance⟩

end Reader

/-! ## §3 One reader beside another -/

/-- **An error is met where it points**: at the token that it names, which was read last. No error is
about an un-reading. -/
def Blames (source : String) (d : Descent) : ParseError → Prop
  | .lex e => e ≠ .rewindUnavailable
  | .unexpectedToken found _ place => d.PointsAt source found place
  | .invalidNumber lexeme place =>
    ∃ t, t.lexeme = lexeme ∧ t.kind = .number ∧ d.PointsAt source t place
  | .malformedCall _ found place => d.PointsAt source found place
  | .globTarget _ place => ∃ t, d.PointsAt source t place
  | .invalidTarget _ place => ∃ t, d.PointsAt source t place
  | .globCall _ place => ∃ t, d.PointsAt source t place

/-- **A reader that uses a lexer mirrors one that has the tokens**: it has the same result and the same
tokens left, or the same error. It may have more steps; with the same number it runs out of them where
the other does. -/
def Mirrors (source : String) (more : Prop) (q : Reader α) (p : Parse α) (d : Descent) (ts : Tokens) :
    Prop :=
  match p ts with
  | .ok a rest => ∃ d', q d = .ok a d' ∧ Comes source d ts d' rest
  | .fail e => ∃ d', q d = .fail e d' ∧ d'.Blames source e
  | .starved => more ∨ q d = .starved

namespace Mirrors

variable {more : Prop} {ts mid : Tokens}

theorem of_eq {q : Reader α} {p p' : Parse α} (hp : p ts = p' ts)
    (h : Mirrors source more q p' d ts) : Mirrors source more q p d ts := by
  unfold Mirrors at h ⊢
  rwa [hp]

theorem pure (h : d.Faces source ts) (a : α) :
    Mirrors source more (Pure.pure a) (Pure.pure a) d ts :=
  ⟨d, rfl, .refl h⟩

/-- Without steps. -/
theorem starved {q : Nat → Reader α} {p : Parse α} {m : Nat} (h : more ∨ m = 0)
    (hp : p ts = .starved) (hq : q 0 d = .starved) : Mirrors source more (q m) p d ts := by
  unfold Mirrors
  rw [hp]
  obtain h | rfl := h
  · exact .inl h
  · exact .inr hq

theorem stop {e : Excerpt → ParseError} {place : Excerpt} (hplace : place = d.lexer.excerpt)
    (h : d.Blames source (e place)) :
    Mirrors source more (Reader.stop e : Reader α) (Parse.stop (e place)) d ts :=
  ⟨d, by rw [hplace]; rfl, h⟩

/-- What comes after something that both have read. -/
theorem step {q : Reader β} {p : Parse γ} {g : β → Reader α} {f : γ → Parse α} {b : β} {c : γ}
    {d' : Descent} (hq : q d = .ok b d') (hp : p ts = .ok c mid) (hcomes : Comes source d ts d' mid)
    (h : Mirrors source more (g b) (f c) d' mid) :
    Mirrors source more (q >>= g) (p >>= f) d ts := by
  unfold Mirrors at h ⊢
  rw [Parse.bind_of_ok hp, Reader.bind_of_ok hq]
  split at h
  · obtain ⟨d'', hok, hcomes'⟩ := h
    exact ⟨d'', hok, hcomes.trans hcomes'⟩
  · exact h
  · exact h

/-- Nothing comes after an error that both have met. -/
theorem failed {q : Reader β} {p : Parse γ} (g : β → Reader α) (f : γ → Parse α) {e : ParseError}
    {d' : Descent} (hq : q d = .fail e d') (hp : p ts = .fail e) (h : d'.Blames source e) :
    Mirrors source more (q >>= g) (p >>= f) d ts := by
  unfold Mirrors
  rw [Parse.bind_of_fail hp]
  exact ⟨d', Reader.bind_of_fail hq, h⟩

/-- **One after the other.** -/
theorem bind {q : Reader β} {p : Parse β} {g : β → Reader α} {f : β → Parse α}
    (h : Mirrors source more q p d ts)
    (hnext : ∀ b d' rest, d'.Faces source rest → Mirrors source more (g b) (f b) d' rest) :
    Mirrors source more (q >>= g) (p >>= f) d ts := by
  cases hp : p ts with
  | ok b rest =>
    unfold Mirrors at h
    rw [hp] at h
    obtain ⟨d', hq, hcomes⟩ := h
    exact step hq hp hcomes (hnext b d' rest hcomes.faces)
  | fail e =>
    unfold Mirrors at h
    rw [hp] at h
    obtain ⟨d', hq, hblames⟩ := h
    exact failed g f hq hp hblames
  | starved =>
    unfold Mirrors at h ⊢
    rw [hp] at h
    rw [Parse.bind_of_starved hp]
    exact h.imp id Reader.bind_of_starved

/-- What is made of a result. -/
theorem map {q : Reader β} {p : Parse β} (h : Mirrors source more q p d ts) (g : β → α) :
    Mirrors source more (q >>= fun b => Pure.pure (g b)) (p >>= fun b => Pure.pure (g b)) d ts :=
  h.bind fun b _ _ hfaces => pure hfaces (g b)

variable (h : d.Faces source ts)
include h

/-- **Taking a token.** -/
theorem advance {g : Token → Reader α} {f : Lexeme → Parse α}
    (hnext : ∀ x d', ts.peek = .ok x → d'.Faces source ts.tail →
      d'.PointsAt source x.token (x.excerpt source) →
      Mirrors source more (g x.token) (f x) d' ts.tail) :
    Mirrors source more (Reader.advance >>= g) (Parse.advance >>= f) d ts := by
  cases hx : ts.peek with
  | ok x =>
    obtain ⟨d', hq, hcomes, hpoints, -⟩ := Reader.advance_of_peek h hx
    exact step hq (Parse.advance_of_peek hx) hcomes (hnext x d' hx hcomes.faces hpoints)
  | error e =>
    obtain ⟨hne, d', hq, -⟩ := Reader.advance_of_broken h hx
    exact failed g f hq (Parse.advance_of_broken hx) hne

/-- **Looking at a token.** -/
theorem peek {g : Token → Reader α} {f : Lexeme → Parse α}
    (hnext : ∀ x d', ts.peek = .ok x → d'.Faces source ts →
      d'.PointsAt source x.token (x.excerpt source) →
      Mirrors source more (g x.token) (f x) d' ts) :
    Mirrors source more (Reader.peek >>= g) (Parse.peek >>= f) d ts := by
  cases hx : ts.peek with
  | ok x =>
    obtain ⟨d', hq, hcomes, hpoints⟩ := Reader.peek_of_peek h hx
    exact step hq (Parse.peek_of_peek hx) hcomes (hnext x d' hx hcomes.faces hpoints)
  | error e =>
    obtain ⟨hne, d', -, hq⟩ := Reader.advance_of_broken h hx
    exact failed g f hq (Parse.peek_of_broken hx) hne

theorem nextIs {kind : Token.Kind} {g : Bool → Reader α} {f : Bool → Parse α}
    (hnext : ∀ x d', ts.peek = .ok x → d'.Faces source ts →
      d'.PointsAt source x.token (x.excerpt source) →
      Mirrors source more (g (x.token.kind == kind)) (f (x.token.kind == kind)) d' ts) :
    Mirrors source more (Reader.nextIs kind >>= g) (Parse.nextIs kind >>= f) d ts := by
  unfold Reader.nextIs Parse.nextIs
  rw [Reader.bind_map, Parse.bind_map]
  exact peek h hnext

theorem nextIsOperator {symbol : String} {g : Bool → Reader α} {f : Bool → Parse α}
    (hnext : ∀ x d', ts.peek = .ok x → d'.Faces source ts →
      Mirrors source more (g (x.token.isOperator symbol)) (f (x.token.isOperator symbol)) d' ts) :
    Mirrors source more (Reader.nextIsOperator symbol >>= g) (Parse.nextIsOperator symbol >>= f) d
      ts := by
  unfold Reader.nextIsOperator Parse.nextIsOperator
  rw [Reader.bind_map, Parse.bind_map]
  exact peek h fun x d' hx hfaces _ => hnext x d' hx hfaces

/-- **Taking a token of a kind.** -/
theorem expect {kind : Token.Kind} {g : Token → Reader α} {f : Unit → Parse α}
    (hnext : ∀ x d', ts.peek = .ok x → x.token.kind = kind → d'.Faces source ts.tail →
      Mirrors source more (g x.token) (f ()) d' ts.tail) :
    Mirrors source more (Reader.expect kind >>= g) (Parse.expect source kind >>= f) d ts := by
  cases hx : ts.peek with
  | ok x =>
    obtain ⟨d', hq, hcomes, hpoints, -⟩ := Reader.advance_of_peek h hx
    have hp := Parse.advance_of_peek hx
    by_cases hkind : x.token.kind = kind
    · have hq' : Reader.expect kind d = .ok x.token d' := by
        rw [Reader.expect, Reader.bind_of_ok hq, if_pos hkind]
        rfl
      have hp' : Parse.expect source kind ts = .ok () ts.tail := by
        rw [Parse.expect, Parse.bind_of_ok hp, if_pos hkind]
        rfl
      exact step hq' hp' hcomes (hnext x d' hx hkind hcomes.faces)
    · have hq' : Reader.expect kind d =
          .fail (.unexpectedToken x.token kind.display d'.lexer.excerpt) d' := by
        rw [Reader.expect, Reader.bind_of_ok hq, if_neg hkind]
        rfl
      have hp' : Parse.expect source kind ts =
          .fail (.unexpectedToken x.token kind.display d'.lexer.excerpt) := by
        rw [Parse.expect, Parse.bind_of_ok hp, if_neg hkind, ← hpoints.excerpt]
        rfl
      exact failed g f hq' hp' (hpoints.excerpt ▸ hpoints)
  | error e =>
    obtain ⟨hne, d', hq, -⟩ := Reader.advance_of_broken h hx
    have hp : Parse.expect source kind ts = .fail (.lex e) :=
      Parse.bind_of_fail (Parse.advance_of_broken hx)
    exact failed g f (Reader.bind_of_fail hq) hp hne

end Mirrors

end Descent

/-! ## §4 The forms -/

namespace Parse

/-- A block. -/
def block (source : String) (items : Parse (List Expr)) : Parse Expr := do
  expect source .openCurly
  if ← nextIs .closeCurly then
    let _ ← advance
    return .block []
  return .block (← items)

/-- A call, from behind the opening parenthesis. -/
def call (name : String) (arguments : Parse (List Expr)) : Parse Expr := do
  if ← nextIs .closeParen then
    let _ ← advance
    return .call name []
  return .call name (← arguments)

/-- What stands behind `if`. -/
def ifForm (source : String) (expression statement : Parse Expr) : Parse Expr := do
  let test ← expression
  expect source .wordThen
  let branch ← statement
  if ← nextIs .wordElse then
    let _ ← advance
    return .ifThenElse test branch (← statement)
  return .ifThen test branch

/-- What stands behind `edge_if`. -/
def edgeIfForm (source : String) (expression statement : Parse Expr) : Parse Expr := do
  let test ← expression
  expect source .wordThen
  let onTrue ← statement
  expect source .wordElse
  return .edgeIf test onTrue (← statement)

/-- What stands behind `at`. -/
def atForm (source : String) (expression statement : Parse Expr) : Parse Expr := do
  let watch ← expression
  expect source .wordDo
  return .atChange watch (← statement)

end Parse

namespace Descent

open Parse (Level)

variable {source : String} {d : Descent}

section Forms

variable {more : Prop} {ts : Tokens} (h : d.Faces source ts)
include h

theorem block_mirrors {q : Reader (List Expr)} {p : Parse (List Expr)}
    (hitems : ∀ {d ts}, d.Faces source ts → Mirrors source more q p d ts) :
    Mirrors source more (Reader.block q) (Parse.block source p) d ts := by
  refine .expect h fun x d' _ _ h' => ?_
  refine .nextIs h' fun y d'' _ h'' _ => ?_
  split
  · exact .advance h'' fun z d₃ _ h₃ _ => .pure h₃ _
  · exact (hitems h'').map _

theorem call_mirrors (name : String) {q : Reader (List Expr)} {p : Parse (List Expr)}
    (harguments : ∀ {d ts}, d.Faces source ts → Mirrors source more q p d ts) :
    Mirrors source more (Reader.call name q) (Parse.call name p) d ts := by
  refine .nextIs h fun y d' _ h' _ => ?_
  split
  · exact .advance h' fun z d₂ _ h₂ _ => .pure h₂ _
  · exact (harguments h').map _

variable {q q' : Reader Expr} {p p' : Parse Expr}
  (hexpression : ∀ {d ts}, d.Faces source ts → Mirrors source more q p d ts)
  (hstatement : ∀ {d ts}, d.Faces source ts → Mirrors source more q' p' d ts)
include hexpression hstatement

theorem ifForm_mirrors :
    Mirrors source more (Reader.ifForm q q') (Parse.ifForm source p p') d ts := by
  refine (hexpression h).bind fun test d₁ _ h₁ => ?_
  refine .expect h₁ fun _ d₂ _ _ h₂ => ?_
  refine (hstatement h₂).bind fun branch d₃ _ h₃ => ?_
  refine .nextIs h₃ fun _ d₄ _ h₄ _ => ?_
  split
  · exact .advance h₄ fun _ d₅ _ h₅ _ => (hstatement h₅).map _
  · exact .pure h₄ _

theorem edgeIfForm_mirrors :
    Mirrors source more (Reader.edgeIfForm q q') (Parse.edgeIfForm source p p') d ts := by
  refine (hexpression h).bind fun test d₁ _ h₁ => ?_
  refine .expect h₁ fun _ d₂ _ _ h₂ => ?_
  refine (hstatement h₂).bind fun onTrue d₃ _ h₃ => ?_
  exact .expect h₃ fun _ d₄ _ _ h₄ => (hstatement h₄).map _

theorem atForm_mirrors :
    Mirrors source more (Reader.atForm q q') (Parse.atForm source p p') d ts := by
  refine (hexpression h).bind fun watch d₁ _ h₁ => ?_
  exact .expect h₁ fun _ d₂ _ _ h₂ => (hstatement h₂).map _

end Forms

/-! ## §5 One more step -/

/-- **What is shown of all readers at once**, for a number of steps on each side. -/
structure AllMirror (source : String) (more : Prop) (n m : Nat) : Prop where
  sequence : ∀ {d ts}, d.Faces source ts →
    Mirrors source more (Reader.sequence m) (Parse.sequence source n) d ts
  statement : ∀ {d ts}, d.Faces source ts →
    Mirrors source more (Reader.statement m) (Parse.statement source n) d ts
  blockItems : ∀ {d ts}, d.Faces source ts →
    Mirrors source more (Reader.blockItems m) (Parse.blockItems source n) d ts
  expression : ∀ {d ts}, d.Faces source ts →
    Mirrors source more (Reader.expression m) (Parse.expression source n) d ts
  binary : ∀ (level : Level) {d ts}, d.Faces source ts →
    Mirrors source more (Reader.binary level m) (Parse.binary source level n) d ts
  joined : ∀ (level : Level) (left : Expr) {d ts}, d.Faces source ts →
    Mirrors source more (Reader.joined level left m) (Parse.joined source level left n) d ts
  operand : ∀ (level : Level) {d ts}, d.Faces source ts →
    Mirrors source more (Reader.operand level m) (Parse.operand source level n) d ts
  term : ∀ {d ts}, d.Faces source ts →
    Mirrors source more (Reader.term m) (Parse.term source n) d ts
  arguments : ∀ (name : String) {d ts}, d.Faces source ts →
    Mirrors source more (Reader.arguments name m) (Parse.arguments source name n) d ts

section Step

variable {more : Prop} {n m : Nat} (ih : AllMirror source more n m) {ts : Tokens}
  (h : d.Faces source ts)
include ih h

theorem sequence_mirrors :
    Mirrors source more (Reader.sequence (m + 1)) (Parse.sequence source (n + 1)) d ts := by
  rw [Reader.sequence, Parse.sequence]
  refine (ih.statement h).bind fun first d₁ _ h₁ => ?_
  refine .nextIsOperator h₁ fun _ d₂ _ h₂ => ?_
  split
  · refine .advance h₂ fun _ d₃ _ h₃ _ => ?_
    refine .nextIs h₃ fun _ d₄ _ h₄ _ => ?_
    split
    · exact .pure h₄ _
    · exact (ih.sequence h₄).map _
  · exact .pure h₂ _

theorem statement_mirrors :
    Mirrors source more (Reader.statement (m + 1)) (Parse.statement source (n + 1)) d ts := by
  rw [Reader.statement, Parse.statement]
  refine .nextIs h fun x d₁ hx h₁ _ => ?_
  split
  · next hkind =>
    -- the brace has been looked at, so that expecting it is taking it
    have hopen : x.token.kind = .openCurly := by simpa using hkind
    refine .of_eq ?_ (block_mirrors h₁ ih.blockItems)
    rw [Parse.block, Parse.bind_advance hx, Parse.bind_expect hx hopen]
  · exact ih.expression h₁

theorem blockItems_mirrors :
    Mirrors source more (Reader.blockItems (m + 1)) (Parse.blockItems source (n + 1)) d ts := by
  rw [Reader.blockItems, Parse.blockItems]
  refine (ih.statement h).bind fun stmt d₁ _ h₁ => ?_
  refine .advance h₁ fun x d₂ _ h₂ hpoints => ?_
  split
  · refine .nextIs h₂ fun _ d₃ _ h₃ _ => ?_
    split
    · exact .advance h₃ fun _ d₄ _ h₄ _ => .pure h₄ _
    · exact (ih.blockItems h₃).map _
  · split
    · exact .pure h₂ _
    · exact .stop hpoints.excerpt hpoints

theorem expression_mirrors :
    Mirrors source more (Reader.expression (m + 1)) (Parse.expression source (n + 1)) d ts := by
  rw [Reader.expression, Parse.expression]
  refine (ih.binary .or h).bind fun left d₁ _ h₁ => ?_
  refine .nextIsOperator h₁ fun _ d₂ _ h₂ => ?_
  split
  · refine .advance h₂ fun x d₃ _ h₃ hpoints => ?_
    refine Mirrors.bind ?_ fun name d₄ _ h₄ => (ih.expression h₄).map _
    -- what cannot be assigned to is shown at the equals sign, which has just been taken
    cases left with
    | var name => exact .pure h₃ _
    | _ => exact .stop hpoints.excerpt ⟨_, hpoints⟩
  · exact .pure h₂ _

theorem binary_mirrors (level : Level) :
    Mirrors source more (Reader.binary level (m + 1)) (Parse.binary source level (n + 1)) d ts := by
  rw [Reader.binary, Parse.binary]
  exact (ih.operand level h).bind fun left _ _ h₁ => ih.joined level left h₁

theorem joined_mirrors (level : Level) (left : Expr) :
    Mirrors source more (Reader.joined level left (m + 1)) (Parse.joined source level left (n + 1)) d
      ts := by
  rw [Reader.joined, Parse.joined]
  refine .peek h fun x d₁ _ h₁ _ => ?_
  cases level.operator? x.token with
  | none => exact .pure h₁ _
  | some op =>
    refine .advance h₁ fun _ d₂ _ h₂ _ => ?_
    exact (ih.operand level h₂).bind fun right _ _ h₃ => ih.joined level _ h₃

theorem operand_mirrors (level : Level) :
    Mirrors source more (Reader.operand level (m + 1)) (Parse.operand source level (n + 1)) d ts := by
  cases level <;> rw [Reader.operand, Parse.operand]
  · exact ih.binary .and h
  · exact ih.binary .comparison h
  · exact ih.binary .sum h
  · exact ih.binary .product h
  · exact ih.term h

theorem arguments_mirrors (name : String) :
    Mirrors source more (Reader.arguments name (m + 1)) (Parse.arguments source name (n + 1)) d
      ts := by
  rw [Reader.arguments, Parse.arguments]
  refine (ih.expression h).bind fun arg d₁ _ h₁ => ?_
  refine .advance h₁ fun x d₂ _ h₂ hpoints => ?_
  cases hkind : x.token.kind with
  | comma => exact (ih.arguments name h₂).map _
  | closeParen => exact .pure h₂ _
  | _ => exact .stop hpoints.excerpt hpoints

omit ih in
theorem number_mirrors {x : Lexeme} (hkind : x.token.kind = .number)
    (hpoints : d.PointsAt source x.token (x.excerpt source)) :
    Mirrors source more (Reader.number x.token) (Parse.number source x) d ts := by
  unfold Reader.number Parse.number
  cases Value.readLiteral? x.token.lexeme.toList with
  | some v => exact .pure h _
  | none => exact .stop hpoints.excerpt ⟨_, rfl, hkind, hpoints⟩

theorem term_mirrors :
    Mirrors source more (Reader.term (m + 1)) (Parse.term source (n + 1)) d ts := by
  rw [Reader.term, Parse.term]
  refine .advance h fun x d₁ _ h₁ hpoints => ?_
  cases hkind : x.token.kind with
  | openParen =>
    refine (ih.expression h₁).bind fun e d₂ _ h₂ => ?_
    exact .expect h₂ fun _ _ _ _ h₃ => .pure h₃ _
  | number => exact number_mirrors h₁ hkind hpoints
  | string => exact .pure h₁ _
  | name =>
    -- here the lexer is asked for one more token, so an error points behind the name
    dsimp only
    unfold Reader.nextIs
    rw [Reader.bind_map]
    refine .peek h₁ fun y d₂ hy h₂ hpoints' => ?_
    simp only [beq_iff_eq]
    split
    · split
      · exact .stop hpoints'.excerpt ⟨_, hpoints'⟩
      · exact .pure h₂ _
    · split
      · exact .advance h₂ fun _ d₃ _ h₃ _ => call_mirrors h₃ _ (ih.arguments _)
      · exact .pure h₂ _
  | wordIf => exact ifForm_mirrors h₁ ih.expression ih.statement
  | wordEdgeIf => exact edgeIfForm_mirrors h₁ ih.expression ih.statement
  | wordAt => exact atForm_mirrors h₁ ih.expression ih.statement
  | operator =>
    dsimp only
    split
    · exact .pure h₁ _
    · split
      · exact (ih.term h₁).map _
      · exact .stop hpoints.excerpt hpoints
  | _ => exact .stop hpoints.excerpt hpoints

end Step

/-! ## §6 All readers -/

theorem allMirror_zero {more : Prop} {m : Nat} (h : more ∨ m = 0) : AllMirror source more 0 m where
  sequence _ := .starved h rfl rfl
  statement _ := .starved h rfl rfl
  blockItems _ := .starved h rfl rfl
  expression _ := .starved h rfl rfl
  binary _ _ _ _ := .starved h rfl rfl
  joined _ _ _ _ _ := .starved h rfl rfl
  operand level _ _ _ := by cases level <;> exact .starved h rfl rfl
  term _ := .starved h rfl rfl
  arguments _ _ _ _ := .starved h rfl rfl

/-- **Every reader mirrors the one that has the tokens**, with as many steps or with more. -/
theorem allMirror (source : String) {more : Prop} {k : Nat} (h : more ∨ k = 0) :
    ∀ n, AllMirror source more n (n + k)
  | 0 => allMirror_zero (h.imp_right fun hk => (Nat.zero_add k).trans hk)
  | n + 1 => by
    have ih := allMirror source h n
    rw [Nat.succ_add_eq_add_succ]
    exact
      { sequence := sequence_mirrors ih
        statement := statement_mirrors ih
        blockItems := blockItems_mirrors ih
        expression := expression_mirrors ih
        binary := fun level _ _ h => binary_mirrors ih h level
        joined := fun level left _ _ h => joined_mirrors ih h level left
        operand := fun level _ _ h => operand_mirrors ih h level
        term := term_mirrors ih
        arguments := fun name _ _ h => arguments_mirrors ih h name }

end Descent

end Cascade
