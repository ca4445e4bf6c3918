import Cascade.Expr.Reading

/-!
# One reader after another

What a reader made of two does is what its parts do in turn, and the small readers at the front of a
longer one only look at the next token or take it.

§1 in turn; §2 looking and taking; §3 whole sources.
-/

namespace Cascade

/-- A next token that is not the end of the input is the first of those that are left. -/
theorem Tokens.cons_of_peek {ts : Tokens} {l : Lexeme} (h : ts.peek = .ok l)
    (hl : l.token.kind ≠ .endOfInput) : ts = .cons l ts.tail := by
  cases ts with
  | ended offset =>
    cases h
    exact absurd rfl hl
  | broken e => cases h
  | cons head tail =>
    cases h
    rfl

namespace Parse

variable {ts rest : Tokens} {l : Lexeme}

/-! ## §1 In turn -/

theorem bind_of_starved {p : Parse α} {f : α → Parse β} (h : p ts = .starved) :
    (p >>= f) ts = .starved := by
  show bind p f ts = .starved
  unfold bind
  rw [h]

/-- What a reader in two parts has done, its parts have done in turn. -/
theorem ok_of_bind {p : Parse α} {f : α → Parse β} {b : β} (h : (p >>= f) ts = .ok b rest) :
    ∃ a mid, p ts = .ok a mid ∧ f a mid = .ok b rest := by
  cases hp : p ts with
  | ok a mid => exact ⟨a, mid, rfl, (bind_of_ok hp).symm.trans h⟩
  | fail e => cases (bind_of_fail hp).symm.trans h
  | starved => cases (bind_of_starved hp).symm.trans h

/-- What a reader makes of what another has read. -/
theorem ok_of_bind_pure {p : Parse α} {g : α → β} {b : β}
    (h : (p >>= fun a => pure (g a)) ts = .ok b rest) : ∃ a, p ts = .ok a rest ∧ b = g a := by
  obtain ⟨a, mid, hp, hpure⟩ := ok_of_bind h
  cases hpure
  exact ⟨a, hp, rfl⟩

/-- What is made of a result is made of it before what comes next. -/
theorem bind_map (p : Parse α) (f : α → β) (k : β → Parse γ) :
    ((p >>= fun a => pure (f a)) >>= k) = (p >>= fun a => k (f a)) := by
  funext ts
  show Parse.bind (Parse.bind p _) k ts = Parse.bind p _ ts
  unfold Parse.bind
  cases p ts <;> rfl

/-! ## §2 Looking and taking -/

/-- Where no token is, there is nothing to look at. -/
theorem peek_of_broken {e : LexError} (h : ts.peek = .error e) : peek ts = .fail (.lex e) := by
  unfold peek
  rw [h]

/-- Nor is there anything to take. -/
theorem advance_of_broken {e : LexError} (h : ts.peek = .error e) :
    advance ts = .fail (.lex e) := by
  unfold advance
  rw [h]

theorem peek_of_peek (h : ts.peek = .ok l) : peek ts = .ok l ts := by
  unfold peek
  rw [h]

theorem bind_peek (h : ts.peek = .ok l) (f : Lexeme → Parse α) : (peek >>= f) ts = f l ts :=
  bind_of_ok (peek_of_peek h)

theorem bind_advance (h : ts.peek = .ok l) (f : Lexeme → Parse α) :
    (advance >>= f) ts = f l ts.tail :=
  bind_of_ok (advance_of_peek h)

theorem bind_nextIs (h : ts.peek = .ok l) (kind : Token.Kind) (f : Bool → Parse α) :
    (nextIs kind >>= f) ts = f (l.token.kind == kind) ts :=
  bind_of_ok (bind_peek h _)

theorem bind_nextIsOperator (h : ts.peek = .ok l) (symbol : String) (f : Bool → Parse α) :
    (nextIsOperator symbol >>= f) ts = f (l.token.isOperator symbol) ts :=
  bind_of_ok (bind_peek h _)

theorem bind_expect {source : String} {kind : Token.Kind} (h : ts.peek = .ok l)
    (hl : l.token.kind = kind) (f : Unit → Parse α) :
    (expect source kind >>= f) ts = f () ts.tail := by
  refine bind_of_ok ?_
  rw [expect, bind_advance h, if_pos hl]
  rfl

/-- A reader that begins by looking succeeds only where there is something to look at. -/
theorem ok_of_peek {f : Lexeme → Parse α} {a : α} (h : (peek >>= f) ts = .ok a rest) :
    ∃ l, ts.peek = .ok l ∧ f l ts = .ok a rest := by
  cases hl : ts.peek with
  | ok l => exact ⟨l, rfl, (bind_peek hl f).symm.trans h⟩
  | error e => cases (bind_of_fail (peek_of_broken hl)).symm.trans h

theorem ok_of_advance {f : Lexeme → Parse α} {a : α} (h : (advance >>= f) ts = .ok a rest) :
    ∃ l, ts.peek = .ok l ∧ f l ts.tail = .ok a rest := by
  cases hl : ts.peek with
  | ok l => exact ⟨l, rfl, (bind_advance hl f).symm.trans h⟩
  | error e => cases (bind_of_fail (advance_of_broken hl)).symm.trans h

theorem ok_of_nextIs {kind : Token.Kind} {f : Bool → Parse α} {a : α}
    (h : (nextIs kind >>= f) ts = .ok a rest) :
    ∃ l, ts.peek = .ok l ∧ f (l.token.kind == kind) ts = .ok a rest := by
  obtain ⟨b, mid, hb, hf⟩ := ok_of_bind h
  obtain ⟨l, hl, hpure⟩ := ok_of_peek hb
  cases hpure
  exact ⟨l, hl, hf⟩

theorem ok_of_nextIsOperator {symbol : String} {f : Bool → Parse α} {a : α}
    (h : (nextIsOperator symbol >>= f) ts = .ok a rest) :
    ∃ l, ts.peek = .ok l ∧ f (l.token.isOperator symbol) ts = .ok a rest := by
  obtain ⟨b, mid, hb, hf⟩ := ok_of_bind h
  obtain ⟨l, hl, hpure⟩ := ok_of_peek hb
  cases hpure
  exact ⟨l, hl, hf⟩

/-- A token that was expected has been taken. -/
theorem ok_of_expect {source : String} {kind : Token.Kind} {f : Unit → Parse α} {a : α}
    (h : (expect source kind >>= f) ts = .ok a rest) :
    ∃ l, ts.peek = .ok l ∧ l.token.kind = kind ∧ f () ts.tail = .ok a rest := by
  obtain ⟨u, mid, hu, hf⟩ := ok_of_bind h
  obtain ⟨l, hl, htaken⟩ := ok_of_advance hu
  split at htaken
  · next hkind =>
    cases htaken
    exact ⟨l, hl, hkind, hf⟩
  · cases htaken

end Parse

/-! ## §3 Whole sources -/

/-- A source is read as a rule body if the readers get to its end. -/
theorem Expr.read_eq_ok_iff {source : String} {e : Expr} :
    read source = .ok e ↔ ∃ rest, Parse.program source
      (Parse.steps (Tokens.ofSource source).length) (Tokens.ofSource source) = .ok e rest := by
  have houtcome {r : Reply Expr} (hr : r ≠ .starved) :
      r.outcome hr = .ok e ↔ ∃ rest, r = .ok e rest := by
    cases r <;> simp [Reply.outcome] at hr ⊢
  exact houtcome (Parse.program_ne_starved source _)

end Cascade
