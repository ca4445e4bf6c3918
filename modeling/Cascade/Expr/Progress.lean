import Cascade.Expr.Parser

/-!
# Every reader ends and moves on

A reader that succeeds has taken at least one token, and none runs out of steps that was given
sixteen for each token and a few more for the levels of the grammar it passes through before it takes
one. Main statement: `Parse.reads`, for all readers of the grammar at once.

§1 taking tokens; §2 the small readers; §3 the readers of the grammar.
-/

namespace Cascade.Parse

/-! ## §1 Taking tokens -/

/-- **The reader takes** at least `k` of the tokens if it succeeds, and has steps enough. -/
def Takes (p : Parse α) (k : Nat) (ts : Tokens) : Prop :=
  match p ts with
  | .ok _ rest => rest.length + k ≤ ts.length
  | .fail _ => True
  | .starved => False

theorem takes_pure (a : α) (ts : Tokens) : Takes (pure a) 0 ts := Nat.le_refl _

theorem takes_stop (e : ParseError) (k : Nat) (ts : Tokens) : Takes (stop e : Parse α) k ts :=
  trivial

theorem takes_unexpected (source : String) (l : Lexeme) (wanted : String) (k : Nat) (ts : Tokens) :
    Takes (unexpected source l wanted : Parse α) k ts :=
  trivial

/-- Taking more is taking at least fewer. -/
theorem Takes.mono {p : Parse α} {j k : Nat} {ts : Tokens} (h : Takes p j ts) (hk : k ≤ j) :
    Takes p k ts := by
  unfold Takes at *
  split <;> simp_all
  omega

theorem takes_iff_of_ok {p : Parse α} {k : Nat} {ts rest : Tokens} {a : α} (h : p ts = .ok a rest) :
    Takes p k ts ↔ rest.length + k ≤ ts.length := by
  unfold Takes
  rw [h]

theorem not_takes_of_starved {p : Parse α} {k : Nat} {ts : Tokens} (h : p ts = .starved) :
    ¬ Takes p k ts := by
  unfold Takes
  rw [h]
  exact id

theorem takes_of_fail {p : Parse α} {k : Nat} {ts : Tokens} {e : ParseError} (h : p ts = .fail e) :
    Takes p k ts := by
  unfold Takes
  rw [h]
  trivial

theorem bind_of_ok {p : Parse α} {f : α → Parse β} {ts rest : Tokens} {a : α}
    (h : p ts = .ok a rest) : (p >>= f) ts = f a rest := by
  show bind p f ts = f a rest
  unfold bind
  rw [h]

theorem bind_of_fail {p : Parse α} {f : α → Parse β} {ts : Tokens} {e : ParseError}
    (h : p ts = .fail e) : (p >>= f) ts = .fail e := by
  show bind p f ts = .fail e
  unfold bind
  rw [h]

/-- **Taking in sequence.** What follows is asked to take the rest of what is asked of both. -/
theorem takes_bind {p : Parse α} {f : α → Parse β} {j k : Nat} {ts : Tokens} (hp : Takes p j ts)
    (hf : ∀ a rest, p ts = .ok a rest → rest.length + j ≤ ts.length → Takes (f a) (k - j) rest) :
    Takes (p >>= f) k ts := by
  cases h : p ts with
  | ok a rest =>
    have hj := (takes_iff_of_ok h).mp hp
    have ha := hf a rest h hj
    cases hr : f a rest with
    | ok b last =>
      have hk := (takes_iff_of_ok hr).mp ha
      exact (takes_iff_of_ok ((bind_of_ok h).trans hr)).mpr (by omega)
    | fail e => exact takes_of_fail ((bind_of_ok h).trans hr)
    | starved => exact absurd ha (not_takes_of_starved hr)
  | fail e => exact takes_of_fail (bind_of_fail h)
  | starved => exact absurd hp (not_takes_of_starved h)

/-- What follows a reader that surely took enough owes nothing. -/
theorem takes_bind_pure {p : Parse α} {g : α → β} {k : Nat} {ts : Tokens} (hp : Takes p k ts) :
    Takes (p >>= fun a => pure (g a)) k ts :=
  takes_bind hp fun a rest _ _ => by
    rw [Nat.sub_self]; exact takes_pure _ _

/-! ## §2 The small readers -/

theorem takes_peek (ts : Tokens) : Takes peek 0 ts := by
  unfold Takes peek
  cases ts <;> simp [Tokens.peek]

theorem peek_rest {ts rest : Tokens} {l : Lexeme} (h : peek ts = .ok l rest) : rest = ts := by
  unfold peek at h
  split at h <;> simp_all

theorem takes_nextIs (kind : Token.Kind) (ts : Tokens) : Takes (nextIs kind) 0 ts :=
  takes_bind_pure (takes_peek ts)

theorem takes_nextIsOperator (symbol : String) (ts : Tokens) : Takes (nextIsOperator symbol) 0 ts :=
  takes_bind_pure (takes_peek ts)

/-- A token is taken, unless it is the end of the input. -/
theorem takes_advance (ts : Tokens) : Takes advance 0 ts := by
  unfold Takes advance
  cases ts <;> simp [Tokens.peek, Tokens.tail, Tokens.length]

theorem advance_length {ts rest : Tokens} {l : Lexeme} (h : advance ts = .ok l rest)
    (hl : l.token.kind ≠ .endOfInput) : rest.length + 1 ≤ ts.length := by
  cases ts with
  | ended offset =>
    simp only [advance, Tokens.peek, Reply.ok.injEq] at h
    exact absurd (by rw [← h.1]; rfl) hl
  | broken e => simp [advance, Tokens.peek] at h
  | cons head tail =>
    simp only [advance, Tokens.peek, Tokens.tail, Reply.ok.injEq] at h
    rw [← h.2]
    exact Nat.le_refl _

/-- A reader that looks ahead tells what the next token is. -/
theorem nextIs_true {ts rest : Tokens} {kind : Token.Kind} (h : nextIs kind ts = .ok true rest) :
    rest = ts ∧ ∃ l, ts.peek = .ok l ∧ l.token.kind = kind := by
  unfold nextIs at h
  change bind peek _ ts = _ at h
  unfold bind peek at h
  cases hp : ts.peek with
  | error e => simp [hp] at h
  | ok l =>
    simp only [hp, pure, Reply.ok.injEq, beq_iff_eq] at h
    exact ⟨h.2.symm, l, rfl, h.1⟩

theorem advance_of_peek {ts : Tokens} {l : Lexeme} (h : ts.peek = .ok l) :
    advance ts = .ok l ts.tail := by
  unfold advance; rw [h]

/-- Taking the token that was looked at, when that is not the end of the input. -/
theorem takes_advance_of_peek {ts : Tokens} {l : Lexeme} (h : ts.peek = .ok l)
    (hl : l.token.kind ≠ .endOfInput) : Takes advance 1 ts := by
  have ha := advance_of_peek h
  have := advance_length ha hl
  unfold Takes
  rw [ha]
  exact this

theorem takes_expect (source : String) (kind : Token.Kind) (ts : Tokens) :
    Takes (expect source kind) 0 ts := by
  refine takes_bind (takes_advance ts) fun l rest _ _ => ?_
  split
  · exact takes_pure _ _
  · exact takes_unexpected ..

theorem takes_target (source : String) (equals : Lexeme) (e : Expr) (ts : Tokens) :
    Takes (target source equals e) 0 ts := by
  cases e <;> first | exact takes_pure _ _ | exact takes_stop ..

theorem takes_number (source : String) (l : Lexeme) (ts : Tokens) :
    Takes (number source l) 0 ts := by
  unfold number
  split
  · exact takes_pure _ _
  · exact takes_stop ..

/-- A token that spells an operator is not the end of the input. -/
theorem Level.kind_of_operator? {level : Level} {t : Token} {op : Operator}
    (h : level.operator? t = some op) : t.kind ≠ .endOfInput := by
  unfold Level.operator? at h
  have := List.find?_some h
  simp only [Token.isOperator, Bool.and_eq_true, beq_iff_eq] at this
  rw [this.1]
  decide

/-! ## §3 The readers of the grammar -/

/-- The steps that an operand of a level needs beyond sixteen for each token. -/
def Level.rank : Level → Nat
  | .product => 2
  | .sum => 4
  | .comparison => 6
  | .and => 8
  | .or => 10

theorem Level.rank_le (level : Level) : level.rank ≤ 10 := by cases level <;> decide

theorem Level.rank_pos (level : Level) : 0 < level.rank := by cases level <;> decide

/-- **What is shown of all readers at once** for a number of steps. -/
structure Progress (source : String) (steps : Nat) : Prop where
  sequence : ∀ ts : Tokens, 16 * ts.length + 14 ≤ steps → Takes (sequence source steps) 1 ts
  statement : ∀ ts : Tokens, 16 * ts.length + 13 ≤ steps → Takes (statement source steps) 1 ts
  blockItems : ∀ ts : Tokens, 16 * ts.length + 14 ≤ steps → Takes (blockItems source steps) 1 ts
  expression : ∀ ts : Tokens, 16 * ts.length + 12 ≤ steps → Takes (expression source steps) 1 ts
  binary : ∀ (level : Level) (ts : Tokens), 16 * ts.length + level.rank + 1 ≤ steps →
    Takes (binary source level steps) 1 ts
  joined : ∀ (level : Level) (left : Expr) (ts : Tokens), 16 * ts.length + 1 ≤ steps →
    Takes (joined source level left steps) 0 ts
  operand : ∀ (level : Level) (ts : Tokens), 16 * ts.length + level.rank ≤ steps →
    Takes (operand source level steps) 1 ts
  term : ∀ ts : Tokens, 16 * ts.length + 1 ≤ steps → Takes (term source steps) 1 ts
  arguments : ∀ (name : String) (ts : Tokens), 16 * ts.length + 13 ≤ steps →
    Takes (arguments source name steps) 1 ts

theorem progress_zero (source : String) : Progress source 0 where
  sequence := fun _ h => by omega
  statement := fun _ h => by omega
  blockItems := fun _ h => by omega
  expression := fun _ h => by omega
  binary := fun _ _ h => by omega
  joined := fun _ _ _ h => by omega
  operand := fun level _ h => by have := level.rank_pos; omega
  term := fun _ h => by omega
  arguments := fun _ _ h => by omega

section Step

variable {source : String} {steps : Nat} (ih : Progress source steps)
include ih

theorem sequence_step (ts : Tokens) (h : 16 * ts.length + 14 ≤ steps + 1) :
    Takes (sequence source (steps + 1)) 1 ts := by
  rw [sequence]
  refine takes_bind (ih.statement ts (by omega)) fun first r1 _ h1 => ?_
  refine takes_bind (takes_nextIsOperator ";" r1) fun b r2 _ h2 => ?_
  split
  · refine takes_bind (takes_advance r2) fun _ r3 _ h3 => ?_
    refine takes_bind (takes_nextIs _ r3) fun b r4 _ h4 => ?_
    split
    · exact takes_pure _ _
    · exact (takes_bind_pure (ih.sequence r4 (by omega))).mono (by omega)
  · exact takes_pure _ _

theorem statement_step (ts : Tokens) (h : 16 * ts.length + 13 ≤ steps + 1) :
    Takes (statement source (steps + 1)) 1 ts := by
  rw [statement]
  refine takes_bind (takes_nextIs _ ts) fun b r1 hb h1 => ?_
  split
  · next hbt =>
    subst hbt
    obtain ⟨hr, l, hl, hk⟩ := nextIs_true hb
    subst hr
    refine takes_bind (takes_advance_of_peek hl (by rw [hk]; decide)) fun _ r2 _ h2 => ?_
    refine takes_bind (takes_nextIs _ r2) fun b r3 _ h3 => ?_
    split
    · exact takes_bind (takes_advance r3) fun _ r4 _ _ => takes_pure _ _
    · exact (takes_bind_pure (ih.blockItems r3 (by omega))).mono (by omega)
  · exact (ih.expression r1 (by omega)).mono (by omega)

theorem blockItems_step (ts : Tokens) (h : 16 * ts.length + 14 ≤ steps + 1) :
    Takes (blockItems source (steps + 1)) 1 ts := by
  rw [blockItems]
  refine takes_bind (ih.statement ts (by omega)) fun stmt r1 _ h1 => ?_
  refine takes_bind (takes_advance r1) fun l r2 _ h2 => ?_
  split
  · refine takes_bind (takes_nextIs _ r2) fun b r3 _ h3 => ?_
    split
    · exact takes_bind (takes_advance r3) fun _ r4 _ _ => takes_pure _ _
    · exact (takes_bind_pure (ih.blockItems r3 (by omega))).mono (by omega)
  · split
    · exact takes_pure _ _
    · exact takes_unexpected ..

theorem expression_step (ts : Tokens) (h : 16 * ts.length + 12 ≤ steps + 1) :
    Takes (expression source (steps + 1)) 1 ts := by
  rw [expression]
  refine takes_bind (ih.binary .or ts (by simp only [Level.rank]; omega)) fun left r1 _ h1 => ?_
  refine takes_bind (takes_nextIsOperator "=" r1) fun b r2 _ h2 => ?_
  split
  · refine takes_bind (takes_advance r2) fun equals r3 _ h3 => ?_
    refine takes_bind (takes_target source equals left r3) fun name r4 _ h4 => ?_
    exact (takes_bind_pure (ih.expression r4 (by omega))).mono (by omega)
  · exact takes_pure _ _

theorem binary_step (level : Level) (ts : Tokens)
    (h : 16 * ts.length + level.rank + 1 ≤ steps + 1) :
    Takes (binary source level (steps + 1)) 1 ts := by
  rw [binary]
  refine takes_bind (ih.operand level ts (by omega)) fun left r1 _ h1 => ?_
  exact (ih.joined level left r1 (by omega)).mono (by omega)

theorem joined_step (level : Level) (left : Expr) (ts : Tokens)
    (h : 16 * ts.length + 1 ≤ steps + 1) :
    Takes (joined source level left (steps + 1)) 0 ts := by
  rw [joined]
  refine takes_bind (takes_peek ts) fun l r1 hl h1 => ?_
  have hr := peek_rest hl
  subst hr
  split
  · exact takes_pure _ _
  · next op hop =>
    have hpk : r1.peek = .ok l := by
      unfold peek at hl
      split at hl <;> simp_all
    refine takes_bind (takes_advance_of_peek hpk (Level.kind_of_operator? hop))
      fun _ r2 _ h2 => ?_
    have := level.rank_le
    refine takes_bind (ih.operand level r2 (by omega)) fun right r3 _ h3 => ?_
    exact (ih.joined level _ r3 (by omega)).mono (by omega)

theorem operand_step (level : Level) (ts : Tokens) (h : 16 * ts.length + level.rank ≤ steps + 1) :
    Takes (operand source level (steps + 1)) 1 ts := by
  cases level <;> rw [operand] <;> simp only [Level.rank] at h
  · exact ih.binary .and ts (by simp only [Level.rank]; omega)
  · exact ih.binary .comparison ts (by simp only [Level.rank]; omega)
  · exact ih.binary .sum ts (by simp only [Level.rank]; omega)
  · exact ih.binary .product ts (by simp only [Level.rank]; omega)
  · exact ih.term ts (by omega)

theorem arguments_step (name : String) (ts : Tokens) (h : 16 * ts.length + 13 ≤ steps + 1) :
    Takes (arguments source name (steps + 1)) 1 ts := by
  rw [arguments]
  refine takes_bind (ih.expression ts (by omega)) fun arg r1 _ h1 => ?_
  refine takes_bind (takes_advance r1) fun l r2 _ h2 => ?_
  split
  · exact (takes_bind_pure (ih.arguments name r2 (by omega))).mono (by omega)
  · exact takes_pure _ _
  · exact takes_stop ..

theorem term_step (ts : Tokens) (h : 16 * ts.length + 1 ≤ steps + 1) :
    Takes (term source (steps + 1)) 1 ts := by
  rw [term]
  by_cases hz : ∃ offset, ts = .ended offset
  · obtain ⟨offset, rfl⟩ := hz
    trivial
  have hadv : Takes advance 1 ts := by
    cases ts with
    | ended offset => exact absurd ⟨offset, rfl⟩ hz
    | broken e => trivial
    | cons head tail => exact Nat.le_refl _
  refine takes_bind hadv fun l r1 _ h1 => ?_
  split
  · refine takes_bind (ih.expression r1 (by omega)) fun e r2 _ h2 => ?_
    exact takes_bind (takes_expect source _ r2) fun _ _ _ _ => takes_pure _ _
  · exact takes_number source l r1
  · exact takes_pure _ _
  · refine takes_bind (takes_peek r1) fun next r2 _ h2 => ?_
    split
    · split
      · exact takes_stop ..
      · exact takes_pure _ _
    · split
      · refine takes_bind (takes_advance r2) fun _ r3 _ h3 => ?_
        refine takes_bind (takes_nextIs _ r3) fun b r4 _ h4 => ?_
        split
        · exact takes_bind (takes_advance r4) fun _ _ _ _ => takes_pure _ _
        · exact (takes_bind_pure (ih.arguments _ r4 (by omega))).mono (by omega)
      · exact takes_pure _ _
  · refine takes_bind (ih.expression r1 (by omega)) fun test r2 _ h2 => ?_
    refine takes_bind (takes_expect source _ r2) fun _ r3 _ h3 => ?_
    refine takes_bind (ih.statement r3 (by omega)) fun branch r4 _ h4 => ?_
    refine takes_bind (takes_nextIs _ r4) fun b r5 _ h5 => ?_
    split
    · refine takes_bind (takes_advance r5) fun _ r6 _ h6 => ?_
      exact (takes_bind_pure (ih.statement r6 (by omega))).mono (by omega)
    · exact takes_pure _ _
  · refine takes_bind (ih.expression r1 (by omega)) fun test r2 _ h2 => ?_
    refine takes_bind (takes_expect source _ r2) fun _ r3 _ h3 => ?_
    refine takes_bind (ih.statement r3 (by omega)) fun onTrue r4 _ h4 => ?_
    refine takes_bind (takes_expect source _ r4) fun _ r5 _ h5 => ?_
    exact (takes_bind_pure (ih.statement r5 (by omega))).mono (by omega)
  · refine takes_bind (ih.expression r1 (by omega)) fun watch r2 _ h2 => ?_
    refine takes_bind (takes_expect source _ r2) fun _ r3 _ h3 => ?_
    exact (takes_bind_pure (ih.statement r3 (by omega))).mono (by omega)
  · split
    · exact takes_pure _ _
    · split
      · exact (takes_bind_pure (ih.term r1 (by omega))).mono (by omega)
      · exact takes_unexpected ..
  · exact takes_unexpected ..

end Step

/-- **Every reader ends and moves on**: with sixteen steps for each token, and a few more, it does not
run out of steps, and if it succeeds it has taken a token. -/
theorem reads (source : String) : ∀ steps, Progress source steps
  | 0 => progress_zero source
  | steps + 1 =>
    have ih := reads source steps
    { sequence := sequence_step ih
      statement := statement_step ih
      blockItems := blockItems_step ih
      expression := expression_step ih
      binary := binary_step ih
      joined := joined_step ih
      operand := operand_step ih
      term := term_step ih
      arguments := arguments_step ih }

end Cascade.Parse
