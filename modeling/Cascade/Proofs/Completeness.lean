import Cascade.Proofs.Grammar
import Cascade.Proofs.Lexing
import Cascade.Proofs.Readers

/-!
# What is derived is read

A program whose forms stand in parentheses of their own is read with the tree of its derivation. The
readers decide what to do by the next token: whether a level goes on, whether a name is called,
whether a block begins or ends. Each of these decisions is the one that the derivation has made,
because the token behind a phrase cannot go on with it, and the first token of a phrase tells which
it is.

Main statement: `grouped_read`.

§1 replies; §2 what stands behind a phrase; §3 what a phrase begins with; §4 one rule of the
grammar; §5 all derivations; §6 whole sources.
-/

namespace Cascade

/-! ## §1 Replies -/

/-- **The reply has this result**, unless the steps did not suffice. -/
def Reply.Yields (r : Reply α) (a : α) (rest : Tokens) : Prop := r = .starved ∨ r = .ok a rest

/-- Globs are names. -/
theorem Token.kind_of_isGlob {t : Token} (h : t.isGlob = true) : t.kind = .name := by
  simp only [isGlob, Bool.and_eq_true, beq_iff_eq] at h
  exact h.1

namespace Parse

open Grammar

variable {source : String} {alone : Bool}

theorem yields_pure (a : α) (ts : Tokens) : ((pure a : Parse α) ts).Yields a ts := .inr rfl

/-- Readers in turn have the results of each. -/
theorem yields_bind {p : Parse α} {f : α → Parse β} {ts mid rest : Tokens} {a : α} {b : β}
    (hp : (p ts).Yields a mid) (hf : (f a mid).Yields b rest) : ((p >>= f) ts).Yields b rest := by
  rcases hp with hp | hp
  · exact .inl (bind_of_starved hp)
  · rw [bind_of_ok hp]
    exact hf

theorem yields_bind_pure {p : Parse α} {ts rest : Tokens} {a : α} (hp : (p ts).Yields a rest)
    (g : α → β) : ((p >>= fun a => pure (g a)) ts).Yields (g a) rest :=
  yields_bind hp (yields_pure _ _)

/-! ## §2 What stands behind a phrase -/

/-- **A token cannot go on with a phrase** in front of it: it calls no name, it is no operator of a
level up to a bound, and beyond the levels it does not assign. Between two parentheses it is the
closing one. -/
structure Follows (alone : Bool) (bound : Nat) (t : Token) : Prop where
  call : t.kind ≠ .openParen
  operator : ∀ {level : Level}, level.rank ≤ bound → level.operator? t = none
  equals : Level.or.rank < bound → t.isOperator "=" = false
  closing : alone = true → t.kind = .closeParen

/-- The bound of an expression, beyond all levels. -/
def beyond : Nat := Level.or.rank + 1

theorem Level.operator?_of_kind {t : Token} (h : t.kind ≠ .operator) (level : Level) :
    level.operator? t = none := by
  refine List.find?_eq_none.mpr fun op _ hop => ?_
  rw [Token.isOperator_iff.mp hop] at h
  exact h rfl

theorem isOperator_of_kind {t : Token} {kind : Token.Kind} {symbol : String} (h : t.kind = kind)
    (hkind : kind ≠ .operator) : t.isOperator symbol = false := by
  rw [Bool.eq_false_iff]
  intro hop
  rw [Token.isOperator_iff.mp hop] at h
  exact hkind h.symm

/-- What is neither an operator nor an opening parenthesis can stand behind anything. -/
theorem follows_of_kind {t : Token} {kind : Token.Kind} (h : t.kind = kind)
    (hkind : kind ∉ [.operator, .openParen]) (bound : Nat) : Follows false bound t := by
  subst h
  simp only [List.mem_cons, List.not_mem_nil, or_false, not_or] at hkind
  obtain ⟨hop, hcall⟩ := hkind
  exact ⟨hcall, fun {level} _ => level.operator?_of_kind hop, fun _ => isOperator_of_kind rfl hop,
    nofun⟩

theorem follows_closeParen {t : Token} (h : t.kind = .closeParen) (alone : Bool) (bound : Nat) :
    Follows alone bound t :=
  { follows_of_kind h (by decide) bound with closing := fun _ => h }

/-- A semicolon is an operator of no level. -/
theorem follows_semicolon (bound : Nat) : Follows false bound (.operator ";") where
  call := nofun
  operator := fun {level} _ => by cases level <;> decide
  equals := fun _ => by decide
  closing := nofun

/-- An equals sign is an operator of no level either. -/
theorem follows_equals {bound : Nat} (h : bound ≤ Level.or.rank) :
    Follows false bound (.operator "=") where
  call := nofun
  operator := fun {level} _ => by cases level <;> decide
  equals := fun hlt => absurd hlt (Nat.not_lt.mpr h)
  closing := nofun

/-- An operator of a level is found there. -/
theorem Level.operator?_symbol {level : Level} :
    ∀ op ∈ level.operators, level.operator? (.operator op.symbol) = some op := by
  cases level <;> decide

/-- An operator of a level is one of no tighter level. -/
theorem follows_operator {level : Level} {op : Operator} (h : op ∈ level.operators) :
    Follows false (level.rank - 2) (.operator op.symbol) where
  call := nofun
  operator := by
    intro tighter htighter
    revert op
    cases level <;> cases tighter <;> first | decide | exact absurd htighter (by decide)
  equals := fun hlt => by
    have := level.rank_le
    have hor : Level.or.rank = 10 := rfl
    omega
  closing := nofun

theorem Follows.mono {bound bound' : Nat} {t : Token} (h : Follows alone bound t)
    (hle : bound' ≤ bound) : Follows alone bound' t where
  call := h.call
  operator := fun hlevel => h.operator (hlevel.trans hle)
  equals := fun hlt => h.equals (Nat.lt_of_lt_of_le hlt hle)
  closing := h.closing

theorem Follows.notAlone {bound : Nat} {t : Token} (h : Follows alone bound t) :
    Follows false bound t :=
  { h with closing := nofun }

/-! ## §3 What a phrase begins with -/

/-- Can the phrase begin with a block? -/
def opens : Phrase → Bool
  | .program _ | .statement _ | .items _ => true
  | .expression _ | .joined _ _ | .term _ | .arguments _ => false

/-- **A token that a phrase can begin with**: it ends nothing, and it begins a block only where one
can stand. -/
structure Begins (phrase : Phrase) (t : Token) : Prop where
  closeCurly : t.kind ≠ .closeCurly
  closeParen : t.kind ≠ .closeParen
  ending : t.kind ≠ .endOfInput
  block : opens phrase = false → t.kind ≠ .openCurly

theorem begins_of_kind {phrase : Phrase} {t : Token} {kind : Token.Kind} (h : t.kind = kind)
    (hkind : kind ∉ [.closeCurly, .closeParen, .endOfInput, .openCurly]) : Begins phrase t := by
  subst h
  simp only [List.mem_cons, List.not_mem_nil, or_false, not_or] at hkind
  obtain ⟨hcurly, hparen, hend, hopen⟩ := hkind
  exact ⟨hcurly, hparen, hend, fun _ => hopen⟩

theorem Begins.front {phrase phrase' : Phrase} {t : Token} (h : Begins phrase t)
    (hopens : opens phrase' = false → opens phrase = false) : Begins phrase' t :=
  ⟨h.closeCurly, h.closeParen, h.ending, fun h' => h.block (hopens h')⟩

/-- **No phrase is empty**, and its first token is one that it can begin with. -/
theorem begins {phrase : Phrase} {list : List Token} (d : Derivation phrase list) :
    ∃ t us, list = t :: us ∧ Begins phrase t := by
  induction d with
  | last _ _ ih | lastItem _ _ ih | value _ ih | lastArgument _ ih | next _ _ ih _
  | nextItem _ _ ih _ | assign _ _ ih _ | join _ _ _ ih _ | nextArgument _ _ _ ih _ =>
    obtain ⟨t, us, rfl, h⟩ := ih
    exact ⟨t, _, rfl, h.front id⟩
  | plain _ ih =>
    obtain ⟨t, us, rfl, h⟩ := ih
    exact ⟨t, us, rfl, h.front nofun⟩
  | @single level e ts _ ih =>
    obtain ⟨t, us, rfl, h⟩ := ih
    refine ⟨t, us, rfl, h.front fun _ => ?_⟩
    cases level <;> rfl
  | emptyBlock hopen _ | block hopen _ _ _ =>
    exact ⟨_, _, rfl, by rw [hopen]; exact nofun, by rw [hopen]; exact nofun,
      by rw [hopen]; exact nofun, nofun⟩
  | group hkind _ _ _ | number hkind _ | string hkind | var hkind _ | emptyCall hkind _ _ _
  | call hkind _ _ _ _ _ | ifThen hkind _ _ _ _ _ | ifThenElse hkind _ _ _ _ _ _ _ _
  | edgeIf hkind _ _ _ _ _ _ _ _ | atChange hkind _ _ _ _ _ =>
    exact ⟨_, _, rfl, begins_of_kind hkind (by decide)⟩
  | glob hglob => exact ⟨_, _, rfl, begins_of_kind (Token.kind_of_isGlob hglob) (by decide)⟩
  | star | negate => exact ⟨_, _, rfl, begins_of_kind rfl (by decide)⟩

/-! ## §4 One rule of the grammar -/

/-- **A reader finds its result**: where the tokens begin with these and the one behind them is one
of those meant, it takes just these. -/
def Finds (reader : Nat → Parse α) (a : α) (list : List Token) (behind : Token → Prop) : Prop :=
  ∀ ⦃ts rest l⦄, ts.Starts list rest → rest.peek = .ok l → behind l.token →
    ∀ n, (reader n ts).Yields a rest

/-- **The readers read the phrase** from these tokens. A loop that joins operands of a level comes
to the point where they are joined. -/
def Complete (source : String) (alone : Bool) (list : List Token) : Phrase → Prop
  | .program e => Finds (sequence source) e list fun t => t.kind = .endOfInput
  | .statement e => Finds (statement source) e list (Follows alone beyond)
  | .items es => ∀ ⦃closing : Token⦄, closing.kind = .closeCurly →
      Finds (blockItems source) es (list ++ [closing]) fun _ => True
  | .expression e => Finds (expression source) e list (Follows alone beyond)
  | .joined level e => ∀ ⦃ts rest l⦄, ts.Starts list rest → rest.peek = .ok l →
      Follows alone (level.rank - 2) l.token → ∀ n,
      binary source level n ts = .starved ∨
        ∃ m, binary source level n ts = joined source level e m rest
  | .term e => Finds (term source) e list (Follows alone 0)
  | .arguments es => ∀ ⦃closing : Token⦄ ⦃name⦄, closing.kind = .closeParen →
      Finds (arguments source name) es (list ++ [closing]) fun _ => True

section Rules

variable {list us vs : List Token} {e e' e'' : Expr} {es : List Expr}

theorem sequence_last (semicolon : Bool) (h : Complete source false list (.statement e)) :
    Complete source alone (list ++ trailing semicolon) (.program e) := by
  intro ts rest l hts hl hend n
  cases n with
  | zero => exact .inl rfl
  | succ n =>
    rw [sequence]
    cases semicolon with
    | false =>
      rw [trailing, if_neg Bool.false_ne_true, List.append_nil] at hts
      have hfollows := follows_of_kind hend (by decide)
      refine yields_bind (h hts hl (hfollows beyond) n) ?_
      rw [bind_nextIsOperator hl, isOperator_of_kind hend (by decide), if_neg Bool.false_ne_true]
      exact yields_pure _ _
    | true =>
      obtain ⟨mid, m, hlist, hm, hsemicolon, hrest⟩ := hts.split
      rw [Tokens.starts_nil_iff] at hrest
      refine yields_bind (h hlist hm (hsemicolon ▸ follows_semicolon _) n) ?_
      rw [bind_nextIsOperator hm, Token.isOperator_iff.mpr hsemicolon, if_pos rfl,
        bind_advance hm, hrest, bind_nextIs hl, beq_iff_eq.mpr hend, if_pos rfl]
      exact yields_pure _ _

theorem sequence_next (h : Complete source false list (.statement e))
    (d' : Derivation (.program e') us) (h' : Complete source false us (.program e')) :
    Complete source alone (list ++ .operator ";" :: us) (.program (.seq e e')) := by
  intro ts rest l hts hl hend n
  cases n with
  | zero => exact .inl rfl
  | succ n =>
    obtain ⟨mid, m, hlist, hm, hsemicolon, hrest⟩ := hts.split
    obtain ⟨t, _, rfl, ht⟩ := begins d'
    obtain ⟨m', hm', rfl, -⟩ := hrest.peek
    rw [sequence]
    refine yields_bind (h hlist hm (hsemicolon ▸ follows_semicolon _) n) ?_
    rw [bind_nextIsOperator hm, Token.isOperator_iff.mpr hsemicolon, if_pos rfl, bind_advance hm,
      bind_nextIs hm', beq_eq_false_iff_ne.mpr ht.ending, if_neg Bool.false_ne_true]
    exact yields_bind_pure (h' hrest hl hend n) _

theorem statement_emptyBlock {opening closing : Token} (hopen : opening.kind = .openCurly)
    (hclose : closing.kind = .closeCurly) :
    Complete source alone [opening, closing] (.statement (.block [])) := by
  intro ts rest l hts _ _ n
  cases n with
  | zero => exact .inl rfl
  | succ n =>
    obtain ⟨first, hfirst, rfl, htail⟩ := hts.peek
    obtain ⟨last, hlast, rfl, hrest⟩ := htail.peek
    rw [Tokens.starts_nil_iff] at hrest
    rw [statement, bind_nextIs hfirst, beq_iff_eq.mpr hopen, if_pos rfl, bind_advance hfirst,
      bind_nextIs hlast, beq_iff_eq.mpr hclose, if_pos rfl, bind_advance hlast, hrest]
    exact yields_pure _ _

theorem statement_block {opening closing : Token} (hopen : opening.kind = .openCurly)
    (hclose : closing.kind = .closeCurly) (d : Derivation (.items es) list)
    (h : Complete source false list (.items es)) :
    Complete source alone (opening :: (list ++ [closing])) (.statement (.block es)) := by
  intro ts rest l hts hl _ n
  cases n with
  | zero => exact .inl rfl
  | succ n =>
    obtain ⟨first, hfirst, rfl, htail⟩ := hts.peek
    obtain ⟨t, _, rfl, ht⟩ := begins d
    obtain ⟨m, hm, rfl, -⟩ := htail.peek
    rw [statement, bind_nextIs hfirst, beq_iff_eq.mpr hopen, if_pos rfl, bind_advance hfirst,
      bind_nextIs hm, beq_eq_false_iff_ne.mpr ht.closeCurly, if_neg Bool.false_ne_true]
    exact yields_bind_pure (h hclose htail hl trivial n) _

theorem statement_plain (d : Derivation (.expression e) list)
    (h : Complete source alone list (.expression e)) :
    Complete source alone list (.statement e) := by
  intro ts rest l hts hl hfollows n
  cases n with
  | zero => exact .inl rfl
  | succ n =>
    obtain ⟨t, _, rfl, ht⟩ := begins d
    obtain ⟨m, hm, rfl, -⟩ := hts.peek
    rw [statement, bind_nextIs hm, beq_eq_false_iff_ne.mpr (ht.block rfl),
      if_neg Bool.false_ne_true]
    exact h hts hl hfollows n

theorem blockItems_last (semicolon : Bool) (h : Complete source false list (.statement e)) :
    Complete source alone (list ++ trailing semicolon) (.items [e]) := by
  intro closing hclose ts rest l hts _ _ n
  cases n with
  | zero => exact .inl rfl
  | succ n =>
    have hfollows := follows_of_kind hclose (by decide)
    obtain ⟨mid, last, hlist, hlast, rfl, hrest⟩ := hts.split
    rw [Tokens.starts_nil_iff] at hrest
    rw [blockItems]
    cases semicolon with
    | false =>
      rw [trailing, if_neg Bool.false_ne_true, List.append_nil] at hlist
      refine yields_bind (h hlist hlast (hfollows beyond) n) ?_
      rw [bind_advance hlast, isOperator_of_kind hclose (by decide),
        if_neg Bool.false_ne_true, if_pos hclose, hrest]
      exact yields_pure _ _
    | true =>
      obtain ⟨mid', m, hlist, hm, hsemicolon, hmid⟩ := hlist.split
      rw [Tokens.starts_nil_iff] at hmid
      refine yields_bind (h hlist hm (hsemicolon ▸ follows_semicolon _) n) ?_
      rw [bind_advance hm, Token.isOperator_iff.mpr hsemicolon, if_pos rfl, hmid,
        bind_nextIs hlast, beq_iff_eq.mpr hclose, if_pos rfl, bind_advance hlast, hrest]
      exact yields_pure _ _

theorem blockItems_next (h : Complete source false list (.statement e))
    (d' : Derivation (.items es) us) (h' : Complete source false us (.items es)) :
    Complete source alone (list ++ .operator ";" :: us) (.items (e :: es)) := by
  intro closing hclose ts rest l hts hl _ n
  cases n with
  | zero => exact .inl rfl
  | succ n =>
    rw [List.append_assoc] at hts
    obtain ⟨mid, m, hlist, hm, hsemicolon, hrest⟩ := hts.split
    obtain ⟨t, _, rfl, ht⟩ := begins d'
    obtain ⟨m', hm', rfl, -⟩ := hrest.peek
    rw [blockItems]
    refine yields_bind (h hlist hm (hsemicolon ▸ follows_semicolon _) n) ?_
    rw [bind_advance hm, Token.isOperator_iff.mpr hsemicolon, if_pos rfl, bind_nextIs hm',
      beq_eq_false_iff_ne.mpr ht.closeCurly, if_neg Bool.false_ne_true]
    exact yields_bind_pure (h' hclose hrest hl trivial n) _

/-- The loop of a level stops where no operator of the level comes next. -/
theorem joined_yields {level : Level} {ts : Tokens} {l : Lexeme} (hl : ts.peek = .ok l)
    (hstop : level.operator? l.token = none) (n : Nat) :
    (joined source level e n ts).Yields e ts := by
  cases n with
  | zero => exact .inl rfl
  | succ n =>
    rw [joined, bind_peek hl, hstop]
    exact yields_pure _ _

theorem binary_finds {level : Level} (h : Complete source alone list (.joined level e)) :
    Finds (binary source level) e list (Follows alone level.rank) := by
  intro ts rest l hts hl hfollows n
  rcases h hts hl (hfollows.mono (Nat.sub_le _ _)) n with hstarved | ⟨m, hm⟩
  · exact .inl hstarved
  · rw [hm]
    exact joined_yields hl (hfollows.operator le_rfl) m

theorem operand_finds {level : Level} (h : Complete source alone list (Grammar.operand level e)) :
    Finds (operand source level) e list (Follows alone (level.rank - 2)) := by
  intro ts rest l hts hl hfollows n
  cases n with
  | zero =>
    rw [operand]
    exact .inl rfl
  | succ n =>
    cases level <;> rw [operand]
    · exact binary_finds h hts hl hfollows n
    · exact binary_finds h hts hl hfollows n
    · exact binary_finds h hts hl hfollows n
    · exact binary_finds h hts hl hfollows n
    · exact h hts hl hfollows n

theorem binary_single {level : Level} (h : Complete source alone list (Grammar.operand level e)) :
    Complete source alone list (.joined level e) := by
  intro ts rest l hts hl hfollows n
  cases n with
  | zero => exact .inl rfl
  | succ n =>
    rw [binary]
    rcases operand_finds h hts hl hfollows n with hstarved | hok
    · exact .inl (bind_of_starved hstarved)
    · exact .inr ⟨n, bind_of_ok hok⟩

/-- Where a level goes on, the loop takes the operator and its right operand. -/
theorem binary_join {level : Level} {op : Operator} (hop : op ∈ level.operators)
    (h : Complete source false list (.joined level e))
    (h' : Complete source false us (Grammar.operand level e')) :
    Complete source alone (list ++ .operator op.symbol :: us)
      (.joined level (.binary op e e')) := by
  intro ts rest l hts hl hfollows n
  obtain ⟨mid, m, hlist, hm, htoken, hrest⟩ := hts.split
  rcases h hlist hm (htoken ▸ follows_operator hop) n with hstarved | ⟨k, hk⟩
  · exact .inl hstarved
  · rw [hk]
    cases k with
    | zero => exact .inl rfl
    | succ k =>
      rw [joined, bind_peek hm, htoken, Level.operator?_symbol op hop]
      dsimp only
      rw [bind_advance hm]
      rcases operand_finds h' hrest hl hfollows.notAlone k with hstarved | hok
      · exact .inl (bind_of_starved hstarved)
      · exact .inr ⟨k, bind_of_ok hok⟩

theorem expression_value (h : Complete source alone list (.joined .or e)) :
    Complete source alone list (.expression e) := by
  intro ts rest l hts hl hfollows n
  cases n with
  | zero => exact .inl rfl
  | succ n =>
    rw [expression]
    refine yields_bind (binary_finds h hts hl (hfollows.mono (Nat.le_succ _)) n) ?_
    rw [bind_nextIsOperator hl, hfollows.equals (Nat.lt_succ_self _), if_neg Bool.false_ne_true]
    exact yields_pure _ _

theorem expression_assign {name : String} (h : Complete source false list (.joined .or (.var name)))
    (h' : Complete source false us (.expression e)) :
    Complete source alone (list ++ .operator "=" :: us) (.expression (.assign name e)) := by
  intro ts rest l hts hl hfollows n
  cases n with
  | zero => exact .inl rfl
  | succ n =>
    obtain ⟨mid, m, hlist, hm, hequals, hrest⟩ := hts.split
    rw [expression]
    refine yields_bind (binary_finds h hlist hm (hequals ▸ follows_equals le_rfl) n) ?_
    rw [bind_nextIsOperator hm, Token.isOperator_iff.mpr hequals, if_pos rfl, bind_advance hm,
      target]
    exact yields_bind (yields_pure _ _) (yields_bind_pure (h' hrest hl hfollows.notAlone n) _)

theorem term_group {opening closing : Token} (hopen : opening.kind = .openParen)
    (hclose : closing.kind = .closeParen) (h : Complete source true list (.expression e)) :
    Complete source alone (opening :: (list ++ [closing])) (.term e) := by
  intro ts rest l hts _ _ n
  cases n with
  | zero => exact .inl rfl
  | succ n =>
    obtain ⟨first, hfirst, rfl, htail⟩ := hts.peek
    obtain ⟨mid, last, hlist, hlast, rfl, hrest⟩ := htail.split
    rw [Tokens.starts_nil_iff] at hrest
    rw [term, bind_advance hfirst, hopen]
    refine yields_bind (h hlist hlast (follows_closeParen hclose _ _) n) ?_
    rw [bind_expect hlast hclose, hrest]
    exact yields_pure _ _

theorem term_number {v : Value} {t : Token} (hkind : t.kind = .number)
    (hv : Value.readLiteral? t.lexeme.toList = some v) :
    Complete source alone [t] (.term (.const v)) := by
  intro ts rest l hts _ _ n
  cases n with
  | zero => exact .inl rfl
  | succ n =>
    obtain ⟨first, hfirst, rfl, hrest⟩ := hts.peek
    rw [Tokens.starts_nil_iff] at hrest
    rw [term, bind_advance hfirst, hkind, hrest]
    dsimp only [number]
    rw [hv]
    exact yields_pure _ _

theorem term_string {t : Token} (hkind : t.kind = .string) :
    Complete source alone [t] (.term (.const (.string t.lexeme))) := by
  intro ts rest l hts _ _ n
  cases n with
  | zero => exact .inl rfl
  | succ n =>
    obtain ⟨first, hfirst, rfl, hrest⟩ := hts.peek
    rw [Tokens.starts_nil_iff] at hrest
    rw [term, bind_advance hfirst, hkind, hrest]
    exact yields_pure _ _

theorem term_var {t : Token} (hkind : t.kind = .name) (hglob : t.isGlob = false) :
    Complete source alone [t] (.term (.var t.lexeme)) := by
  intro ts rest l hts hl hfollows n
  cases n with
  | zero => exact .inl rfl
  | succ n =>
    obtain ⟨first, hfirst, rfl, hrest⟩ := hts.peek
    rw [Tokens.starts_nil_iff] at hrest
    rw [term, bind_advance hfirst, hkind, hrest]
    dsimp only
    rw [bind_peek hl, hglob, if_neg Bool.false_ne_true, if_neg hfollows.call]
    exact yields_pure _ _

theorem term_glob {t : Token} (hglob : t.isGlob = true) :
    Complete source alone [t] (.term (.glob t.lexeme)) := by
  intro ts rest l hts hl hfollows n
  cases n with
  | zero => exact .inl rfl
  | succ n =>
    obtain ⟨first, hfirst, rfl, hrest⟩ := hts.peek
    rw [Tokens.starts_nil_iff] at hrest
    rw [term, bind_advance hfirst, Token.kind_of_isGlob hglob, hrest]
    dsimp only
    rw [bind_peek hl, hglob, if_pos rfl, if_neg hfollows.call]
    exact yields_pure _ _

theorem term_star : Complete source alone [.operator "*"] (.term (.glob "*")) := by
  intro ts rest l hts _ _ n
  cases n with
  | zero => exact .inl rfl
  | succ n =>
    obtain ⟨first, hfirst, htoken, hrest⟩ := hts.peek
    rw [Tokens.starts_nil_iff] at hrest
    rw [term, bind_advance hfirst, htoken, hrest]
    exact yields_pure _ _

theorem term_negate (h : Complete source false list (.term e)) :
    Complete source alone (.operator "-" :: list) (.term (.negate e)) := by
  intro ts rest l hts hl hfollows n
  cases n with
  | zero => exact .inl rfl
  | succ n =>
    obtain ⟨first, hfirst, htoken, hrest⟩ := hts.peek
    rw [term, bind_advance hfirst, htoken]
    exact yields_bind_pure (h hrest hl hfollows.notAlone n) _

theorem term_emptyCall {t opening closing : Token} (hkind : t.kind = .name)
    (hglob : t.isGlob = false) (hopen : opening.kind = .openParen)
    (hclose : closing.kind = .closeParen) :
    Complete source alone [t, opening, closing] (.term (.call t.lexeme [])) := by
  intro ts rest l hts _ _ n
  cases n with
  | zero => exact .inl rfl
  | succ n =>
    obtain ⟨first, hfirst, rfl, htail⟩ := hts.peek
    obtain ⟨m, hm, rfl, htail'⟩ := htail.peek
    obtain ⟨last, hlast, rfl, hrest⟩ := htail'.peek
    rw [Tokens.starts_nil_iff] at hrest
    rw [term, bind_advance hfirst, hkind]
    dsimp only
    rw [bind_peek hm, hglob, if_neg Bool.false_ne_true, if_pos hopen, bind_advance hm,
      bind_nextIs hlast, beq_iff_eq.mpr hclose, if_pos rfl, bind_advance hlast, hrest]
    exact yields_pure _ _

theorem term_call {t opening closing : Token} (hkind : t.kind = .name) (hglob : t.isGlob = false)
    (hopen : opening.kind = .openParen) (hclose : closing.kind = .closeParen)
    (d : Derivation (.arguments es) list) (h : Complete source false list (.arguments es)) :
    Complete source alone (t :: opening :: (list ++ [closing])) (.term (.call t.lexeme es)) := by
  intro ts rest l hts hl _ n
  cases n with
  | zero => exact .inl rfl
  | succ n =>
    obtain ⟨first, hfirst, rfl, htail⟩ := hts.peek
    obtain ⟨m, hm, rfl, hargs⟩ := htail.peek
    obtain ⟨t, _, rfl, ht⟩ := begins d
    obtain ⟨m', hm', rfl, -⟩ := hargs.peek
    rw [term, bind_advance hfirst, hkind]
    dsimp only
    rw [bind_peek hm, hglob, if_neg Bool.false_ne_true, if_pos hopen, bind_advance hm,
      bind_nextIs hm', beq_eq_false_iff_ne.mpr ht.closeParen, if_neg Bool.false_ne_true]
    exact yields_bind_pure (h hclose hargs hl trivial n) _

theorem arguments_last (h : Complete source false list (.expression e)) :
    Complete source alone list (.arguments [e]) := by
  intro closing name hclose ts rest l hts _ _ n
  cases n with
  | zero => exact .inl rfl
  | succ n =>
    obtain ⟨mid, last, hlist, hlast, rfl, hrest⟩ := hts.split
    rw [Tokens.starts_nil_iff] at hrest
    rw [arguments]
    refine yields_bind (h hlist hlast (follows_closeParen hclose _ _) n) ?_
    rw [bind_advance hlast, hclose, hrest]
    exact yields_pure _ _

theorem arguments_next {comma : Token} (hcomma : comma.kind = .comma)
    (h : Complete source false list (.expression e))
    (h' : Complete source false us (.arguments es)) :
    Complete source alone (list ++ comma :: us) (.arguments (e :: es)) := by
  intro closing name hclose ts rest l hts hl _ n
  cases n with
  | zero => exact .inl rfl
  | succ n =>
    rw [List.append_assoc] at hts
    obtain ⟨mid, m, hlist, hm, rfl, hrest⟩ := hts.split
    rw [arguments]
    refine yields_bind (h hlist hm (follows_of_kind hcomma (by decide) _) n) ?_
    rw [bind_advance hm, hcomma]
    exact yields_bind_pure (h' hclose hrest hl trivial n) _

/-- What the forms have behind their first word, up to the point where an `else` is looked for. -/
theorem clause_yields {word : Token} {kind : Token.Kind} (hword : word.kind = kind)
    (hkind : kind = .wordThen ∨ kind = .wordDo) (h : Complete source false list (.expression e))
    (h' : Complete source false us (.statement e')) {f : Expr → Expr → Parse Expr}
    {ts mid rest : Tokens} {l : Lexeme} (hts : ts.Starts (list ++ word :: us) mid)
    (hl : mid.peek = .ok l) (hfollows : Follows false beyond l.token) (n : Nat)
    (hf : (f e e' mid).Yields e'' rest) :
    ((do
      let head ← expression source n
      expect source kind
      let body ← statement source n
      f head body : Parse Expr) ts).Yields e'' rest := by
  obtain ⟨r, m, hlist, hm, rfl, hrest⟩ := hts.split
  have hm' : Follows false beyond m.token :=
    follows_of_kind hword (by rcases hkind with rfl | rfl <;> decide) beyond
  refine yields_bind (h hlist hm hm' n) ?_
  rw [bind_expect hm hword]
  exact yields_bind (h' hrest hl hfollows n) hf

/-- Behind a form that fills its parentheses stands the closing one. -/
theorem Follows.behindForm {bound : Nat} {t : Token} (h : Follows true bound t) :
    Follows false beyond t :=
  follows_closeParen (h.closing rfl) false beyond

theorem term_ifThen {word thenWord : Token} (hword : word.kind = .wordIf)
    (hthen : thenWord.kind = .wordThen) (h : Complete source false list (.expression e))
    (h' : Complete source false us (.statement e')) :
    Complete source true (word :: (list ++ thenWord :: us)) (.term (.ifThen e e')) := by
  intro ts rest l hts hl hfollows n
  cases n with
  | zero => exact .inl rfl
  | succ n =>
    obtain ⟨first, hfirst, rfl, htail⟩ := hts.peek
    rw [term, bind_advance hfirst, hword]
    refine clause_yields hthen (.inl rfl) h h' htail hl hfollows.behindForm n ?_
    -- the form fills its parentheses, so no `else` can come next
    rw [bind_nextIs hl, hfollows.closing rfl, if_neg (by decide)]
    exact yields_pure _ _

theorem term_ifThenElse {word thenWord elseWord : Token} (hword : word.kind = .wordIf)
    (hthen : thenWord.kind = .wordThen) (helse : elseWord.kind = .wordElse)
    (h : Complete source false list (.expression e)) (h' : Complete source false us (.statement e'))
    (h'' : Complete source false vs (.statement e'')) :
    Complete source true (word :: (list ++ thenWord :: (us ++ elseWord :: vs)))
      (.term (.ifThenElse e e' e'')) := by
  intro ts rest l hts hl hfollows n
  cases n with
  | zero => exact .inl rfl
  | succ n =>
    obtain ⟨first, hfirst, rfl, htail⟩ := hts.peek
    rw [← List.cons_append, ← List.append_assoc] at htail
    obtain ⟨mid, m, hclause, hm, rfl, hrest⟩ := htail.split
    rw [term, bind_advance hfirst, hword]
    refine clause_yields hthen (.inl rfl) h h' hclause hm (follows_of_kind helse (by decide) _) n ?_
    rw [bind_nextIs hm, beq_iff_eq.mpr helse, if_pos rfl, bind_advance hm]
    exact yields_bind_pure (h'' hrest hl hfollows.behindForm n) _

theorem term_edgeIf {word thenWord elseWord : Token} (hword : word.kind = .wordEdgeIf)
    (hthen : thenWord.kind = .wordThen) (helse : elseWord.kind = .wordElse)
    (h : Complete source false list (.expression e)) (h' : Complete source false us (.statement e'))
    (h'' : Complete source false vs (.statement e'')) :
    Complete source true (word :: (list ++ thenWord :: (us ++ elseWord :: vs)))
      (.term (.edgeIf e e' e'')) := by
  intro ts rest l hts hl hfollows n
  cases n with
  | zero => exact .inl rfl
  | succ n =>
    obtain ⟨first, hfirst, rfl, htail⟩ := hts.peek
    rw [← List.cons_append, ← List.append_assoc] at htail
    obtain ⟨mid, m, hclause, hm, rfl, hrest⟩ := htail.split
    rw [term, bind_advance hfirst, hword]
    refine clause_yields hthen (.inl rfl) h h' hclause hm (follows_of_kind helse (by decide) _) n ?_
    rw [bind_expect hm helse]
    exact yields_bind_pure (h'' hrest hl hfollows.behindForm n) _

theorem term_atChange {word doWord : Token} (hword : word.kind = .wordAt)
    (hdo : doWord.kind = .wordDo) (h : Complete source false list (.expression e))
    (h' : Complete source false us (.statement e')) :
    Complete source true (word :: (list ++ doWord :: us)) (.term (.atChange e e')) := by
  intro ts rest l hts hl hfollows n
  cases n with
  | zero => exact .inl rfl
  | succ n =>
    obtain ⟨first, hfirst, rfl, htail⟩ := hts.peek
    rw [term, bind_advance hfirst, hword]
    exact clause_yields hdo (.inr rfl) h h' htail hl hfollows.behindForm n (yields_pure _ _)

end Rules

/-! ## §5 All derivations -/

/-- **The readers read every phrase** whose forms stand in parentheses of their own. -/
theorem complete (source : String) {phrase : Phrase} {list : List Token}
    (d : Derivation phrase list) {alone : Bool} (h : d.Grouped alone) :
    Complete source alone list phrase := by
  induction d generalizing alone with
  | last semicolon _ ih => exact sequence_last semicolon (ih h)
  | next _ d' ih ih' => exact sequence_next (ih h.1) d' (ih' h.2)
  | emptyBlock hopen hclose => exact statement_emptyBlock hopen hclose
  | block hopen hclose d ih => exact statement_block hopen hclose d (ih h)
  | plain d ih => exact statement_plain d (ih h)
  | lastItem semicolon _ ih => exact blockItems_last semicolon (ih h)
  | nextItem _ d' ih ih' => exact blockItems_next (ih h.1) d' (ih' h.2)
  | value _ ih => exact expression_value (ih h)
  | assign _ _ ih ih' => exact expression_assign (ih h.1) (ih' h.2)
  | single _ ih => exact binary_single (ih h)
  | join hop _ _ ih ih' => exact binary_join hop (ih h.1) (ih' h.2)
  | group hopen hclose _ ih => exact term_group hopen hclose (ih h)
  | number hkind hv => exact term_number hkind hv
  | string hkind => exact term_string hkind
  | var hkind hglob => exact term_var hkind hglob
  | glob hglob => exact term_glob hglob
  | star => exact term_star
  | negate _ ih => exact term_negate (ih h)
  | emptyCall hkind hglob hopen hclose => exact term_emptyCall hkind hglob hopen hclose
  | call hkind hglob hopen hclose d ih => exact term_call hkind hglob hopen hclose d (ih h)
  | lastArgument _ ih => exact arguments_last (ih h)
  | nextArgument hcomma _ _ ih ih' => exact arguments_next hcomma (ih h.1) (ih' h.2)
  | ifThen hword hthen _ _ ih ih' =>
    obtain ⟨rfl, h, h'⟩ := h
    exact term_ifThen hword hthen (ih h) (ih' h')
  | ifThenElse hword hthen helse _ _ _ ih ih' ih'' =>
    obtain ⟨rfl, h, h', h''⟩ := h
    exact term_ifThenElse hword hthen helse (ih h) (ih' h') (ih'' h'')
  | edgeIf hword hthen helse _ _ _ ih ih' ih'' =>
    obtain ⟨rfl, h, h', h''⟩ := h
    exact term_edgeIf hword hthen helse (ih h) (ih' h') (ih'' h'')
  | atChange hword hdo _ _ ih ih' =>
    obtain ⟨rfl, h, h'⟩ := h
    exact term_atChange hword hdo (ih h) (ih' h')

/-- A source is read to its end if the readers read its tokens as a program. -/
theorem program_of_complete {source : String} {e : Expr} {list : List Token}
    (hsource : Lexer.Tokenizes source list) (h : Complete source alone list (.program e)) :
    ∃ rest, program source (steps (Tokens.ofSource source).length) (Tokens.ofSource source) =
      .ok e rest := by
  obtain ⟨offset, hstarts⟩ := Lexer.tokenizes_iff.mp hsource
  have hended : (Tokens.ended offset).peek = .ok ⟨.ending, offset, offset⟩ := rfl
  have hread : (program source (steps (Tokens.ofSource source).length)
      (Tokens.ofSource source)).Yields e (.ended offset) := by
    refine yields_bind (h hstarts hended rfl _) ?_
    have hend : (⟨.ending, offset, offset⟩ : Lexeme).token.kind = .endOfInput := rfl
    rw [bind_expect hended hend]
    exact yields_pure _ _
  -- the steps are enough
  exact ⟨_, hread.resolve_left (program_ne_starved source _)⟩

/-- A source that is made of the tokens of a program is read to its end. -/
theorem program_complete {source : String} {e : Expr} {list : List Token}
    (hsource : Lexer.Tokenizes source list) (d : Derivation (.program e) list)
    (h : d.Grouped false) :
    ∃ rest, program source (steps (Tokens.ofSource source).length) (Tokens.ofSource source) =
      .ok e rest :=
  program_of_complete hsource (complete source d h)

end Parse

/-! ## §6 Whole sources -/

open Grammar

/-- **What is derived is read**: a source that is made of the tokens of a program, derived in such a
way that each form stands in parentheses of its own, is read as the tree of the derivation. -/
theorem grouped_read {source : String} {e : Expr} {ts : List Token}
    (hsource : Lexer.Tokenizes source ts) (d : Derivation (.program e) ts) (h : d.Grouped false) :
    Expr.read source = .ok e :=
  Expr.read_eq_ok_iff.mpr (Parse.program_complete hsource d h)

/-- A form in parentheses is an operand like any other. -/
theorem form_as_operand_read :
    ∃ ts, Lexer.Tokenizes "(if a then b) * 2;" ts ∧
      (∃ d : Derivation (.program (.binary .multiply (.ifThen (.var "a") (.var "b"))
        (.const (.int 2)))) ts, d.Grouped false) ∧
      Expr.read "(if a then b) * 2;" =
        .ok (.binary .multiply (.ifThen (.var "a") (.var "b")) (.const (.int 2))) := by
  let a : Derivation (.term (.var "a")) [⟨.name, "a"⟩] := .var (t := ⟨.name, "a"⟩) rfl rfl
  let b : Derivation (.term (.var "b")) [⟨.name, "b"⟩] := .var (t := ⟨.name, "b"⟩) rfl rfl
  let form : Derivation (.term (.ifThen (.var "a") (.var "b")))
      (⟨.wordIf, "if"⟩ :: ([⟨.name, "a"⟩] ++ ⟨.wordThen, "then"⟩ :: [⟨.name, "b"⟩])) :=
    .ifThen rfl rfl (.value (a.ofTerm .or)) (.plain (.value (b.ofTerm .or)))
  let group : Derivation (.term (.ifThen (.var "a") (.var "b")))
      (⟨.openParen, "("⟩ :: (_ ++ [⟨.closeParen, ")"⟩])) :=
    .group rfl rfl (.value (form.ofTerm .or))
  let two : Derivation (.term (.const (.int 2))) [⟨.number, "2"⟩] := .number rfl rfl
  have hmultiply : Operator.multiply ∈ Parse.Level.product.operators := by decide
  let d : Derivation (.program _) _ :=
    .last true (.plain (.value (.single (.single (.single (.single
      (.join hmultiply (group.ofTerm .product) two)))))))
  have hd : d.Grouped false := ⟨⟨rfl, trivial, trivial⟩, trivial⟩
  have hsource : Lexer.Tokenizes "(if a then b) * 2;" [⟨.openParen, "("⟩, ⟨.wordIf, "if"⟩,
      ⟨.name, "a"⟩, ⟨.wordThen, "then"⟩, ⟨.name, "b"⟩, ⟨.closeParen, ")"⟩, .operator "*",
      ⟨.number, "2"⟩, .operator ";"] := ⟨rfl, rfl⟩
  exact ⟨_, hsource, ⟨d, hd⟩, grouped_read hsource d hd⟩

end Cascade
