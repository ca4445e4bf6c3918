import Cascade.Proofs.Grammar
import Cascade.Proofs.Lexing
import Cascade.Proofs.Readers

/-!
# What is read is derived

A reader that succeeds has taken from the front of its tokens just those of a phrase of the grammar,
and it replies with the phrase's tree. The derivation gives each `else` to the nearest form that
lacks one: after a branch the reader looks whether an `else` comes next, and takes it if so.

The readers call each other with one step less, so what is shown of all of them for some steps holds
for one more. Main statement: `read_derived`.

§1 readers that derive; §2 one more step; §3 all readers; §4 whole sources.
-/

namespace Cascade

/-- Does an `else` come next? -/
def Tokens.elseNext : Tokens → Bool
  | cons l _ => l.token.kind == .wordElse
  | _ => false

theorem Tokens.elseNext_of_peek {ts : Tokens} {l : Lexeme} (h : ts.peek = .ok l) :
    ts.elseNext = (l.token.kind == .wordElse) := by
  cases ts with
  | ended offset => cases h; rfl
  | broken e => cases h
  | cons head tail => cases h; rfl

/-- Before an operator there is no `else`. -/
theorem Tokens.elseNext_of_operator {ts : Tokens} {l : Lexeme} {symbol : String}
    (h : ts.peek = .ok l) (hl : l.token = .operator symbol) : ts.elseNext = false := by
  rw [elseNext_of_peek h, hl]
  rfl

namespace Parse

open Grammar

/-! ## §1 Readers that derive -/

/-- **The phrase has been taken**: the tokens began with those of a derivation of it, in which each
`else` belongs to the nearest form, what comes next being taken into account. -/
def Taken (phrase : Phrase) (ts rest : Tokens) : Prop :=
  ∃ list, ts.Starts list rest ∧ ∃ d : Derivation phrase list, d.ElseNearest rest.elseNext

/-- The phrase and the bracket that closes it have been taken. -/
def TakenTo (kind : Token.Kind) (phrase : Phrase) (ts rest : Tokens) : Prop :=
  ∃ list closing, closing.kind = kind ∧ ts.Starts (list ++ [closing]) rest ∧
    ∃ d : Derivation phrase list, d.ElseNearest false

/-- **What is shown of all readers at once**: where they succeed, they have taken a phrase with the
tree that they reply with. -/
structure Sound (source : String) (steps : Nat) : Prop where
  sequence : ∀ {ts e rest}, sequence source steps ts = .ok e rest → Taken (.program e) ts rest
  statement : ∀ {ts e rest}, statement source steps ts = .ok e rest → Taken (.statement e) ts rest
  blockItems : ∀ {ts es rest}, blockItems source steps ts = .ok es rest →
    TakenTo .closeCurly (.items es) ts rest
  expression : ∀ {ts e rest}, expression source steps ts = .ok e rest →
    Taken (.expression e) ts rest
  binary : ∀ {level ts e rest}, binary source level steps ts = .ok e rest →
    Taken (.joined level e) ts rest
  /-- The loop goes on from a phrase of its level to a longer one. -/
  joined : ∀ {level left ts e rest}, joined source level left steps ts = .ok e rest →
    ∃ list, ts.Starts list rest ∧ ∀ {before} (d : Derivation (.joined level left) before),
      d.ElseNearest ts.elseNext →
      ∃ d' : Derivation (.joined level e) (before ++ list), d'.ElseNearest rest.elseNext
  operand : ∀ {level ts e rest}, operand source level steps ts = .ok e rest →
    Taken (Grammar.operand level e) ts rest
  term : ∀ {ts e rest}, term source steps ts = .ok e rest → Taken (.term e) ts rest
  arguments : ∀ {name ts es rest}, arguments source name steps ts = .ok es rest →
    TakenTo .closeParen (.arguments es) ts rest

/-- A token that is next and no end of the input has been taken. -/
theorem starts_of_kind {ts : Tokens} {l : Lexeme} {kind : Token.Kind} (h : ts.peek = .ok l)
    (hl : l.token.kind = kind) (hkind : kind ≠ .endOfInput) : ts.Starts [l.token] ts.tail := by
  have hcons := Tokens.cons_of_peek h (hl ▸ hkind)
  rw [hcons]
  exact (Tokens.Starts.nil _).cons l

theorem starts_of_operator {ts : Tokens} {l : Lexeme} {symbol : String} (h : ts.peek = .ok l)
    (hl : l.token = .operator symbol) : ts.Starts [.operator symbol] ts.tail := by
  have hkind : l.token.kind = .operator := by rw [hl]; rfl
  rw [← hl]
  exact starts_of_kind h hkind (by decide)

/-- Only a plain variable can be assigned to. -/
theorem target_ok {source : String} {equals : Lexeme} {e : Expr} {name : String} {ts rest : Tokens}
    (h : target source equals e ts = .ok name rest) : e = .var name ∧ rest = ts := by
  cases e with
  | var other =>
    cases h
    exact ⟨rfl, rfl⟩
  | _ => cases h

/-- An operator found at a level is one of that level, and the token is its spelling. -/
theorem Level.operator?_eq_some {level : Level} {t : Token} {op : Operator}
    (h : level.operator? t = some op) : op ∈ level.operators ∧ t = .operator op.symbol := by
  unfold Level.operator? at h
  have hfound := List.find?_some h
  exact ⟨List.mem_of_find?_eq_some h, Token.isOperator_iff.mp hfound⟩

/-! ## §2 One more step -/

section Step

variable {source : String} {steps : Nat} (ih : Sound source steps) {ts rest : Tokens} {e : Expr}
include ih

theorem sequence_taken (h : sequence source (steps + 1) ts = .ok e rest) :
    Taken (.program e) ts rest := by
  rw [sequence] at h
  obtain ⟨first, r1, hfirst, h⟩ := ok_of_bind h
  obtain ⟨list, hlist, d, hd⟩ := ih.statement hfirst
  obtain ⟨l, hl, h⟩ := ok_of_nextIsOperator h
  split at h
  · next hsemicolon =>
    have htoken := Token.isOperator_iff.mp hsemicolon
    have htaken := starts_of_operator hl htoken
    rw [Tokens.elseNext_of_operator hl htoken] at hd
    obtain ⟨l', hl', h⟩ := ok_of_advance h
    obtain ⟨m, hm, h⟩ := ok_of_nextIs h
    split at h
    · -- the `;` was the last token
      cases h
      exact ⟨_, hlist.append htaken, .last true d, hd⟩
    · obtain ⟨e', hrest, rfl⟩ := ok_of_bind_pure h
      obtain ⟨list', hlist', d', hd'⟩ := ih.sequence hrest
      exact ⟨_, hlist.append (htaken.append hlist'), .next d d', hd, hd'⟩
  · cases h
    refine ⟨_, ?_, .last false d, hd⟩
    simpa [trailing] using hlist

theorem statement_taken (h : statement source (steps + 1) ts = .ok e rest) :
    Taken (.statement e) ts rest := by
  rw [statement] at h
  obtain ⟨l, hl, h⟩ := ok_of_nextIs h
  split at h
  · next hopen =>
    rw [beq_iff_eq] at hopen
    have hopening := starts_of_kind hl hopen (by decide)
    obtain ⟨_, -, h⟩ := ok_of_advance h
    obtain ⟨m, hm, h⟩ := ok_of_nextIs h
    split at h
    · next hclose =>
      rw [beq_iff_eq] at hclose
      have hclosing := starts_of_kind hm hclose (by decide)
      obtain ⟨_, -, h⟩ := ok_of_advance h
      cases h
      exact ⟨_, hopening.append hclosing, .emptyBlock hopen hclose, trivial⟩
    · obtain ⟨es, hitems, rfl⟩ := ok_of_bind_pure h
      obtain ⟨list, closing, hclose, hlist, d, hd⟩ := ih.blockItems hitems
      exact ⟨_, hopening.append hlist, .block hopen hclose d, hd⟩
  · obtain ⟨list, hlist, d, hd⟩ := ih.expression h
    exact ⟨list, hlist, .plain d, hd⟩

theorem blockItems_taken {es : List Expr} (h : blockItems source (steps + 1) ts = .ok es rest) :
    TakenTo .closeCurly (.items es) ts rest := by
  rw [blockItems] at h
  obtain ⟨stmt, r1, hstmt, h⟩ := ok_of_bind h
  obtain ⟨list, hlist, d, hd⟩ := ih.statement hstmt
  obtain ⟨l, hl, h⟩ := ok_of_advance h
  split at h
  · next hsemicolon =>
    have htoken := Token.isOperator_iff.mp hsemicolon
    have htaken := starts_of_operator hl htoken
    rw [Tokens.elseNext_of_operator hl htoken] at hd
    obtain ⟨m, hm, h⟩ := ok_of_nextIs h
    split at h
    · next hclose =>
      rw [beq_iff_eq] at hclose
      have hclosing := starts_of_kind hm hclose (by decide)
      obtain ⟨_, -, h⟩ := ok_of_advance h
      cases h
      exact ⟨_, m.token, hclose, (hlist.append htaken).append hclosing, .lastItem true d, hd⟩
    · obtain ⟨es', hitems, rfl⟩ := ok_of_bind_pure h
      obtain ⟨list', closing, hclose, hlist', d', hd'⟩ := ih.blockItems hitems
      refine ⟨_, closing, hclose, ?_, .nextItem d d', hd, hd'⟩
      rw [List.append_assoc]
      exact hlist.append (htaken.append hlist')
  · split at h
    · next hclose =>
      have hclosing := starts_of_kind hl hclose (by decide)
      have helse : r1.elseNext = false := by
        rw [Tokens.elseNext_of_peek hl, hclose]
        rfl
      rw [helse] at hd
      cases h
      refine ⟨_, l.token, hclose, ?_, .lastItem false d, hd⟩
      simpa [trailing] using hlist.append hclosing
    · cases h

theorem expression_taken (h : expression source (steps + 1) ts = .ok e rest) :
    Taken (.expression e) ts rest := by
  rw [expression] at h
  obtain ⟨left, r1, hleft, h⟩ := ok_of_bind h
  obtain ⟨list, hlist, d, hd⟩ := ih.binary hleft
  obtain ⟨l, hl, h⟩ := ok_of_nextIsOperator h
  split at h
  · next hequals =>
    have htoken := Token.isOperator_iff.mp hequals
    have htaken := starts_of_operator hl htoken
    rw [Tokens.elseNext_of_operator hl htoken] at hd
    obtain ⟨_, -, h⟩ := ok_of_advance h
    obtain ⟨name, r2, htarget, h⟩ := ok_of_bind h
    obtain ⟨v, hvalue, rfl⟩ := ok_of_bind_pure h
    -- only a plain variable is a target
    obtain ⟨rfl, rfl⟩ := target_ok htarget
    obtain ⟨list', hlist', d', hd'⟩ := ih.expression hvalue
    exact ⟨_, hlist.append (htaken.append hlist'), .assign d d', hd, hd'⟩
  · cases h
    exact ⟨list, hlist, .value d, hd⟩

theorem binary_taken {level : Level} (h : binary source level (steps + 1) ts = .ok e rest) :
    Taken (.joined level e) ts rest := by
  rw [binary] at h
  obtain ⟨left, r1, hleft, h⟩ := ok_of_bind h
  obtain ⟨list, hlist, d, hd⟩ := ih.operand hleft
  obtain ⟨list', hlist', hjoin⟩ := ih.joined h
  exact ⟨_, hlist.append hlist', hjoin (.single d) hd⟩

theorem joined_taken {level : Level} {left : Expr}
    (h : joined source level left (steps + 1) ts = .ok e rest) :
    ∃ list, ts.Starts list rest ∧ ∀ {before} (d : Derivation (.joined level left) before),
      d.ElseNearest ts.elseNext →
      ∃ d' : Derivation (.joined level e) (before ++ list), d'.ElseNearest rest.elseNext := by
  rw [joined] at h
  obtain ⟨l, hl, h⟩ := ok_of_peek h
  cases hop : level.operator? l.token with
  | none =>
    rw [hop] at h
    cases h
    refine ⟨[], .nil ts, fun {before} d hd => ?_⟩
    rw [List.append_nil]
    exact ⟨d, hd⟩
  | some op =>
    rw [hop] at h
    obtain ⟨hmem, htoken⟩ := Level.operator?_eq_some hop
    have htaken := starts_of_operator hl htoken
    have helse := Tokens.elseNext_of_operator hl htoken
    obtain ⟨_, -, h⟩ := ok_of_advance h
    obtain ⟨right, r1, hright, h⟩ := ok_of_bind h
    obtain ⟨list, hlist, d, hd⟩ := ih.operand hright
    obtain ⟨list', hlist', hjoin⟩ := ih.joined h
    refine ⟨_, htaken.append (hlist.append hlist'), fun {before} d' hd' => ?_⟩
    rw [helse] at hd'
    obtain ⟨d'', hd''⟩ := hjoin (.join hmem d' d) ⟨hd', hd⟩
    rw [List.singleton_append, ← List.cons_append, ← List.append_assoc]
    exact ⟨d'', hd''⟩

theorem operand_taken {level : Level} (h : operand source level (steps + 1) ts = .ok e rest) :
    Taken (Grammar.operand level e) ts rest := by
  cases level <;> rw [operand] at h
  · exact ih.binary h
  · exact ih.binary h
  · exact ih.binary h
  · exact ih.binary h
  · exact ih.term h

theorem arguments_taken {name : String} {es : List Expr}
    (h : arguments source name (steps + 1) ts = .ok es rest) :
    TakenTo .closeParen (.arguments es) ts rest := by
  rw [arguments] at h
  obtain ⟨arg, r1, harg, h⟩ := ok_of_bind h
  obtain ⟨list, hlist, d, hd⟩ := ih.expression harg
  obtain ⟨l, hl, h⟩ := ok_of_advance h
  cases hkind : l.token.kind with
  | comma =>
    rw [hkind] at h
    have htaken := starts_of_kind hl hkind (by decide)
    have helse : r1.elseNext = false := by
      rw [Tokens.elseNext_of_peek hl, hkind]
      rfl
    rw [helse] at hd
    obtain ⟨es', hmore, rfl⟩ := ok_of_bind_pure h
    obtain ⟨list', closing, hclose, hlist', d', hd'⟩ := ih.arguments hmore
    refine ⟨_, closing, hclose, ?_, .nextArgument hkind d d', hd, hd'⟩
    rw [List.append_assoc]
    exact hlist.append (htaken.append hlist')
  | closeParen =>
    rw [hkind] at h
    have htaken := starts_of_kind hl hkind (by decide)
    have helse : r1.elseNext = false := by
      rw [Tokens.elseNext_of_peek hl, hkind]
      rfl
    rw [helse] at hd
    cases h
    exact ⟨list, l.token, hkind, hlist.append htaken, .lastArgument d, hd⟩
  | _ =>
    rw [hkind] at h
    cases h

/-- What the forms begin with behind their first word: an expression, another word and a statement.
-/
theorem clause_taken {kind : Token.Kind} (hkind : kind = .wordThen ∨ kind = .wordDo)
    {f : Expr → Expr → Parse Expr}
    (h : (do
      let head ← expression source steps
      expect source kind
      let body ← statement source steps
      f head body) ts = .ok e rest) :
    ∃ head body list us word mid, word.kind = kind ∧ ts.Starts (list ++ word :: us) mid ∧
      (∃ (d : Derivation (.expression head) list) (d' : Derivation (.statement body) us),
        d.ElseNearest false ∧ d'.ElseNearest mid.elseNext) ∧ f head body mid = .ok e rest := by
  obtain ⟨head, r1, hhead, h⟩ := ok_of_bind h
  obtain ⟨list, hlist, d, hd⟩ := ih.expression hhead
  obtain ⟨m, hm, hword, h⟩ := ok_of_expect h
  have htaken := starts_of_kind hm hword (by rcases hkind with rfl | rfl <;> decide)
  have helse : r1.elseNext = false := by
    rw [Tokens.elseNext_of_peek hm, hword]
    rcases hkind with rfl | rfl <;> rfl
  rw [helse] at hd
  obtain ⟨body, mid, hbody, h⟩ := ok_of_bind h
  obtain ⟨us, hus, d', hd'⟩ := ih.statement hbody
  exact ⟨head, body, list, us, m.token, mid, hword, hlist.append (htaken.append hus),
    ⟨d, d', hd, hd'⟩, h⟩

/-- A name that stands for itself, or is called if a parenthesis comes next. -/
theorem name_taken {l : Lexeme} (hl : l.token.kind = .name) (hts : ts.peek = .ok l)
    (h : term source (steps + 1) ts = .ok e rest) : Taken (.term e) ts rest := by
  have htaken := starts_of_kind hts hl (by decide)
  rw [term, bind_advance hts, hl] at h
  obtain ⟨m, hm, h⟩ := ok_of_peek h
  split at h
  · next hglob =>
    split at h
    · cases h
    · cases h
      exact ⟨_, htaken, .glob hglob, trivial⟩
  · next hglob =>
    rw [Bool.not_eq_true] at hglob
    split at h
    · next hopen =>
      have hopening := starts_of_kind hm hopen (by decide)
      obtain ⟨_, -, h⟩ := ok_of_advance h
      obtain ⟨n, hn, h⟩ := ok_of_nextIs h
      split at h
      · next hclose =>
        rw [beq_iff_eq] at hclose
        have hclosing := starts_of_kind hn hclose (by decide)
        obtain ⟨_, -, h⟩ := ok_of_advance h
        cases h
        exact ⟨_, htaken.append (hopening.append hclosing), .emptyCall hl hglob hopen hclose,
          trivial⟩
      · obtain ⟨es, hargs, rfl⟩ := ok_of_bind_pure h
        obtain ⟨list, closing, hclose, hlist, d, hd⟩ := ih.arguments hargs
        exact ⟨_, htaken.append (hopening.append hlist), .call hl hglob hopen hclose d, hd⟩
    · cases h
      exact ⟨_, htaken, .var hl hglob, trivial⟩

/-- An operator in front of a term: a star by itself, or a minus sign. -/
theorem sign_taken {l : Lexeme} (hl : l.token.kind = .operator) (hts : ts.peek = .ok l)
    (h : term source (steps + 1) ts = .ok e rest) : Taken (.term e) ts rest := by
  have htoken {s : String} (hs : l.token.lexeme = s) : l.token = .operator s := by
    rw [← Token.isOperator_iff, Token.isOperator, hl, hs, beq_self_eq_true, beq_self_eq_true,
      Bool.and_self]
  rw [term, bind_advance hts, hl] at h
  dsimp only at h
  split at h
  · next hstar =>
    rw [hstar] at h
    cases h
    exact ⟨_, starts_of_operator hts (htoken hstar), .star, trivial⟩
  · split at h
    · next hminus =>
      obtain ⟨inner, hinner, rfl⟩ := ok_of_bind_pure h
      obtain ⟨list, hlist, d, hd⟩ := ih.term hinner
      exact ⟨_, (starts_of_operator hts (htoken hminus)).append hlist, .negate d, hd⟩
    · cases h

theorem term_taken (h : term source (steps + 1) ts = .ok e rest) : Taken (.term e) ts rest := by
  have hread := h
  rw [term] at h
  obtain ⟨l, hl, h⟩ := ok_of_advance h
  cases hkind : l.token.kind with
  | openParen =>
    rw [hkind] at h
    have htaken := starts_of_kind hl hkind (by decide)
    obtain ⟨inner, r1, hinner, h⟩ := ok_of_bind h
    obtain ⟨list, hlist, d, hd⟩ := ih.expression hinner
    obtain ⟨m, hm, hclose, h⟩ := ok_of_expect h
    have hclosing := starts_of_kind hm hclose (by decide)
    rw [Tokens.elseNext_of_peek hm, hclose] at hd
    cases h
    exact ⟨_, htaken.append (hlist.append hclosing), .group hkind hclose d, hd⟩
  | number =>
    rw [hkind] at h
    have htaken := starts_of_kind hl hkind (by decide)
    dsimp only [number] at h
    cases hv : Value.readLiteral? l.token.lexeme.toList with
    | none =>
      rw [hv] at h
      cases h
    | some v =>
      rw [hv] at h
      cases h
      exact ⟨_, htaken, .number hkind hv, trivial⟩
  | string =>
    rw [hkind] at h
    have htaken := starts_of_kind hl hkind (by decide)
    cases h
    exact ⟨_, htaken, .string hkind, trivial⟩
  | name => exact name_taken ih hkind hl hread
  | wordIf =>
    rw [hkind] at h
    have htaken := starts_of_kind hl hkind (by decide)
    obtain ⟨test, branch, list, us, word, mid, hthen, hlist, ⟨d, d', hd, hd'⟩, h⟩ :=
      clause_taken ih (.inl rfl) h
    obtain ⟨n, hn, h⟩ := ok_of_nextIs h
    rw [Tokens.elseNext_of_peek hn] at hd'
    split at h
    · next helse =>
      rw [helse] at hd'
      rw [beq_iff_eq] at helse
      have helseWord := starts_of_kind hn helse (by decide)
      obtain ⟨_, -, h⟩ := ok_of_advance h
      obtain ⟨onFalse, honFalse, rfl⟩ := ok_of_bind_pure h
      obtain ⟨vs, hvs, d'', hd''⟩ := ih.statement honFalse
      have hall : ts.tail.Starts (list ++ word :: (us ++ n.token :: vs)) rest := by
        simpa using hlist.append (helseWord.append hvs)
      exact ⟨_, htaken.append hall, .ifThenElse hkind hthen helse d d' d'', hd, hd', hd''⟩
    · next helse =>
      -- no `else` comes next, so none is left to a form farther off
      rw [Bool.not_eq_true] at helse
      cases h
      rw [helse] at hd'
      rw [← Tokens.elseNext_of_peek hn] at helse
      exact ⟨_, htaken.append hlist, .ifThen hkind hthen d d', helse, hd, helse ▸ hd'⟩
  | wordEdgeIf =>
    rw [hkind] at h
    have htaken := starts_of_kind hl hkind (by decide)
    obtain ⟨test, onTrue, list, us, word, mid, hthen, hlist, ⟨d, d', hd, hd'⟩, h⟩ :=
      clause_taken ih (.inl rfl) h
    obtain ⟨n, hn, helse, h⟩ := ok_of_expect h
    have helseWord := starts_of_kind hn helse (by decide)
    rw [Tokens.elseNext_of_peek hn, helse] at hd'
    obtain ⟨onFalse, honFalse, rfl⟩ := ok_of_bind_pure h
    obtain ⟨vs, hvs, d'', hd''⟩ := ih.statement honFalse
    have hall : ts.tail.Starts (list ++ word :: (us ++ n.token :: vs)) rest := by
      simpa using hlist.append (helseWord.append hvs)
    exact ⟨_, htaken.append hall, .edgeIf hkind hthen helse d d' d'', hd, hd', hd''⟩
  | wordAt =>
    rw [hkind] at h
    have htaken := starts_of_kind hl hkind (by decide)
    obtain ⟨watch, action, list, us, word, mid, hdo, hlist, ⟨d, d', hd, hd'⟩, h⟩ :=
      clause_taken ih (.inr rfl) h
    cases h
    exact ⟨_, htaken.append hlist, .atChange hkind hdo d d', hd, hd'⟩
  | operator => exact sign_taken ih hkind hl hread
  | _ =>
    rw [hkind] at h
    cases h

end Step

/-! ## §3 All readers -/

theorem sound_zero (source : String) : Sound source 0 where
  sequence := nofun
  statement := nofun
  blockItems := nofun
  expression := nofun
  binary := nofun
  joined := nofun
  operand := by
    intro level ts e rest h
    rw [operand] at h
    cases h
  term := nofun
  arguments := nofun

/-- **Every reader is sound**, with any number of steps. -/
theorem sound (source : String) : ∀ steps, Sound source steps
  | 0 => sound_zero source
  | steps + 1 =>
    have ih := sound source steps
    { sequence := sequence_taken ih
      statement := statement_taken ih
      blockItems := blockItems_taken ih
      expression := expression_taken ih
      binary := binary_taken ih
      joined := joined_taken ih
      operand := operand_taken ih
      term := term_taken ih
      arguments := arguments_taken ih }

/-- What has been read of a source as a program is all of it. -/
theorem program_taken {source : String} {steps : Nat} {e : Expr} {rest : Tokens}
    (h : program source steps (Tokens.ofSource source) = .ok e rest) :
    ∃ ts, Lexer.Tokenizes source ts ∧ ∃ d : Derivation (.program e) ts, d.ElseNearest false := by
  obtain ⟨e', r1, hsequence, h⟩ := ok_of_bind h
  obtain ⟨l, hl, hend, h⟩ := ok_of_expect h
  cases h
  obtain ⟨ts, hts, d, hd⟩ := (sound source steps).sequence hsequence
  have helse : r1.elseNext = false := by
    rw [Tokens.elseNext_of_peek hl, hend]
    rfl
  rw [helse] at hd
  exact ⟨ts, Lexer.tokenizes_of_peek hts hl hend, d, hd⟩

end Parse

/-! ## §4 Whole sources -/

open Grammar

/-- **What is read is derived**: a source that is read as a tree is made of tokens up to its end,
and these, each once and in their order, are the ones of a derivation of the tree as a program, in
which each `else` belongs to the nearest form that lacks one. -/
theorem read_derived {source : String} {e : Expr} (h : Expr.read source = .ok e) :
    ∃ ts, Lexer.Tokenizes source ts ∧ ∃ d : Derivation (.program e) ts, d.ElseNearest false := by
  obtain ⟨rest, hread⟩ := Expr.read_eq_ok_iff.mp h
  exact Parse.program_taken hread

/-- Of two forms that lack an `else` the inner one gets it, and products bind tighter than sums. -/
theorem nearest_else_derived :
    Expr.read "if a then if b then c else d + e * f" =
        .ok (.ifThen (.var "a") (.ifThenElse (.var "b") (.var "c")
          (.binary .add (.var "d") (.binary .multiply (.var "e") (.var "f"))))) ∧
      ∃ ts, Lexer.Tokenizes "if a then if b then c else d + e * f" ts ∧
        ∃ d : Derivation (.program (.ifThen (.var "a") (.ifThenElse (.var "b") (.var "c")
          (.binary .add (.var "d") (.binary .multiply (.var "e") (.var "f")))))) ts,
          d.ElseNearest false :=
  ⟨rfl, read_derived rfl⟩

end Cascade
