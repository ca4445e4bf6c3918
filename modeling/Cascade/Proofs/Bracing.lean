import Cascade.Proofs.Remembering
import Cascade.Proofs.Roundtrip
import Cascade.Proofs.Tokenization

/-!
# A rule body in braces

A source that is read as a rule body is read between braces too, as the block of its statements, and
the block means what the body means: it depends on the same names, its remembering forms have the same
numbers, and its evaluation is the same one.

A reader succeeds on tokens in front of the end of the input as it does in front of a closing brace:
each of the two ends everything that is open, and no phrase begins with it. So what is read of the body
up to the end is read of it up to the brace. A sequence and a block differ in how they take a `;`, and
in how they keep the value of what came before.

§1 texts that go on; §2 tokens that go on; §3 one reader beside another; §4 one more step; §5 all
readers; §6 sequences and blocks; §7 what a block means; §8 whole sources.
-/

namespace Cascade

/-! ## §1 Texts that go on -/

namespace Scan

open Token (Closed)

/-- What stands behind a text is nothing of a class if neither the text nor what is there begins so. -/
theorem head?_append_eq_false {p : Char → Bool} {text k : List Char}
    (htext : ∀ c, text.head? = some c → p c = false) (hk : ∀ c, k.head? = some c → p c = false) :
    ∀ c, (text ++ k).head? = some c → p c = false := by
  cases text with
  | nil => exact hk
  | cons d text => exact htext

/-- Blanks in front of a text are skipped. -/
theorem Gives.blanks {gap text k : List Char} {t : Token} (h : Gives text t k)
    (hgap : ∀ c ∈ gap, Unicode.isBlank c = true) : Gives (gap ++ text) t k := by
  intro offset
  obtain ⟨start, stop, hnext⟩ := h (offset + gap.length)
  refine ⟨start, stop, ?_⟩
  rw [← hnext]
  simp only [next, List.takeWhile_append_of_pos hgap, List.dropWhile_append_of_pos hgap,
    List.length_append, Nat.add_assoc]

/-- **A token that has been scanned is scanned again** wherever the text stands, if what comes behind
the text cannot go on with the token. -/
theorem gives_of_next {offset start stop : Nat} {text rest : List Char} {t : Token}
    (h : next offset text = .token t start stop rest) {k : List Char} (hk : Closed k) :
    Gives (text ++ k) t (rest ++ k) := by
  obtain ⟨gap, tail, rfl, hgap, hfront, hnext⟩ := next_eq offset text
  rw [hnext] at h
  rw [List.append_assoc]
  refine Gives.blanks ?_ hgap
  cases tail with
  | nil => cases h
  | cons c tail =>
    have hblank : Unicode.isBlank c = false := hfront c rfl
    have hbegun := begun_begin (offset + gap.length) tail c
    rw [show begin _ c tail = _ from h] at hbegun
    cases hbegun with
    | bracket hkind => exact gives_bracket hkind _
    | @string s rest hquote htail hs =>
      subst hquote htail
      simpa using gives_string hs (rest ++ k)
    | @number s rest hc htail hs hrest =>
      subst htail
      rw [List.cons_append, List.append_assoc]
      exact gives_number hc hs (head?_append_eq_false hrest hk.number)
    | @word s rest hc htail hs hrest =>
      subst htail
      rw [List.cons_append, List.append_assoc]
      exact gives_word hblank hc hs (head?_append_eq_false hrest hk.name)
    | extended hext htail =>
      subst htail
      exact gives_extended hext _
    | symbol hc hrest =>
      refine gives_symbol hc fun hext => ?_
      cases rest with
      | nil => exact fun hhead => (hk '=' hhead).2 rfl
      | cons d rest => exact hrest hext

end Scan

/-- **A text that has been scanned to its end has its tokens wherever it stands.** -/
theorem Tokens.Spell.written {fuel offset : Nat} {text : List Char} {ts : List Token}
    (hfuel : text.length < fuel) (h : (scan offset text fuel).Spell ts) : Written text ts := by
  induction fuel generalizing offset text ts with
  | zero => exact absurd hfuel (Nat.not_lt_zero _)
  | succ fuel ih =>
    rw [scan] at h
    split at h
    · next hnext =>
      have hshorter := Scan.next_rest_lt hnext
      obtain ⟨us, rfl, hus⟩ := spell_cons.mp h
      intro k ks hk hks
      exact (ih (by omega) hus hk hks).token (Scan.gives_of_next hnext hk)
    · next hnext =>
      cases spell_ended.mp h
      have hblank := (Scan.blank_of_next hnext).1
      clear hnext hfuel
      induction text with
      | nil => exact .nil
      | cons c text ihtext =>
        rw [List.forall_mem_cons] at hblank
        exact fun _ _ hk hks => (ihtext hblank.2 hk hks).blank hblank.1
    · exact absurd h not_spell_broken

/-- **A source has its tokens wherever it stands**, if what comes behind cannot go on with the last. -/
theorem Lexer.Tokenizes.written {source : String} {ts : List Token} (h : Tokenizes source ts) :
    Written source.toList ts :=
  (tokenizes_iff.mp h).written (Nat.lt_succ_self _)

/-- A source in braces. -/
def braced (source : String) : String := "\x7b" ++ source ++ "\x7d"

/-- **The tokens of a source in braces** are those of the source between the braces. -/
theorem tokenizes_braced {source : String} {ts : List Token} (h : Lexer.Tokenizes source ts) :
    Lexer.Tokenizes (braced source) (⟨.openCurly, "\x7b"⟩ :: (ts ++ [⟨.closeCurly, "\x7d"⟩])) := by
  have htext : (braced source).toList = '\x7b' :: (source.toList ++ ['\x7d']) := by
    simp [braced]
  have hwritten := h.written.enclosed (o := '\x7b') (c := '\x7d') rfl rfl
  rw [← htext] at hwritten
  exact hwritten.tokenizes

/-! ## §2 Tokens that go on -/

namespace Tokens

/-- **Tokens that stand behind the end of some**: these are the same ones, in front of the end of the
input and in front of the others. -/
inductive Extends (behind : Tokens) : Tokens → Tokens → Prop
  | ended (offset : Nat) : Extends behind (.ended offset) behind
  | cons {l l' : Lexeme} {ts ts' : Tokens} : l'.token = l.token → l.token.kind ≠ .endOfInput →
      Extends behind ts ts' → Extends behind (.cons l ts) (.cons l' ts')

/-- Does a closing brace come next? -/
def Closing (ts : Tokens) : Prop := ∃ l, ts.peek = .ok l ∧ l.token.kind = .closeCurly

variable {behind ts ts' : Tokens}

theorem extends_of_starts {offset : Nat} {list : List Token} (h : ts.Starts list (.ended offset))
    (h' : ts'.Starts list behind) (hlist : ∀ t ∈ list, t.kind ≠ .endOfInput) :
    behind.Extends ts ts' := by
  induction list generalizing ts ts' with
  | nil =>
    cases starts_nil_iff.mp h
    cases starts_nil_iff.mp h'
    exact .ended offset
  | cons t list ih =>
    obtain ⟨l, tail, rfl, rfl, htail⟩ := starts_cons_iff.mp h
    obtain ⟨l', tail', rfl, hl', htail'⟩ := starts_cons_iff.mp h'
    rw [List.forall_mem_cons] at hlist
    exact .cons hl' hlist.1 (ih htail htail' hlist.2)

theorem Extends.of_ended {offset : Nat} (h : behind.Extends (.ended offset) ts') : ts' = behind := by
  cases h
  rfl

/-- What comes next is the same token, unless it is the end. -/
theorem Extends.next_of_ne (h : behind.Extends ts ts') {l : Lexeme} (hl : ts.peek = .ok l)
    (hkind : l.token.kind ≠ .endOfInput) :
    ∃ l', ts'.peek = .ok l' ∧ l'.token = l.token ∧ behind.Extends ts.tail ts'.tail := by
  cases h with
  | ended offset =>
    cases hl
    exact absurd rfl hkind
  | @cons m m' _ _ htoken _ htail =>
    cases hl
    exact ⟨m', rfl, htoken, htail⟩

/-- **What comes next on both sides**: the same token, or the end and a closing brace. -/
inductive Facing (behind ts ts' : Tokens) (l l' : Lexeme) : Prop
  | same : l'.token = l.token → behind.Extends ts.tail ts'.tail → Facing behind ts ts' l l'
  | ending {offset : Nat} : ts = .ended offset → l.token.kind = .endOfInput →
      l'.token.kind = .closeCurly → Facing behind ts ts' l l'

theorem Extends.next (h : behind.Extends ts ts') (hbehind : behind.Closing) {l : Lexeme}
    (hl : ts.peek = .ok l) : ∃ l', ts'.peek = .ok l' ∧ Facing behind ts ts' l l' := by
  cases h with
  | ended offset =>
    obtain ⟨l', hl', hclose⟩ := hbehind
    cases hl
    exact ⟨l', hl', .ending rfl rfl hclose⟩
  | @cons m m' _ _ htoken _ htail =>
    cases hl
    exact ⟨m', rfl, .same htoken htail⟩

end Tokens

/-! ## §3 One reader beside another -/

namespace Parse

/-- **A reader keeps up with another**: where that has a result in front of the end of the input, the
reader has the same in front of what goes on there, unless its steps do not suffice. -/
def KeepsUp (behind : Tokens) (p p' : Parse α) (ts ts' : Tokens) : Prop :=
  ∀ a rest, p ts = .ok a rest →
    p' ts' = .starved ∨ ∃ rest', p' ts' = .ok a rest' ∧ behind.Extends rest rest'

namespace KeepsUp

variable {behind ts ts' : Tokens}

theorem pure (h : behind.Extends ts ts') (a : α) :
    KeepsUp behind (Pure.pure a) (Pure.pure a) ts ts' := by
  intro _ _ hok
  cases hok
  exact Or.inr ⟨ts', rfl, h⟩

/-- Where there is no result there is nothing to keep up with. -/
theorem stop (e : ParseError) (p' : Parse α) : KeepsUp behind (Parse.stop e) p' ts ts' := by
  intro _ _ hok
  cases hok

theorem starve (p' : Parse α) : KeepsUp behind Parse.starve p' ts ts' := by
  intro _ _ hok
  cases hok

theorem bind {p p' : Parse α} {f f' : α → Parse β} (h : KeepsUp behind p p' ts ts')
    (hnext : ∀ a {mid mid'}, behind.Extends mid mid' → KeepsUp behind (f a) (f' a) mid mid') :
    KeepsUp behind (p >>= f) (p' >>= f') ts ts' := by
  intro b rest hok
  obtain ⟨a, mid, hp, hf⟩ := ok_of_bind hok
  rcases h a mid hp with hstarved | ⟨mid', hp', hmid⟩
  · exact Or.inl (bind_of_starved hstarved)
  · rw [bind_of_ok hp']
    exact hnext a hmid b rest hf

theorem map {p p' : Parse α} (h : KeepsUp behind p p' ts ts') (g : α → β) :
    KeepsUp behind (p >>= fun a => Pure.pure (g a)) (p' >>= fun a => Pure.pure (g a)) ts ts' :=
  h.bind fun a _ _ hmid => .pure hmid (g a)

/-- Both take the token that they have looked at. -/
theorem taken {f f' : Lexeme → Parse α} {l l' : Lexeme} (hl : ts.peek = .ok l)
    (hl' : ts'.peek = .ok l') (hf : KeepsUp behind (f l) (f' l') ts.tail ts'.tail) :
    KeepsUp behind (Parse.advance >>= f) (Parse.advance >>= f') ts ts' := by
  intro a rest hok
  rw [bind_advance hl] at hok
  rw [bind_advance hl']
  exact hf a rest hok

variable (hbehind : behind.Closing) (h : behind.Extends ts ts')
include hbehind h

/-- Looking at the next token. -/
theorem look {f f' : Lexeme → Parse α}
    (hf : ∀ l l', ts.peek = .ok l → ts'.peek = .ok l' → behind.Facing ts ts' l l' →
      KeepsUp behind (f l) (f' l') ts ts') :
    KeepsUp behind (peek >>= f) (peek >>= f') ts ts' := by
  intro a rest hok
  obtain ⟨l, hl, hok⟩ := ok_of_peek hok
  obtain ⟨l', hl', hnext⟩ := h.next hbehind hl
  rw [bind_peek hl']
  exact hf l l' hl hl' hnext a rest hok

/-- Taking a token, the end of the input not being one to go on with. -/
theorem advance {f f' : Lexeme → Parse α}
    (hf : ∀ l l', l'.token = l.token → behind.Extends ts.tail ts'.tail →
      KeepsUp behind (f l) (f' l') ts.tail ts'.tail)
    (hend : ∀ l, l.token.kind = .endOfInput → ∀ a rest, f l ts.tail ≠ .ok a rest) :
    KeepsUp behind (Parse.advance >>= f) (Parse.advance >>= f') ts ts' := by
  intro a rest hok
  obtain ⟨l, hl, hf'⟩ := ok_of_advance hok
  obtain ⟨l', hl', ⟨htoken, htail⟩ | ⟨-, hkind, -⟩⟩ := h.next hbehind hl
  · exact taken hl hl' (hf l l' htoken htail) a rest hok
  · exact absurd hf' (hend l hkind a rest)

/-- **Looking whether a token of a class comes next, and taking it if so.** The end of the input is of
no such class. If a closing brace is, there must be no result at the end without one. -/
theorem ifNext {q : Parse Bool} {test : Token → Bool} {f f' : Lexeme → Parse α} {g g' : Parse α}
    (hq : q = peek >>= fun l => Pure.pure (test l.token))
    (hend : ∀ t, t.kind = .endOfInput → test t = false)
    (hclose : (∀ t, t.kind = .closeCurly → test t = false) ∨
      ∀ offset a rest, g (.ended offset) ≠ .ok a rest)
    (hthen : ∀ l l', behind.Extends ts.tail ts'.tail →
      KeepsUp behind (f l) (f' l') ts.tail ts'.tail)
    (helse : KeepsUp behind g g' ts ts') :
    KeepsUp behind (q >>= fun b => if b = true then Parse.advance >>= f else g)
      (q >>= fun b => if b = true then Parse.advance >>= f' else g') ts ts' := by
  intro a rest hok
  obtain ⟨b, mid, hb, hok⟩ := ok_of_bind hok
  rw [hq] at hb
  obtain ⟨l, hl, hpure⟩ := ok_of_peek hb
  cases hpure
  obtain ⟨l', hl', hnext⟩ := h.next hbehind hl
  have hlook : q ts' = .ok (test l'.token) ts' := hq ▸ bind_peek hl' _
  rw [bind_of_ok hlook]
  rcases hnext with ⟨htoken, htail⟩ | ⟨rfl, hkind, hkind'⟩
  · rw [htoken]
    by_cases htest : test l.token = true
    · rw [if_pos htest] at hok ⊢
      exact taken hl hl' (hthen l l' htail) a rest hok
    · rw [if_neg htest] at hok ⊢
      exact helse a rest hok
  · rw [hend l.token hkind, if_neg Bool.false_ne_true] at hok
    rcases hclose with hno | hno
    · rw [hno l'.token hkind', if_neg Bool.false_ne_true]
      exact helse a rest hok
    · exact absurd hok (hno _ a rest)

variable {f f' : Lexeme → Parse α} {g g' : Parse α}

theorem ifKind {kind : Token.Kind} (hkind : kind ∉ [.endOfInput, .closeCurly])
    (hthen : ∀ l l', behind.Extends ts.tail ts'.tail →
      KeepsUp behind (f l) (f' l') ts.tail ts'.tail)
    (helse : KeepsUp behind g g' ts ts') :
    KeepsUp behind (nextIs kind >>= fun b => if b = true then Parse.advance >>= f else g)
      (nextIs kind >>= fun b => if b = true then Parse.advance >>= f' else g') ts ts' := by
  have hother : ∀ other ∈ [Token.Kind.endOfInput, .closeCurly], ∀ t : Token, t.kind = other →
      (t.kind == kind) = false := by
    rintro other hmem t rfl
    rw [beq_eq_false_iff_ne]
    rintro rfl
    exact hkind hmem
  exact ifNext hbehind h rfl (hother _ (by simp)) (.inl (hother _ (by simp))) hthen helse

/-- The same without taking it. -/
theorem ifPeek {kind : Token.Kind} (hkind : kind ∉ [.endOfInput, .closeCurly])
    (hthen : ∀ l l', ts.peek = .ok l → ts'.peek = .ok l' → behind.Extends ts.tail ts'.tail →
      KeepsUp behind (f l) (f' l') ts ts')
    (helse : KeepsUp behind g g' ts ts') :
    KeepsUp behind (peek >>= fun l => if l.token.kind = kind then f l else g)
      (peek >>= fun l => if l.token.kind = kind then f' l else g') ts ts' := by
  refine look hbehind h fun l l' hl hl' hnext => ?_
  rcases hnext with ⟨htoken, htail⟩ | ⟨-, hend, hclose⟩
  · rw [htoken]
    split
    · exact hthen l l' hl hl' htail
    · exact helse
  · have hne : l.token.kind ≠ kind := by
      rintro rfl
      exact hkind (by simp [hend])
    have hne' : l'.token.kind ≠ kind := by
      rintro rfl
      exact hkind (by simp [hclose])
    rw [if_neg hne, if_neg hne']
    exact helse

theorem ifOperator {symbol : String}
    (hthen : ∀ l l', behind.Extends ts.tail ts'.tail →
      KeepsUp behind (f l) (f' l') ts.tail ts'.tail)
    (helse : KeepsUp behind g g' ts ts') :
    KeepsUp behind
      (nextIsOperator symbol >>= fun b => if b = true then Parse.advance >>= f else g)
      (nextIsOperator symbol >>= fun b => if b = true then Parse.advance >>= f' else g')
      ts ts' :=
  ifNext hbehind h rfl (fun _ ht => isOperator_of_kind ht (by decide))
    (.inl fun _ ht => isOperator_of_kind ht (by decide)) hthen helse

theorem expect {kind : Token.Kind} (hkind : kind ≠ .endOfInput) (source source' : String) :
    KeepsUp behind (Parse.expect source kind) (Parse.expect source' kind) ts ts' := by
  refine advance hbehind h (fun l l' htoken htail => ?_) fun l hl a rest hok => ?_
  · rw [htoken]
    split
    · exact .pure htail ()
    · exact .stop _ _
  · rw [hl, if_neg hkind.symm] at hok
    cases hok

end KeepsUp

/-! ## §4 One more step -/

/-- There are no statements of a block at the end of the input. -/
theorem blockItems_ended (source : String) (steps : Nat) (offset : Nat) (es : List Expr)
    (rest : Tokens) : blockItems source steps (.ended offset) ≠ .ok es rest := by
  intro h
  obtain ⟨list, closing, -, hstarts, -⟩ := (sound source steps).blockItems h
  cases list with
  | nil => cases hstarts
  | cons t list => cases hstarts

/-- **What is shown of all readers at once**: with so many steps each of them keeps up with its like on
the other source, whatever steps that has. -/
structure InStep (source source' : String) (behind : Tokens) (steps' : Nat) : Prop where
  statement : ∀ steps {ts ts'}, behind.Extends ts ts' →
    KeepsUp behind (statement source steps) (statement source' steps') ts ts'
  blockItems : ∀ steps {ts ts'}, behind.Extends ts ts' →
    KeepsUp behind (blockItems source steps) (blockItems source' steps') ts ts'
  expression : ∀ steps {ts ts'}, behind.Extends ts ts' →
    KeepsUp behind (expression source steps) (expression source' steps') ts ts'
  binary : ∀ level steps {ts ts'}, behind.Extends ts ts' →
    KeepsUp behind (binary source level steps) (binary source' level steps') ts ts'
  joined : ∀ level left steps {ts ts'}, behind.Extends ts ts' →
    KeepsUp behind (joined source level left steps) (joined source' level left steps') ts ts'
  operand : ∀ level steps {ts ts'}, behind.Extends ts ts' →
    KeepsUp behind (operand source level steps) (operand source' level steps') ts ts'
  term : ∀ steps {ts ts'}, behind.Extends ts ts' →
    KeepsUp behind (term source steps) (term source' steps') ts ts'
  arguments : ∀ name steps {ts ts'}, behind.Extends ts ts' →
    KeepsUp behind (arguments source name steps) (arguments source' name steps') ts ts'

section Step

variable {source source' : String} {behind : Tokens} {steps' : Nat} {ts ts' : Tokens}

/-- Both have the same number. -/
theorem number_inStep (h : behind.Extends ts ts') {l l' : Lexeme} (htoken : l'.token = l.token) :
    KeepsUp behind (number source l) (number source' l') ts ts' := by
  unfold number
  rw [htoken]
  split
  · exact .pure h _
  · exact .stop _ _

/-- Both assign to the same name. -/
theorem target_inStep (h : behind.Extends ts ts') {equals equals' : Lexeme} (e : Expr) :
    KeepsUp behind (target source equals e) (target source' equals' e) ts ts' := by
  cases e with
  | var name => exact .pure h name
  | _ => exact .stop _ _

variable (ih : InStep source source' behind steps') (hbehind : behind.Closing) (steps : Nat)
variable (h : behind.Extends ts ts')
include ih h

include hbehind in
/-- A closing brace, or else statements up to one. -/
theorem closing_inStep (a : α) (g : List Expr → α) :
    KeepsUp behind
      (nextIs .closeCurly >>= fun b => if b = true then advance >>= fun _ => pure a
        else blockItems source steps >>= fun es => pure (g es))
      (nextIs .closeCurly >>= fun b => if b = true then advance >>= fun _ => pure a
        else blockItems source' steps' >>= fun es => pure (g es)) ts ts' := by
  have hend : ∀ t : Token, t.kind = .endOfInput → (t.kind == .closeCurly) = false := by
    intro t ht
    rw [ht]
    rfl
  -- the brace stands where the end is, but at the end there are no statements
  refine .ifNext hbehind h rfl hend (.inr fun offset b rest hok => ?_)
    (fun _ _ hrest => .pure hrest a) ((ih.blockItems steps h).map g)
  obtain ⟨es, hitems, -⟩ := ok_of_bind_pure hok
  exact blockItems_ended source steps offset es rest hitems

include hbehind in
theorem statement_inStep :
    KeepsUp behind (statement source steps) (statement source' (steps' + 1)) ts ts' := by
  cases steps with
  | zero => exact .starve _
  | succ steps =>
    rw [statement, statement]
    refine .ifKind hbehind h (by decide) (fun _ _ hblock => ?_) (ih.expression steps h)
    exact closing_inStep ih hbehind steps hblock (Expr.block []) Expr.block

include hbehind in
theorem blockItems_inStep :
    KeepsUp behind (blockItems source steps) (blockItems source' (steps' + 1)) ts ts' := by
  cases steps with
  | zero => exact .starve _
  | succ steps =>
    rw [blockItems, blockItems]
    refine (ih.statement steps h).bind fun stmt _ _ hstmt => ?_
    refine .advance hbehind hstmt (fun l l' htoken hrest => ?_) fun l hl es rest hok => ?_
    · rw [htoken]
      split
      · exact closing_inStep ih hbehind steps hrest [stmt] (stmt :: ·)
      · split
        · exact .pure hrest _
        · exact .stop _ _
    · rw [isOperator_of_kind hl (by decide), hl] at hok
      cases hok

include hbehind in
theorem expression_inStep :
    KeepsUp behind (expression source steps) (expression source' (steps' + 1)) ts ts' := by
  cases steps with
  | zero => exact .starve _
  | succ steps =>
    rw [expression, expression]
    refine (ih.binary .or steps h).bind fun left _ _ hleft => ?_
    refine .ifOperator hbehind hleft (fun equals equals' hrest => ?_) (.pure hleft left)
    refine (target_inStep hrest left).bind fun name _ _ hname => ?_
    exact (ih.expression steps hname).map _

theorem binary_inStep (level : Level) :
    KeepsUp behind (binary source level steps) (binary source' level (steps' + 1)) ts ts' := by
  cases steps with
  | zero => exact .starve _
  | succ steps =>
    rw [binary, binary]
    exact (ih.operand level steps h).bind fun left _ _ hleft => ih.joined level left steps hleft

include hbehind in
theorem joined_inStep (level : Level) (left : Expr) :
    KeepsUp behind (joined source level left steps) (joined source' level left (steps' + 1))
      ts ts' := by
  cases steps with
  | zero => exact .starve _
  | succ steps =>
    rw [joined, joined]
    refine .look hbehind h fun l l' hl hl' hnext => ?_
    rcases hnext with ⟨htoken, htail⟩ | ⟨-, hkind, hkind'⟩
    · rw [htoken]
      cases level.operator? l.token with
      | none => exact .pure h left
      | some op =>
        refine .taken hl hl' ?_
        exact (ih.operand level steps htail).bind fun right _ _ hright =>
          ih.joined level (.binary op left right) steps hright
    · rw [Level.operator?_of_kind (by rw [hkind]; decide),
        Level.operator?_of_kind (by rw [hkind']; decide)]
      exact .pure h left

theorem operand_inStep (level : Level) :
    KeepsUp behind (operand source level steps) (operand source' level (steps' + 1)) ts ts' := by
  cases steps with
  | zero =>
    rw [operand]
    exact .starve _
  | succ steps =>
    cases level <;> rw [operand, operand]
    · exact ih.binary .and steps h
    · exact ih.binary .comparison steps h
    · exact ih.binary .sum steps h
    · exact ih.binary .product steps h
    · exact ih.term steps h

include hbehind in
theorem arguments_inStep (name : String) :
    KeepsUp behind (arguments source name steps) (arguments source' name (steps' + 1)) ts ts' := by
  cases steps with
  | zero => exact .starve _
  | succ steps =>
    rw [arguments, arguments]
    refine (ih.expression steps h).bind fun arg _ _ harg => ?_
    refine .advance hbehind harg (fun l l' htoken hrest => ?_) fun l hl es rest hok => ?_
    · rw [htoken]
      cases l.token.kind with
      | comma => exact (ih.arguments name steps hrest).map _
      | closeParen => exact .pure hrest _
      | _ => exact .stop _ _
    · rw [hl] at hok
      cases hok

include hbehind in
/-- What the forms begin with behind their first word: an expression, another word and a statement. -/
theorem clause_inStep {kind : Token.Kind} (hkind : kind ≠ .endOfInput)
    {f f' : Expr → Expr → Parse Expr}
    (hf : ∀ head body {mid mid'}, behind.Extends mid mid' →
      KeepsUp behind (f head body) (f' head body) mid mid') :
    KeepsUp behind
      (do
        let head ← expression source steps
        expect source kind
        let body ← statement source steps
        f head body)
      (do
        let head ← expression source' steps'
        expect source' kind
        let body ← statement source' steps'
        f' head body) ts ts' := by
  refine (ih.expression steps h).bind fun head _ _ hhead => ?_
  refine (KeepsUp.expect hbehind hhead hkind source source').bind fun _ _ _ hword => ?_
  exact (ih.statement steps hword).bind fun body _ _ hbody => hf head body hbody

include hbehind in
theorem term_inStep :
    KeepsUp behind (term source steps) (term source' (steps' + 1)) ts ts' := by
  cases steps with
  | zero => exact .starve _
  | succ steps =>
    rw [term, term]
    refine .advance hbehind h (fun l l' htoken hrest => ?_) fun l hl e rest hok => ?_
    · rw [htoken]
      cases hkind : l.token.kind with
      | openParen =>
        refine (ih.expression steps hrest).bind fun e _ _ he => ?_
        exact (KeepsUp.expect hbehind he (by decide) source source').map _
      | number => exact number_inStep hrest htoken
      | string => exact .pure hrest _
      | name =>
        dsimp only
        by_cases hglob : l.token.isGlob = true
        · simp only [if_pos hglob]
          exact .ifPeek hbehind hrest (by decide) (fun _ _ _ _ _ => .stop _ _)
            (.pure hrest _)
        · simp only [if_neg hglob]
          refine .ifPeek hbehind hrest (by decide) (fun m m' hm hm' hargs => .taken hm hm' ?_)
            (.pure hrest _)
          refine .ifKind hbehind hargs (by decide) (fun _ _ hcalled => .pure hcalled _) ?_
          exact (ih.arguments l.token.lexeme steps hargs).map _
      | wordIf =>
        refine clause_inStep ih hbehind steps hrest (by decide) fun test branch _ _ hmid => ?_
        refine .ifKind hbehind hmid (by decide) (fun _ _ helse => ?_) (.pure hmid _)
        exact (ih.statement steps helse).map _
      | wordEdgeIf =>
        refine clause_inStep ih hbehind steps hrest (by decide) fun test onTrue _ _ hmid => ?_
        refine (KeepsUp.expect hbehind hmid (by decide) source source').bind fun _ _ _ helse => ?_
        exact (ih.statement steps helse).map _
      | wordAt =>
        refine clause_inStep ih hbehind steps hrest (by decide) fun watch action _ _ hmid => ?_
        exact .pure hmid _
      | operator =>
        dsimp only
        split
        · exact .pure hrest _
        · split
          · exact (ih.term steps hrest).map _
          · exact .stop _ _
      | _ => exact .stop _ _
    · rw [hl] at hok
      cases hok

end Step

/-! ## §5 All readers -/

theorem inStep_zero (source source' : String) (behind : Tokens) :
    InStep source source' behind 0 where
  statement _ _ _ _ _ _ _ := .inl rfl
  blockItems _ _ _ _ _ _ _ := .inl rfl
  expression _ _ _ _ _ _ _ := .inl rfl
  binary _ _ _ _ _ _ _ _ := .inl rfl
  joined _ _ _ _ _ _ _ _ _ := .inl rfl
  operand level _ _ ts' _ _ _ _ := by
    left
    rw [operand]
    rfl
  term _ _ _ _ _ _ _ := .inl rfl
  arguments _ _ _ _ _ _ _ _ := .inl rfl

/-- **In front of a closing brace every reader does as it does in front of the end.** -/
theorem inStep (source source' : String) {behind : Tokens} (hbehind : behind.Closing) :
    ∀ steps', InStep source source' behind steps'
  | 0 => inStep_zero source source' behind
  | steps' + 1 =>
    have ih := inStep source source' hbehind steps'
    { statement := fun steps _ _ h => statement_inStep ih hbehind steps h
      blockItems := fun steps _ _ h => blockItems_inStep ih hbehind steps h
      expression := fun steps _ _ h => expression_inStep ih hbehind steps h
      binary := fun level steps _ _ h => binary_inStep ih steps h level
      joined := fun level left steps _ _ h => joined_inStep ih hbehind steps h level left
      operand := fun level steps _ _ h => operand_inStep ih steps h level
      term := fun steps _ _ h => term_inStep ih hbehind steps h
      arguments := fun name steps _ _ h => arguments_inStep ih hbehind steps h name }

/-! ## §6 Sequences and blocks -/

open Grammar

/-- **The statements of a program are those of a block.** -/
theorem items_of_program {phrase : Phrase} {list : List Token} (d : Derivation phrase list) :
    match phrase with
    | .program e => Nonempty (Derivation (.items e.statements) list)
    | _ => True := by
  induction d with
  | last semicolon d _ =>
    have hone := Expr.statements_of_not_seq (not_seq_of_derivation d)
    dsimp only
    rw [hone]
    exact ⟨.lastItem semicolon d⟩
  | next d _ _ ih =>
    obtain ⟨items⟩ := ih
    exact ⟨.nextItem d items⟩
  | _ => trivial

/-- **How a sequence ends at the end of the input**: its last statement does, or a `;` behind that, or
else another sequence behind a `;`. -/
theorem sequence_cases {source : String} {steps : Nat} {ts : Tokens} {e : Expr} {offset : Nat}
    (h : sequence source (steps + 1) ts = .ok e (.ended offset)) :
    ∃ first mid, statement source steps ts = .ok first mid ∧
      (e = first ∧ mid = .ended offset ∨
        ∃ l, mid.peek = .ok l ∧ l.token = .operator ";" ∧
          (e = first ∧ mid.tail = .ended offset ∨
            ∃ e', e = .seq first e' ∧ sequence source steps mid.tail = .ok e' (.ended offset))) := by
  rw [sequence] at h
  obtain ⟨first, mid, hfirst, h⟩ := ok_of_bind h
  refine ⟨first, mid, hfirst, ?_⟩
  obtain ⟨l, hl, h⟩ := ok_of_nextIsOperator h
  split at h
  · next hsemicolon =>
    refine Or.inr ⟨l, hl, Token.isOperator_iff.mp hsemicolon, ?_⟩
    rw [bind_advance hl] at h
    obtain ⟨m, hm, h⟩ := ok_of_nextIs h
    split at h
    · obtain ⟨hfirst, hended⟩ := Reply.ok.inj (h : Reply.ok first mid.tail = _)
      exact Or.inl ⟨hfirst.symm, hended⟩
    · obtain ⟨e', hrest, he⟩ := ok_of_bind_pure h
      exact Or.inr ⟨e', he, hrest⟩
  · cases h
    exact Or.inl ⟨rfl, rfl⟩

/-- **What is read as a sequence up to the end of the input is read as the statements of a block up to
a closing brace**, which is taken too. -/
theorem blockItems_of_sequence {source : String} (source' : String) {behind : Tokens}
    (hbehind : behind.Closing) {steps : Nat} {ts ts' : Tokens} {e : Expr} {offset : Nat}
    (h : behind.Extends ts ts') (hok : sequence source steps ts = .ok e (.ended offset))
    (steps' : Nat) : (blockItems source' steps' ts').Yields e.statements behind.tail := by
  induction steps generalizing ts ts' e steps' with
  | zero => cases hok
  | succ steps ih =>
    cases steps' with
    | zero => exact .inl rfl
    | succ steps' =>
      obtain ⟨first, mid, hfirst, hends⟩ := sequence_cases hok
      obtain ⟨_, -, d, -⟩ := (sound source steps).statement hfirst
      have hone : first.statements = [first] := Expr.statements_of_not_seq (not_seq_of_derivation d)
      rw [blockItems]
      rcases (inStep source source' hbehind steps').statement steps h first mid hfirst with
        hstarved | ⟨mid', hfirst', hmid⟩
      · exact .inl (bind_of_starved hstarved)
      rw [bind_of_ok hfirst']
      rcases hends with ⟨rfl, rfl⟩ | ⟨l, hl, hsemicolon, hmore⟩
      · -- the brace stands where the end is
        obtain ⟨brace, hbrace, hclose⟩ := hbehind
        rw [hmid.of_ended, bind_advance hbrace, isOperator_of_kind hclose (by decide),
          if_neg Bool.false_ne_true, if_pos hclose, hone]
        exact yields_pure _ _
      · have hkind : l.token.kind ≠ .endOfInput := by
          rw [hsemicolon]
          decide
        obtain ⟨l', hl', htoken, htail⟩ := hmid.next_of_ne hl hkind
        rw [bind_advance hl', htoken, Token.isOperator_iff.mpr hsemicolon, if_pos rfl]
        rcases hmore with ⟨rfl, hended⟩ | ⟨e', rfl, hrest⟩
        · obtain ⟨brace, hbrace, hclose⟩ := hbehind
          rw [hended] at htail
          rw [htail.of_ended, bind_nextIs hbrace, beq_iff_eq.mpr hclose, if_pos rfl,
            bind_advance hbrace, hone]
          exact yields_pure _ _
        · -- no statement begins with a closing brace
          obtain ⟨_, hstarts, d', -⟩ := (sound source steps).sequence hrest
          obtain ⟨t, _, rfl, ht⟩ := begins d'
          obtain ⟨m, hm, rfl, -⟩ := hstarts.peek
          obtain ⟨m', hm', htoken', -⟩ := htail.next_of_ne hm ht.ending
          rw [bind_nextIs hm', htoken', beq_eq_false_iff_ne.mpr ht.closeCurly,
            if_neg Bool.false_ne_true]
          exact yields_bind_pure (ih htail hrest steps') _

/-- **The body of a source is read between braces**, as the block of its statements. -/
theorem program_braced {source : String} {steps : Nat} {e : Expr} {rest : Tokens}
    (h : program source steps (Tokens.ofSource source) = .ok e rest) :
    ∃ rest', program (braced source) (Parse.steps (Tokens.ofSource (braced source)).length)
      (Tokens.ofSource (braced source)) = .ok (.block e.statements) rest' := by
  obtain ⟨_, mid, hsequence, h⟩ := ok_of_bind h
  obtain ⟨l, hl, hend, h⟩ := ok_of_expect h
  cases h
  obtain ⟨list, hstarts, d, -⟩ := (sound source steps).sequence hsequence
  obtain ⟨hlexical, _, _, _, rfl⟩ := Tokens.lexical_of_starts hstarts
  obtain ⟨offset, hended⟩ := Tokens.ended_of_peek_scan hl hend
  rw [hended] at hstarts hsequence
  obtain ⟨items⟩ := items_of_program d
  have hitems : Complete (braced source) false list (.items e.statements) := by
    intro closing hclose ts' rest' _ hts' _ _ steps'
    obtain ⟨behind, brace, hlist, hbrace, rfl, hrest⟩ := hts'.split
    rw [Tokens.starts_nil_iff] at hrest
    have hbehind : behind.Closing := ⟨brace, hbrace, hclose⟩
    have hextends := Tokens.extends_of_starts hstarts hlist
      fun t ht => (hlexical t ht).kind_ne_endOfInput
    rw [← hrest]
    exact blockItems_of_sequence (braced source) hbehind hextends hsequence steps'
  have hblock : Complete (braced source) false
      (⟨.openCurly, "\x7b"⟩ :: (list ++ [⟨.closeCurly, "\x7d"⟩])) (.statement (.block e.statements)) :=
    statement_block rfl (rfl : Token.kind ⟨.closeCurly, "\x7d"⟩ = .closeCurly) items hitems
  have hprogram : Complete (braced source) false (_ ++ trailing false) _ :=
    sequence_last false hblock
  rw [trailing, if_neg Bool.false_ne_true, List.append_nil] at hprogram
  have hsource : Lexer.Tokenizes source list := Lexer.tokenizes_iff.mpr ⟨offset, hstarts⟩
  exact program_of_complete (tokenizes_braced hsource) hprogram

end Parse

/-! ## §7 What a block means -/

namespace Expr

variable (e : Expr)

/-- The statements of a tree read what the tree reads. -/
theorem readsAll_statements : readsAll e.statements = e.reads := by
  induction e using statements.induct with
  | case1 first second ih => rw [statements, readsAll, ih, reads]
  | case2 e hseq => rw [statements_of_not_seq hseq, readsAll, readsAll, List.append_nil]

/-- They have its remembering forms, under the same numbers. -/
theorem formsAll_statements (n : Nat) : formsAll n e.statements = forms n e := by
  induction e using statements.induct generalizing n with
  | case1 first second ih => rw [statements, formsAll, ih, forms]
  | case2 e hseq => rw [statements_of_not_seq hseq, formsAll, formsAll, List.append_nil]

end Expr

/-- **The statements of a tree are evaluated as the tree is**, whatever the value is that there was
before: a tree has one statement at least. -/
theorem Runner.evalBlock_statements (run : Runner) (owner : Owner) (n : Nat) (last : Value)
    (e : Expr) : run.evalBlock owner n last e.statements = run.eval owner n e := by
  induction e using Expr.statements.induct generalizing n last with
  | case1 first second ih =>
    rw [Expr.statements, Runner.evalBlock, Runner.eval]
    refine congrArg _ (funext fun v => ?_)
    exact ih (n + first.memories) v
  | case2 e hseq =>
    rw [Expr.statements_of_not_seq hseq, Runner.evalBlock]
    simp only [Runner.evalBlock]
    exact bind_pure _

/-! ## §8 Whole sources -/

/-- **A rule body in braces means what it means without**: a source that is read is read in braces too,
as a tree with the same dependencies, with the same remembering forms under the same numbers and with
the same evaluation, once or so many times, for any owner and however rules are run. -/
theorem braced_read {source : String} {e : Expr} (h : Expr.read source = .ok e) :
    ∃ e', Expr.read (braced source) = .ok e' ∧ e'.dependencies = e.dependencies ∧
      (∀ n, e'.forms n = e.forms n) ∧
      (∀ (run : Runner) (owner : Owner) (n : Nat), run.eval owner n e' = run.eval owner n e) ∧
      ∀ times, Engine.evaluate e' times = Engine.evaluate e times := by
  obtain ⟨_, hread⟩ := Expr.read_eq_ok_iff.mp h
  have heval : ∀ (run : Runner) (owner : Owner) (n : Nat),
      run.eval owner n (.block e.statements) = run.eval owner n e := fun run owner n => by
    rw [Runner.eval, Runner.evalBlock_statements]
  have hagain : Engine.evaluateAgain (.block e.statements) = Engine.evaluateAgain e := by
    unfold Engine.evaluateAgain
    simp only [heval]
  have htimes : ∀ times,
      Engine.evaluateTimes (.block e.statements) times = Engine.evaluateTimes e times := by
    intro times
    induction times with
    | zero => rfl
    | succ times ih => rw [Engine.evaluateTimes, Engine.evaluateTimes, hagain, ih]
  refine ⟨.block e.statements, Expr.read_eq_ok_iff.mpr (Parse.program_braced hread), ?_, ?_, heval, ?_⟩
  · rw [Expr.dependencies, Expr.dependencies, Expr.reads, Expr.readsAll_statements]
  · intro n
    rw [Expr.forms, Expr.formsAll_statements]
  · intro times
    rw [Engine.evaluate, Engine.evaluate, htimes]

/-- Of two statements the last is a form that lacks an `else`, and a `;` stands behind it. -/
theorem open_form_braced :
    let body : Expr := .seq (.assign "x" (.const (.int 1)))
      (.edgeIf (.var "a") (.var "b") (.ifThen (.var "c") (.assign "d" (.var "x"))))
    Expr.read "x = 1; edge_if a then b else if c then d = x;" = .ok body ∧
      ∃ e', Expr.read "\x7bx = 1; edge_if a then b else if c then d = x;\x7d" = .ok e' ∧
        e'.dependencies = ["a"] ∧ e'.forms 0 = body.forms 0 ∧
        ∀ (run : Runner) (owner : Owner) (n : Nat), run.eval owner n e' = run.eval owner n body := by
  intro body
  have hread : Expr.read "x = 1; edge_if a then b else if c then d = x;" = .ok body := rfl
  obtain ⟨e', hbraced, hdependencies, hforms, heval, -⟩ := braced_read hread
  exact ⟨hread, e', hbraced, hdependencies, hforms 0, heval⟩

end Cascade
