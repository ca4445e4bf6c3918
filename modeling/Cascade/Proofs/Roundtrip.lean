import Cascade.Proofs.Completeness
import Cascade.Proofs.Soundness

/-!
# What is written is read back

The written form of a tree that has been read is read as the same tree. The tokens of the written
form are told from the derivation of the tree: every operation and form of the tree is a term in
parentheses there, so the written form has a derivation of its own, with each form in parentheses,
and what is derived in such a way is read.

A written form is put together from texts of which each has its own tokens, whatever comes behind as
long as it cannot go on with the last of them; blanks, brackets and operators see to that.

The tree must have no double among its constants, since not every double is written as a literal,
and only the statements of a sequence are read back, since the sequence is written in parentheses.

§1 integers; §2 the nodes of a tree; §3 texts and their tokens; §4 written forms; §5 all
derivations; §6 whole sources.
-/

namespace Cascade

/-! ## §1 Integers -/

namespace Numeral

open Unicode (isAsciiDigit)

theorem isAsciiDigit_iff {c : Char} : isAsciiDigit c = true ↔ c.isDigit = true := by
  simp [isAsciiDigit, Char.isDigit, Char.le_def, UInt32.le_iff_toNat_le]

theorem digitValue_digitChar {d : Nat} (h : d < 10) : digitValue d.digitChar = d := by
  revert d
  decide

/-- **Digits are read back** as the number that they were made of. -/
theorem digitsValue_toDigits (n : Nat) : digitsValue (Nat.toDigits 10 n) = n := by
  induction n using Nat.strongRecOn with
  | ind n ih =>
    rcases Nat.lt_or_ge n 10 with hlt | hle
    · rw [Nat.toDigits_of_lt_base hlt]
      simp [digitsValue, digitValue_digitChar hlt]
    · rw [Nat.toDigits_of_base_le (by decide) hle, digitsValue_append_singleton,
        ih _ (by omega), digitValue_digitChar (Nat.mod_lt n (by decide)), Nat.div_add_mod]

/-- A digit is no sign. -/
theorem splitSign_digit {c : Char} {s : List Char} (h : isAsciiDigit c = true) :
    splitSign (c :: s) = (false, c :: s) := by
  unfold splitSign
  split
  · next heq =>
    cases heq
    exact absurd h (by decide)
  · next heq =>
    cases heq
    exact absurd h (by decide)
  · rfl

/-- A run of digits is read as the integer of its value. -/
theorem readInt?_digits {c : Char} {s : List Char} (h : ∀ x ∈ c :: s, isAsciiDigit x = true) :
    readInt? (c :: s) = some (digitsValue (c :: s)) := by
  have hall : (c :: s).all isAsciiDigit = true := List.all_eq_true.mpr h
  rw [readInt?, splitSign_digit (h c List.mem_cons_self)]
  simp only [hall]
  rfl

theorem readInt?_nonneg {c : Char} {s : List Char} {z : Int} (hc : isAsciiDigit c = true)
    (h : readInt? (c :: s) = some z) : 0 ≤ z := by
  rw [readInt?, splitSign_digit hc] at h
  dsimp only at h
  split at h
  · cases h
  · cases h
    exact Int.natCast_nonneg _

theorem toInt64?_eq_some_iff {z : Int} {n : Int64} : toInt64? z = some n ↔ n.toInt = z := by
  constructor
  · intro h
    unfold toInt64? at h
    split at h
    · next hrange =>
      cases h
      exact Int64.toInt_ofInt_of_le hrange.1 (Int.lt_add_one_of_le hrange.2)
    · cases h
  · rintro rfl
    rw [toInt64?, if_pos ⟨n.le_toInt, n.toInt_le⟩, Int64.ofInt_toInt]

end Numeral

namespace Value

open Numeral
open Unicode (isAsciiDigit)

/-- The written form of an integer that is not negative is its digits. -/
theorem toList_displayInt {n : Int64} (h : 0 ≤ n.toInt) :
    (displayInt n).toList = Nat.toDigits 10 n.toInt.toNat := by
  rw [displayInt, Int.toString_eq_repr, Int.repr_eq_if, if_pos h, Nat.toList_repr]

theorem exists_digits {n : Int64} (h : 0 ≤ n.toInt) :
    ∃ c s, (displayInt n).toList = c :: s ∧ ∀ x ∈ c :: s, isAsciiDigit x = true := by
  have hdigits : ∀ x ∈ Nat.toDigits 10 n.toInt.toNat, isAsciiDigit x = true := fun x hx =>
    isAsciiDigit_iff.mpr (Nat.isDigit_of_mem_toDigits (by decide) (by decide) hx)
  rw [toList_displayInt h]
  cases hs : Nat.toDigits 10 n.toInt.toNat with
  | nil => exact absurd hs Nat.toDigits_ne_nil
  | cons c s => exact ⟨c, s, rfl, hs ▸ hdigits⟩

/-- **An integer is read back** from its written form. -/
theorem readLiteral?_displayInt {n : Int64} (h : 0 ≤ n.toInt) :
    readLiteral? (displayInt n).toList = some (.int n) := by
  obtain ⟨c, s, htext, hdigits⟩ := exists_digits h
  have hpoint : (c :: s).contains '.' = false := by
    rw [Bool.eq_false_iff, ne_eq, List.contains_iff_mem]
    intro hmem
    exact absurd (hdigits _ hmem) (by decide)
  have hvalue : digitsValue (c :: s) = n.toInt.toNat := by
    rw [← htext, toList_displayInt h, digitsValue_toDigits]
  have hread : readInt64? (c :: s) = some n := by
    rw [readInt64?, readInt?_digits hdigits, hvalue]
    exact toInt64?_eq_some_iff.mpr (Int.toNat_of_nonneg h).symm
  rw [htext, readLiteral?, hpoint, if_neg Bool.false_ne_true, hread]
  rfl

/-- **An integer literal is not negative**, because it begins with no sign. -/
theorem toInt_nonneg_of_readLiteral? {c : Char} {s : List Char} {n : Int64}
    (hc : isAsciiDigit c = true) (h : readLiteral? (c :: s) = some (.int n)) : 0 ≤ n.toInt := by
  unfold readLiteral? at h
  split at h
  · obtain ⟨x, -, hv⟩ := Option.map_eq_some_iff.mp h
    cases hv
  · obtain ⟨m, hm, hv⟩ := Option.map_eq_some_iff.mp h
    cases hv
    obtain ⟨z, hz, hn⟩ := Option.bind_eq_some_iff.mp hm
    rw [toInt64?_eq_some_iff.mp hn]
    exact readInt?_nonneg hc hz

/-- A literal is an integer or a double. -/
theorem readLiteral?_eq_some {s : List Char} {v : Value} (h : readLiteral? s = some v) :
    (∃ n, v = .int n) ∨ ∃ x, v = .double x := by
  unfold readLiteral? at h
  split at h
  · obtain ⟨x, -, rfl⟩ := Option.map_eq_some_iff.mp h
    exact .inr ⟨x, rfl⟩
  · obtain ⟨n, -, rfl⟩ := Option.map_eq_some_iff.mp h
    exact .inl ⟨n, rfl⟩

end Value

namespace Token

open Unicode (isAsciiDigit isBlank)

/-- A number that has been read begins with a digit. -/
theorem Lexical.exists_digit {t : Token} (h : t.Lexical) (hkind : t.kind = .number) :
    ∃ c s, t.lexeme.toList = c :: s ∧ isAsciiDigit c = true := by
  cases h with
  | number hc hs => exact ⟨_, _, String.toList_ofList, hc⟩
  | bracket hc => exact absurd hkind (bracketKind?_ne hc (by decide))
  | word => exact absurd hkind (kindOfWord_ne _ (by decide))
  | symbol => exact absurd hkind (kindOfSymbol_ne _ (by decide))
  | string | extended => cases hkind

/-- The written form of an integer that is not negative is a number. -/
theorem lexical_displayInt {n : Int64} (h : 0 ≤ n.toInt) :
    Lexical ⟨.number, Value.displayInt n⟩ := by
  obtain ⟨c, s, htext, hdigits⟩ := Value.exists_digits h
  rw [← String.ofList_toList (s := Value.displayInt n), htext]
  refine .number (hdigits c List.mem_cons_self) fun x hx => ?_
  simp [isNumberChar, hdigits x (List.mem_cons_of_mem c hx)]

theorem written_operator (symbol : String) : (operator symbol).written = symbol.toList := by
  have hkind : (operator symbol).kind = .operator := rfl
  exact written_of_kind hkind (by decide)

/-- The comma between arguments. -/
def comma : Token := ⟨.comma, ","⟩

/-- A word as a token. -/
def word (w : String) : Token := ⟨kindOfWord w, w⟩

/-- The words of the language are tokens that can be read. -/
theorem lexical_word {w : String}
    (h : w ∈ ["if", "then", "else", "edge_if", "at", "do", "and", "or"]) : Lexical (word w) := by
  have hword {c : Char} {s : List Char}
      (h : isBlank c = false ∧ isNameStart c = true ∧ s.all isNameChar = true) :
      Lexical (word (.ofList (c :: s))) :=
    .word h.1 h.2.1 (List.all_eq_true.mp h.2.2)
  simp only [List.mem_cons, List.not_mem_nil, or_false] at h
  rcases h with rfl | rfl | rfl | rfl | rfl | rfl | rfl | rfl
  · exact hword (c := 'i') (s := ['f']) (by decide)
  · exact hword (c := 't') (s := ['h', 'e', 'n']) (by decide)
  · exact hword (c := 'e') (s := ['l', 's', 'e']) (by decide)
  · exact hword (c := 'e') (s := ['d', 'g', 'e', '_', 'i', 'f']) (by decide)
  · exact hword (c := 'a') (s := ['t']) (by decide)
  · exact hword (c := 'd') (s := ['o']) (by decide)
  · exact hword (c := 'a') (s := ['n', 'd']) (by decide)
  · exact hword (c := 'o') (s := ['r']) (by decide)

/-- So are its operators. -/
theorem lexical_operator (op : Operator) : (operator op.symbol).Lexical := by
  cases op with
  | equal => exact .extended (c := '=') (by decide)
  | notEqual => exact .extended (c := '!') (by decide)
  | lessEqual => exact .extended (c := '<') (by decide)
  | greaterEqual => exact .extended (c := '>') (by decide)
  | less => exact .symbol (c := '<') (by decide)
  | greater => exact .symbol (c := '>') (by decide)
  | add => exact .symbol (c := '+') (by decide)
  | subtract => exact .symbol (c := '-') (by decide)
  | multiply => exact .symbol (c := '*') (by decide)
  | divide => exact .symbol (c := '/') (by decide)
  | and => exact lexical_word (w := "and") (by decide)
  | or => exact lexical_word (w := "or") (by decide)

end Token

/-! ## §2 The nodes of a tree -/

namespace Expr

mutual

/-- **The nodes of a tree**, each as the tree below it. -/
def nodes : Expr → List Expr
  | const v => [const v]
  | var name => [var name]
  | glob pattern => [glob pattern]
  | assign target value => assign target value :: nodes value
  | binary op left right => binary op left right :: (nodes left ++ nodes right)
  | negate inner => negate inner :: nodes inner
  | seq first second => seq first second :: (nodes first ++ nodes second)
  | block stmts => block stmts :: nodesAll stmts
  | ifThen test branch => ifThen test branch :: (nodes test ++ nodes branch)
  | ifThenElse test onTrue onFalse =>
    ifThenElse test onTrue onFalse :: (nodes test ++ nodes onTrue ++ nodes onFalse)
  | edgeIf test onTrue onFalse =>
    edgeIf test onTrue onFalse :: (nodes test ++ nodes onTrue ++ nodes onFalse)
  | atChange watch action => atChange watch action :: (nodes watch ++ nodes action)
  | call name args => call name args :: nodesAll args

/-- The nodes of a list of trees. -/
def nodesAll : List Expr → List Expr
  | [] => []
  | e :: es => nodes e ++ nodesAll es

end

/-- The trees right below a node. -/
def parts : Expr → List Expr
  | const _ | var _ | glob _ => []
  | assign _ inner | negate inner => [inner]
  | binary _ first second | seq first second | ifThen first second | atChange first second =>
    [first, second]
  | ifThenElse test onTrue onFalse | edgeIf test onTrue onFalse => [test, onTrue, onFalse]
  | block es | call _ es => es

theorem nodesAll_eq (es : List Expr) : nodesAll es = es.flatMap nodes := by
  induction es with
  | nil => rfl
  | cons e es ih => rw [nodesAll, ih, List.flatMap_cons]

/-- **The nodes of a tree** are the tree itself and those of its parts. -/
theorem nodes_eq (e : Expr) : e.nodes = e :: e.parts.flatMap nodes := by
  cases e <;> simp [nodes, parts, nodesAll_eq]

theorem mem_nodes (e : Expr) : e ∈ e.nodes := by
  rw [nodes_eq]
  exact List.mem_cons_self

/-- **No constant of the tree is a double.** -/
def DoubleFree (e : Expr) : Prop := ∀ x, const (.double x) ∉ e.nodes

theorem DoubleFree.part {e e' : Expr} (h : e.DoubleFree) (hpart : e' ∈ e.parts) :
    e'.DoubleFree := by
  intro x hx
  have hinner := List.mem_flatMap.mpr ⟨e', hpart, hx⟩
  refine h x ?_
  rw [nodes_eq]
  exact List.mem_cons_of_mem e hinner

theorem doubleFree_var (name : String) : (var name).DoubleFree := by
  intro x hx
  cases List.mem_singleton.mp hx

/-- **The statements of a sequence**; any other tree is one statement. -/
def statements : Expr → List Expr
  | seq first second => first :: statements second
  | e => [e]

theorem statements_of_not_seq {e : Expr} (h : ∀ first second, e ≠ seq first second) :
    e.statements = [e] := by
  cases e with
  | seq first second => exact absurd rfl (h first second)
  | _ => rfl

end Expr

/-! ## §3 Texts and their tokens -/

open Token (Closed)

/-- A token in front of a text, with a blank between them. -/
def Token.before (t : Token) (text : List Char) : List Char := t.written ++ ' ' :: text

/-- A token between two texts, with blanks around it. -/
def Token.between (t : Token) (text text' : List Char) : List Char := text ++ ' ' :: t.before text'

/-- A text in parentheses. -/
def inParentheses (text : List Char) : List Char := '(' :: (text ++ [')'])

/-- **A text is written with these tokens**: wherever it stands, they come first, as long as what
comes behind cannot go on with the last of them. -/
def Written (text : List Char) (ts : List Token) : Prop :=
  ∀ ⦃k ks⦄, Closed k → Lexes k ks → Lexes (text ++ k) (ts ++ ks)

namespace Written

variable {text text' : List Char} {ts ts' : List Token} {t : Token}

theorem token (h : t.Lexical) : Written t.written [t] := fun _ _ hk hks => hks.written h hk

theorem nil : Written [] [] := fun _ _ _ hks => hks

theorem append (h : Written text ts) (h' : Written text' ts') (hclosed : ∀ k, Closed (text' ++ k)) :
    Written (text ++ text') (ts ++ ts') := by
  intro k ks hk hks
  rw [List.append_assoc, List.append_assoc]
  exact h (hclosed k) (h' hk hks)

theorem blank (h : Written text ts) : Written (' ' :: text) ts :=
  fun _ _ hk hks => (h hk hks).blank (by decide)

theorem closed_blank (text : List Char) (k : List Char) : Closed (' ' :: text ++ k) :=
  Token.closed_cons (by decide)

theorem before (ht : t.Lexical) (h : Written text ts) : Written (t.before text) (t :: ts) :=
  (token ht).append h.blank (closed_blank text)

theorem between (ht : t.Lexical) (h : Written text ts) (h' : Written text' ts') :
    Written (t.between text text') (ts ++ t :: ts') :=
  h.append (before ht h').blank (closed_blank _)

/-- A token right behind a text, and another text behind that. -/
theorem listed (ht : t.Lexical) (hclosed : ∀ k, Closed (t.written ++ k)) (h : Written text ts)
    (h' : Written text' ts') : Written (text ++ t.before text') (ts ++ t :: ts') := by
  refine h.append (before ht h') fun k => ?_
  rw [Token.before, List.append_assoc]
  exact hclosed _

/-- Behind anything can stand a bracket. -/
theorem closed_bracket {c : Char} {kind : Token.Kind} (h : Token.bracketKind? c = some kind)
    (k : List Char) : Closed (c :: k) := by
  have hall : ['(', ')', '\x7b', '\x7d', ','].all
      (fun d => !Token.isNameChar d && d != '=') = true := by decide
  exact Token.closed_cons (by simpa using List.all_eq_true.mp hall c (Token.mem_of_bracketKind? h))

/-- Brackets around a text. -/
theorem enclosed {o c : Char} {ko kc : Token.Kind} (ho : Token.bracketKind? o = some ko)
    (hc : Token.bracketKind? c = some kc) (h : Written text ts) :
    Written (o :: (text ++ [c])) (⟨ko, .ofList [o]⟩ :: (ts ++ [⟨kc, .ofList [c]⟩])) := by
  intro k ks hk hks
  have hinner := h (closed_bracket hc k) (hks.bracket hc)
  simpa using hinner.bracket ho

/-- A minus sign in front of a text. -/
theorem minus (h : Written text ts) : Written ('-' :: text) (.operator "-" :: ts) := by
  intro k ks hk hks
  have hminus : Scan.Gives ('-' :: (text ++ k)) ⟨.operator, "-"⟩ (text ++ k) :=
    Scan.gives_symbol (by decide) (fun hext => absurd hext (by decide))
  exact (h hk hks).token hminus

/-- A text by itself has its tokens. -/
theorem tokenizes {s : String} (h : Written s.toList ts) : Lexer.Tokenizes s ts := by
  have hlexes := h Token.closed_nil lexes_nil
  rw [List.append_nil, List.append_nil] at hlexes
  exact hlexes.tokenizes

end Written

/-! ## §4 Written forms -/

open Grammar

/-- **A text restates a phrase**: it has the tokens of a derivation of it, with each form in
parentheses. -/
def Restated (alone : Bool) (phrase : Phrase) (text : List Char) : Prop :=
  ∃ ts, Written text ts ∧ ∃ d : Derivation phrase ts, d.Grouped alone

namespace Restated

variable {alone : Bool} {e e' e'' : Expr} {es : List Expr} {text text' text'' : List Char}

/-- A single token that stands for a term. -/
theorem atom {t : Token} (ht : t.Lexical) (d : Derivation (.term e) [t]) (hd : d.Grouped alone) :
    Restated alone (.term e) t.written :=
  ⟨[t], .token ht, d, hd⟩

theorem group (h : Restated true (.expression e) text) :
    Restated alone (.term e) (inParentheses text) := by
  obtain ⟨ts, hts, d, hd⟩ := h
  exact ⟨_, hts.enclosed rfl rfl, .group rfl rfl d, hd⟩

/-- A term stands for any expression. -/
theorem expression (h : Restated alone (.term e) text) : Restated alone (.expression e) text := by
  obtain ⟨ts, hts, d, hd⟩ := h
  exact ⟨ts, hts, .value (d.ofTerm .or), Derivation.grouped_ofTerm.mpr hd⟩

theorem statement (h : Restated alone (.term e) text) : Restated alone (.statement e) text := by
  obtain ⟨ts, hts, d, hd⟩ := h.expression
  exact ⟨ts, hts, .plain d, hd⟩

theorem assign {target : String} (h : Restated false (.term (.var target)) text)
    (h' : Restated false (.term e) text') :
    Restated alone (.expression (.assign target e))
      ((Token.operator "=").between text text') := by
  obtain ⟨ts, hts, d, hd⟩ := h
  obtain ⟨us, hus, d', hd'⟩ := h'.expression
  have hequals : (Token.operator "=").Lexical := .symbol (c := '=') (by decide)
  exact ⟨_, .between hequals hts hus, .assign (d.ofTerm .or) d',
    Derivation.grouped_ofTerm.mpr hd, hd'⟩

theorem binary {level : Parse.Level} {op : Operator} (hop : op ∈ level.operators)
    (h : Restated false (.term e) text) (h' : Restated false (.term e') text') :
    Restated alone (.expression (.binary op e e'))
      ((Token.operator op.symbol).between text text') := by
  obtain ⟨ts, hts, d, hd⟩ := h
  obtain ⟨us, hus, d', hd'⟩ := h'
  have hd'' : (d.ofTerm level).Grouped false ∧ (d'.asOperand level).Grouped false :=
    ⟨Derivation.grouped_ofTerm.mpr hd, Derivation.grouped_asOperand.mpr hd'⟩
  exact ⟨_, .between (Token.lexical_operator op) hts hus,
    .value (.loosened level (.join hop (d.ofTerm level) (d'.asOperand level))),
    Derivation.grouped_loosened.mpr hd''⟩

theorem negate (h : Restated false (.term e) text) :
    Restated alone (.term (.negate e)) ('-' :: text) := by
  obtain ⟨ts, hts, d, hd⟩ := h
  exact ⟨_, hts.minus, .negate d, hd⟩

theorem ifThen (h : Restated false (.term e) text) (h' : Restated false (.statement e') text') :
    Restated true (.term (.ifThen e e'))
      ((Token.word "if").before ((Token.word "then").between text text')) := by
  obtain ⟨ts, hts, d, hd⟩ := h.expression
  obtain ⟨us, hus, d', hd'⟩ := h'
  have hif : (Token.word "if").Lexical := Token.lexical_word (by decide)
  have hthen : (Token.word "then").Lexical := Token.lexical_word (by decide)
  exact ⟨_, .before hif (.between hthen hts hus), .ifThen rfl rfl d d', ⟨rfl, hd, hd'⟩⟩

theorem ifThenElse (h : Restated false (.term e) text) (h' : Restated false (.statement e') text')
    (h'' : Restated false (.statement e'') text'') :
    Restated true (.term (.ifThenElse e e' e''))
      ((Token.word "if").before
        ((Token.word "then").between text ((Token.word "else").between text' text''))) := by
  obtain ⟨ts, hts, d, hd⟩ := h.expression
  obtain ⟨us, hus, d', hd'⟩ := h'
  obtain ⟨vs, hvs, d'', hd''⟩ := h''
  have hif : (Token.word "if").Lexical := Token.lexical_word (by decide)
  have hthen : (Token.word "then").Lexical := Token.lexical_word (by decide)
  have helse : (Token.word "else").Lexical := Token.lexical_word (by decide)
  exact ⟨_, .before hif (.between hthen hts (.between helse hus hvs)),
    .ifThenElse rfl rfl rfl d d' d'', ⟨rfl, hd, hd', hd''⟩⟩

theorem edgeIf (h : Restated false (.term e) text) (h' : Restated false (.statement e') text')
    (h'' : Restated false (.statement e'') text'') :
    Restated true (.term (.edgeIf e e' e''))
      ((Token.word "edge_if").before
        ((Token.word "then").between text ((Token.word "else").between text' text''))) := by
  obtain ⟨ts, hts, d, hd⟩ := h.expression
  obtain ⟨us, hus, d', hd'⟩ := h'
  obtain ⟨vs, hvs, d'', hd''⟩ := h''
  have hedgeIf : (Token.word "edge_if").Lexical := Token.lexical_word (by decide)
  have hthen : (Token.word "then").Lexical := Token.lexical_word (by decide)
  have helse : (Token.word "else").Lexical := Token.lexical_word (by decide)
  exact ⟨_, .before hedgeIf (.between hthen hts (.between helse hus hvs)),
    .edgeIf rfl rfl rfl d d' d'', ⟨rfl, hd, hd', hd''⟩⟩

theorem atChange (h : Restated false (.term e) text) (h' : Restated false (.statement e') text') :
    Restated true (.term (.atChange e e'))
      ((Token.word "at").before ((Token.word "do").between text text')) := by
  obtain ⟨ts, hts, d, hd⟩ := h.expression
  obtain ⟨us, hus, d', hd'⟩ := h'
  have hat : (Token.word "at").Lexical := Token.lexical_word (by decide)
  have hdo : (Token.word "do").Lexical := Token.lexical_word (by decide)
  exact ⟨_, .before hat (.between hdo hts hus), .atChange rfl rfl d d', ⟨rfl, hd, hd'⟩⟩

theorem emptyBlock : Restated alone (.statement (.block [])) ['\x7b', '\x7d'] :=
  ⟨_, Written.nil.enclosed rfl rfl, .emptyBlock rfl rfl, trivial⟩

theorem block (h : Restated false (.items es) text) :
    Restated alone (.statement (.block es)) ('\x7b' :: (text ++ ['\x7d'])) := by
  obtain ⟨ts, hts, d, hd⟩ := h
  exact ⟨_, hts.enclosed rfl rfl, .block rfl rfl d, hd⟩

theorem lastItem (h : Restated false (.statement e) text) : Restated alone (.items [e]) text := by
  obtain ⟨ts, hts, d, hd⟩ := h
  refine ⟨ts ++ trailing false, ?_, .lastItem false d, hd⟩
  rwa [trailing, if_neg Bool.false_ne_true, List.append_nil]

theorem nextItem (h : Restated false (.statement e) text) (h' : Restated false (.items es) text') :
    Restated alone (.items (e :: es)) (text ++ (Token.operator ";").before text') := by
  obtain ⟨ts, hts, d, hd⟩ := h
  obtain ⟨us, hus, d', hd'⟩ := h'
  have hsemicolon : (Token.operator ";").Lexical := .symbol (c := ';') (by decide)
  exact ⟨_, .listed hsemicolon (fun _ => Token.closed_cons (by decide)) hts hus, .nextItem d d',
    hd, hd'⟩

theorem lastArgument (h : Restated false (.term e) text) :
    Restated alone (.arguments [e]) text := by
  obtain ⟨ts, hts, d, hd⟩ := h.expression
  exact ⟨ts, hts, .lastArgument d, hd⟩

theorem nextArgument (h : Restated false (.term e) text)
    (h' : Restated false (.arguments es) text') :
    Restated alone (.arguments (e :: es)) (text ++ Token.comma.before text') := by
  obtain ⟨ts, hts, d, hd⟩ := h.expression
  obtain ⟨us, hus, d', hd'⟩ := h'
  have hcomma : Token.comma.Lexical := .bracket (c := ',') rfl
  exact ⟨_, .listed hcomma (Written.closed_bracket (c := ',') rfl) hts hus, .nextArgument rfl d d',
    hd, hd'⟩

theorem emptyCall {t : Token} (ht : t.Lexical) (hkind : t.kind = .name) (hglob : t.isGlob = false) :
    Restated alone (.term (.call t.lexeme [])) (t.written ++ inParentheses []) :=
  ⟨_, (Written.token ht).append (Written.nil.enclosed rfl rfl) fun _ =>
    Written.closed_bracket (c := '(') rfl _, .emptyCall hkind hglob rfl rfl, trivial⟩

theorem call {t : Token} (ht : t.Lexical) (hkind : t.kind = .name) (hglob : t.isGlob = false)
    (h : Restated false (.arguments es) text) :
    Restated alone (.term (.call t.lexeme es)) (t.written ++ inParentheses text) := by
  obtain ⟨ts, hts, d, hd⟩ := h
  exact ⟨_, (Written.token ht).append (hts.enclosed rfl rfl) fun _ =>
    Written.closed_bracket (c := '(') rfl _, .call hkind hglob rfl rfl d, hd⟩

end Restated

/-! The written form of each tree is made of those of its parts. -/

namespace Expr

theorem text_open : "(".toList = ['('] := rfl

theorem text_close : ")".toList = [')'] := rfl

theorem text_blank : " ".toList = [' '] := rfl

theorem text_equals : " = ".toList = ' ' :: ((Token.operator "=").written ++ [' ']) := rfl

theorem text_minus : "(-".toList = ['(', '-'] := rfl

theorem text_if : "(if ".toList = '(' :: ((Token.word "if").written ++ [' ']) := rfl

theorem text_edgeIf : "(edge_if ".toList = '(' :: ((Token.word "edge_if").written ++ [' ']) := rfl

theorem text_at : "(at ".toList = '(' :: ((Token.word "at").written ++ [' ']) := rfl

theorem text_then : " then ".toList = ' ' :: ((Token.word "then").written ++ [' ']) := rfl

theorem text_else : " else ".toList = ' ' :: ((Token.word "else").written ++ [' ']) := rfl

theorem text_do : " do ".toList = ' ' :: ((Token.word "do").written ++ [' ']) := rfl

variable (e e' e'' : Expr) (es : List Expr)

theorem toList_describe_assign (target : String) :
    (assign target e).describe.toList =
      inParentheses ((Token.operator "=").between target.toList e.describe.toList) := by
  show ("(" ++ target ++ " = " ++ e.describe ++ ")").toList = _
  simp only [inParentheses, Token.between, Token.before, String.toList_append, text_open,
    text_equals, text_close, List.append_assoc, List.cons_append, List.nil_append]

theorem toList_describe_binary (op : Operator) :
    (binary op e e').describe.toList =
      inParentheses ((Token.operator op.symbol).between e.describe.toList e'.describe.toList) := by
  show ("(" ++ e.describe ++ " " ++ op.symbol ++ " " ++ e'.describe ++ ")").toList = _
  simp only [inParentheses, Token.between, Token.before, Token.written_operator,
    String.toList_append, text_open, text_blank, text_close, List.append_assoc, List.cons_append,
    List.nil_append]

theorem toList_describe_negate :
    (negate e).describe.toList = inParentheses ('-' :: e.describe.toList) := by
  show ("(-" ++ e.describe ++ ")").toList = _
  simp only [inParentheses, String.toList_append, text_minus, text_close, List.cons_append,
    List.nil_append]

theorem toList_describe_ifThen :
    (ifThen e e').describe.toList = inParentheses ((Token.word "if").before
      ((Token.word "then").between e.describe.toList e'.describe.toList)) := by
  show ("(if " ++ e.describe ++ " then " ++ e'.describe ++ ")").toList = _
  simp only [inParentheses, Token.between, Token.before, String.toList_append, text_if, text_then,
    text_close, List.append_assoc, List.cons_append, List.nil_append]

theorem toList_describe_ifThenElse :
    (ifThenElse e e' e'').describe.toList = inParentheses ((Token.word "if").before
      ((Token.word "then").between e.describe.toList
        ((Token.word "else").between e'.describe.toList e''.describe.toList))) := by
  show ("(if " ++ e.describe ++ " then " ++ e'.describe ++ " else " ++ e''.describe ++
    ")").toList = _
  simp only [inParentheses, Token.between, Token.before, String.toList_append, text_if, text_then,
    text_else, text_close, List.append_assoc, List.cons_append, List.nil_append]

theorem toList_describe_edgeIf :
    (edgeIf e e' e'').describe.toList = inParentheses ((Token.word "edge_if").before
      ((Token.word "then").between e.describe.toList
        ((Token.word "else").between e'.describe.toList e''.describe.toList))) := by
  show ("(edge_if " ++ e.describe ++ " then " ++ e'.describe ++ " else " ++ e''.describe ++
    ")").toList = _
  simp only [inParentheses, Token.between, Token.before, String.toList_append, text_edgeIf,
    text_then, text_else, text_close, List.append_assoc, List.cons_append, List.nil_append]

theorem toList_describe_atChange :
    (atChange e e').describe.toList = inParentheses ((Token.word "at").before
      ((Token.word "do").between e.describe.toList e'.describe.toList)) := by
  show ("(at " ++ e.describe ++ " do " ++ e'.describe ++ ")").toList = _
  simp only [inParentheses, Token.between, Token.before, String.toList_append, text_at, text_do,
    text_close, List.append_assoc, List.cons_append, List.nil_append]

/-- The written forms of trees in a row, with a separator between them. -/
def listed (separator : String) (es : List Expr) : List Char :=
  (separator.intercalate (describeAll es)).toList

theorem listed_singleton (separator : String) : listed separator [e] = e.describe.toList := rfl

theorem listed_cons (separator : String) :
    listed separator (e :: e' :: es) =
      e.describe.toList ++ (separator.toList ++ listed separator (e' :: es)) := by
  show (separator.intercalate (e.describe :: e'.describe :: describeAll es)).toList = _
  rw [String.intercalate_cons_cons, String.toList_append, String.toList_append, List.append_assoc]
  rfl

theorem toList_describe_block :
    (block es).describe.toList = '\x7b' :: (listed "; " es ++ ['\x7d']) := by
  have hopen : "\x7b".toList = ['\x7b'] := rfl
  have hclose : "\x7d".toList = ['\x7d'] := rfl
  show ("\x7b" ++ "; ".intercalate (describeAll es) ++ "\x7d").toList = _
  simp only [String.toList_append, hopen, hclose, listed, List.cons_append, List.nil_append]

theorem toList_describe_call (name : String) :
    (call name es).describe.toList = name.toList ++ inParentheses (listed ", " es) := by
  show (name ++ "(" ++ ", ".intercalate (describeAll es) ++ ")").toList = _
  simp only [inParentheses, String.toList_append, text_open, text_close, listed,
    List.append_assoc, List.cons_append, List.nil_append]

end Expr

/-! ## §5 All derivations -/

open Cascade.Expr (DoubleFree listed)

/-- **The written form of a phrase restates it**, if it has no double among its constants; that of a
program does so statement by statement. -/
def Restatable : Phrase → Prop
  | .program e => ∀ s ∈ e.statements, s.DoubleFree → Restated false (.statement s) s.describe.toList
  | .statement e => e.DoubleFree → Restated false (.statement e) e.describe.toList
  | .items es => (∀ e ∈ es, e.DoubleFree) → Restated false (.items es) (listed "; " es)
  | .expression e | .joined _ e | .term e =>
    e.DoubleFree → Restated false (.term e) e.describe.toList
  | .arguments es => (∀ e ∈ es, e.DoubleFree) → Restated false (.arguments es) (listed ", " es)

/-- No phrase but a program is a sequence. -/
theorem not_seq_of_derivation {phrase : Phrase} {list : List Token} (d : Derivation phrase list) :
    match phrase with
    | .statement e | .expression e | .joined _ e | .term e => ∀ first second, e ≠ .seq first second
    | _ => True := by
  induction d with
  | plain _ ih | value _ ih => exact ih
  | @single level e ts _ ih => cases level <;> exact ih
  | group _ _ _ ih => exact ih
  | last | next | lastItem | nextItem | lastArgument | nextArgument => trivial
  | _ => exact nofun

/-- A number that is not a double is restated by its digits. -/
theorem restated_number {t : Token} {v : Value} (ht : t.Lexical) (hkind : t.kind = .number)
    (hv : Value.readLiteral? t.lexeme.toList = some v) (hfree : DoubleFree (.const v)) :
    Restated false (.term (.const v)) (Expr.const v).describe.toList := by
  rcases Value.readLiteral?_eq_some hv with ⟨n, rfl⟩ | ⟨x, rfl⟩
  · obtain ⟨c, s, htext, hc⟩ := ht.exists_digit hkind
    rw [htext] at hv
    have hn := Value.toInt_nonneg_of_readLiteral? hc hv
    have hkind : (⟨.number, Value.displayInt n⟩ : Token).kind = .number := rfl
    have htext := Token.written_of_kind hkind (by decide)
    show Restated false _ (Value.displayInt n).toList
    rw [← htext]
    exact .atom (Token.lexical_displayInt hn)
      (.number rfl (Value.readLiteral?_displayInt hn)) trivial
  · exact absurd (Expr.mem_nodes _) (hfree x)

/-- What an operand is for a level, a term is for it too. -/
theorem restatable_operand {level : Parse.Level} {e : Expr} :
    Restatable (operand level e) ↔ Restatable (.term e) := by
  cases level <;> rfl

theorem restatable {phrase : Phrase} {list : List Token} (d : Derivation phrase list)
    (hlexical : ∀ t ∈ list, t.Lexical) : Restatable phrase := by
  induction d with
  | @last e ts semicolon d ih =>
    have hstmt : e.statements = [e] := Expr.statements_of_not_seq (not_seq_of_derivation d)
    intro s hs hfree
    rw [hstmt, List.mem_singleton] at hs
    subst hs
    exact ih (fun t ht => hlexical t (by simp [ht])) hfree
  | next _ _ ih ih' =>
    intro s hs hfree
    rcases List.mem_cons.mp hs with rfl | hs
    · exact ih (fun t ht => hlexical t (by simp [ht])) hfree
    · exact ih' (fun t ht => hlexical t (by simp [ht])) s hs hfree
  | emptyBlock _ _ =>
    intro _
    rw [Expr.toList_describe_block]
    exact .emptyBlock
  | block _ _ _ ih =>
    intro hfree
    rw [Expr.toList_describe_block]
    exact .block (ih (fun t ht => hlexical t (by simp [ht])) fun _ => hfree.part)
  | plain _ ih => exact fun hfree => (ih hlexical hfree).statement
  | lastItem _ _ ih =>
    intro hfree
    rw [Expr.listed_singleton]
    exact .lastItem (ih (fun t ht => hlexical t (by simp [ht])) (hfree _ List.mem_cons_self))
  | @nextItem e es ts us _ d' ih ih' =>
    intro hfree
    have hfirst := ih (fun t ht => hlexical t (by simp [ht])) (hfree e List.mem_cons_self)
    have hrest := ih' (fun t ht => hlexical t (by simp [ht]))
      fun e' he' => hfree e' (List.mem_cons_of_mem e he')
    cases es with
    | nil => cases d'
    | cons e' es =>
      rw [Expr.listed_cons]
      exact hfirst.nextItem hrest
  | value _ ih => exact ih hlexical
  | assign _ _ ih ih' =>
    intro hfree
    have htarget := ih (fun t ht => hlexical t (by simp [ht])) (Expr.doubleFree_var _)
    have hvalue := ih' (fun t ht => hlexical t (by simp [ht]))
      (hfree.part (by simp [Expr.parts]))
    rw [Expr.toList_describe_assign]
    exact (htarget.assign hvalue).group
  | @single level _ _ _ ih => exact restatable_operand.mp (ih hlexical)
  | join hop _ _ ih ih' =>
    intro hfree
    have hleft := ih (fun t ht => hlexical t (by simp [ht]))
      (hfree.part (by simp [Expr.parts]))
    have hright := restatable_operand.mp (ih' fun t ht => hlexical t (by simp [ht]))
      (hfree.part (by simp [Expr.parts]))
    rw [Expr.toList_describe_binary]
    exact (hleft.binary hop hright).group
  | group _ _ _ ih => exact ih fun t ht => hlexical t (by simp [ht])
  | number hkind hv =>
    exact fun hfree => restated_number (hlexical _ List.mem_cons_self) hkind hv hfree
  | @string t hkind =>
    intro _
    have htext : (Value.quote t.lexeme).toList = t.written := by
      rw [Token.written, if_pos hkind]
      simp [Value.quote]
    show Restated false _ (Value.quote t.lexeme).toList
    rw [htext]
    exact .atom (hlexical _ List.mem_cons_self) (.string hkind) trivial
  | @var t hkind hglob =>
    intro _
    show Restated false _ t.lexeme.toList
    rw [← Token.written_of_kind hkind (by decide)]
    exact .atom (hlexical _ List.mem_cons_self) (.var hkind hglob) trivial
  | @glob t hglob =>
    intro _
    show Restated false _ t.lexeme.toList
    rw [← Token.written_of_kind (Token.kind_of_isGlob hglob) (by decide)]
    exact .atom (hlexical _ List.mem_cons_self) (.glob hglob) trivial
  | star =>
    intro _
    exact .atom (hlexical _ List.mem_cons_self) .star trivial
  | negate _ ih =>
    intro hfree
    have hinner := ih (fun t ht => hlexical t (by simp [ht]))
      (hfree.part (by simp [Expr.parts]))
    rw [Expr.toList_describe_negate]
    exact hinner.negate.expression.group
  | @emptyCall t _ _ hkind hglob _ _ =>
    intro _
    rw [Expr.toList_describe_call, ← Token.written_of_kind hkind (by decide)]
    exact .emptyCall (hlexical t List.mem_cons_self) hkind hglob
  | @call es _ t _ _ hkind hglob _ _ _ ih =>
    intro hfree
    have hargs := ih (fun t ht => hlexical t (by simp [ht])) fun _ => hfree.part
    rw [Expr.toList_describe_call, ← Token.written_of_kind hkind (by decide)]
    exact .call (hlexical t List.mem_cons_self) hkind hglob hargs
  | lastArgument _ ih =>
    intro hfree
    rw [Expr.listed_singleton]
    exact .lastArgument (ih hlexical (hfree _ List.mem_cons_self))
  | @nextArgument e es ts us comma _ _ d' ih ih' =>
    intro hfree
    have hfirst := ih (fun t ht => hlexical t (by simp [ht])) (hfree e List.mem_cons_self)
    have hrest := ih' (fun t ht => hlexical t (by simp [ht]))
      fun e' he' => hfree e' (List.mem_cons_of_mem e he')
    cases es with
    | nil => cases d'
    | cons e' es =>
      rw [Expr.listed_cons]
      exact hfirst.nextArgument hrest
  | ifThen _ _ _ _ ih ih' =>
    intro hfree
    have htest := ih (fun t ht => hlexical t (by simp [ht]))
      (hfree.part (by simp [Expr.parts]))
    have hbranch := ih' (fun t ht => hlexical t (by simp [ht]))
      (hfree.part (by simp [Expr.parts]))
    rw [Expr.toList_describe_ifThen]
    exact (htest.ifThen hbranch).expression.group
  | ifThenElse _ _ _ _ _ _ ih ih' ih'' =>
    intro hfree
    have htest := ih (fun t ht => hlexical t (by simp [ht]))
      (hfree.part (by simp [Expr.parts]))
    have honTrue := ih' (fun t ht => hlexical t (by simp [ht]))
      (hfree.part (by simp [Expr.parts]))
    have honFalse := ih'' (fun t ht => hlexical t (by simp [ht]))
      (hfree.part (by simp [Expr.parts]))
    rw [Expr.toList_describe_ifThenElse]
    exact (htest.ifThenElse honTrue honFalse).expression.group
  | edgeIf _ _ _ _ _ _ ih ih' ih'' =>
    intro hfree
    have htest := ih (fun t ht => hlexical t (by simp [ht]))
      (hfree.part (by simp [Expr.parts]))
    have honTrue := ih' (fun t ht => hlexical t (by simp [ht]))
      (hfree.part (by simp [Expr.parts]))
    have honFalse := ih'' (fun t ht => hlexical t (by simp [ht]))
      (hfree.part (by simp [Expr.parts]))
    rw [Expr.toList_describe_edgeIf]
    exact (htest.edgeIf honTrue honFalse).expression.group
  | atChange _ _ _ _ ih ih' =>
    intro hfree
    have hwatch := ih (fun t ht => hlexical t (by simp [ht]))
      (hfree.part (by simp [Expr.parts]))
    have haction := ih' (fun t ht => hlexical t (by simp [ht]))
      (hfree.part (by simp [Expr.parts]))
    rw [Expr.toList_describe_atChange]
    exact (hwatch.atChange haction).expression.group

/-! ## §6 Whole sources -/

/-- A statement that is restated by a text is read from it. -/
theorem Restated.read {s : String} {e : Expr} (h : Restated false (.statement e) s.toList) :
    Expr.read s = .ok e := by
  obtain ⟨ts, hts, d, hd⟩ := h
  have hsource : Lexer.Tokenizes s (ts ++ trailing false) := by
    rw [trailing, if_neg Bool.false_ne_true, List.append_nil]
    exact hts.tokenizes
  exact Expr.read_eq_ok_iff.mpr (Parse.program_complete hsource (.last false d) hd)

/-- **What is written is read back**: a tree that has been read and has neither a sequence nor a
double constant among its nodes is read again from its written form. Of a sequence at the top this
holds of each of its statements. -/
theorem read_describe {source : String} {e : Expr} (h : Expr.read source = .ok e) :
    ((∀ x ∈ e.nodes, (∀ first second, x ≠ .seq first second) ∧ ∀ d, x ≠ .const (.double d)) →
      Expr.read e.describe = .ok e) ∧
    ∀ s ∈ e.statements, (∀ x ∈ s.nodes, ∀ d, x ≠ .const (.double d)) →
      Expr.read s.describe = .ok s := by
  obtain ⟨rest, hread⟩ := Expr.read_eq_ok_iff.mp h
  obtain ⟨ts, hsource, d, -⟩ := Parse.program_taken hread
  have hstatements : ∀ s ∈ e.statements, (∀ x ∈ s.nodes, ∀ d, x ≠ .const (.double d)) →
      Expr.read s.describe = .ok s := fun s hs hfree =>
    (restatable d hsource.lexical s hs fun x hx => hfree _ hx x rfl).read
  refine ⟨fun hnodes => ?_, hstatements⟩
  have hself : e.statements = [e] :=
    Expr.statements_of_not_seq (hnodes e e.mem_nodes).1
  exact hstatements e (hself ▸ List.mem_singleton_self e) fun x hx => (hnodes x hx).2

/-- A glob beside an operator, a minus sign, a block, a call and an assignment are read back. -/
theorem branches_read_back :
    let e : Expr := .edgeIf (.binary .greater (.glob "a*") (.const (.int 1)))
      (.block [.assign "b" (.negate (.var "c")), .call "d" []]) (.var "e")
    Expr.read "edge_if a* > 1 then \x7bb = -c; d()\x7d else e" = .ok e ∧
      e.describe = "(edge_if (a* > 1) then \x7b(b = (-c)); d()\x7d else e)" ∧
      Expr.read e.describe = .ok e := by
  intro e
  have hread : Expr.read "edge_if a* > 1 then \x7bb = -c; d()\x7d else e" = .ok e := rfl
  refine ⟨hread, rfl, (read_describe hread).1 ?_⟩
  simp [e, Expr.nodes, Expr.nodesAll]

end Cascade
