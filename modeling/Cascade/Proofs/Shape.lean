import Cascade.Proofs.Roundtrip
import Cascade.Proofs.Tokenization

/-!
# The shape of trees that have been read

Not every tree comes from a source. The names in a tree that has been read are spelled as the scanner
spells names, its integers have no sign, and sequences and blocks stand only where the grammar has
statements. All of it is told from a derivation of the tree, phrase by phrase: a term may stand
anywhere, a statement anywhere but inside an expression, a program only where a sequence may go on.

So a dependency of a rule is a pattern by its spelling just if it is the pattern of a `glob` in its
tree, on which subscribing relies.

§1 places; §2 proper nodes; §3 names and tokens; §4 all derivations; §5 what a tree reacts to.
-/

namespace Cascade

namespace Expr

/-! ## §1 Places -/

/-- **Where in a tree a node stands.** -/
inductive Place where
  | root
  /-- On the left of a sequence. -/
  | first
  /-- On the right of a sequence. -/
  | second
  /-- Among the statements of a block. -/
  | item
  /-- A branch of an `if` or an `edge_if`. -/
  | branch
  /-- The action of an `at`. -/
  | action
  /-- What is assigned, an operand, a condition, a watched expression or an argument. -/
  | inside

/-- The trees right below a node, each with its place. -/
def placedParts : Expr → List (Place × Expr)
  | const _ | var _ | glob _ => []
  | assign _ inner | negate inner => [(.inside, inner)]
  | binary _ left right => [(.inside, left), (.inside, right)]
  | seq first second => [(.first, first), (.second, second)]
  | block stmts => stmts.map (.item, ·)
  | ifThen test branch => [(.inside, test), (.branch, branch)]
  | ifThenElse test onTrue onFalse | edgeIf test onTrue onFalse =>
    [(.inside, test), (.branch, onTrue), (.branch, onFalse)]
  | atChange watch action => [(.inside, watch), (.action, action)]
  | call _ args => args.map (.inside, ·)

theorem map_snd_placedParts (e : Expr) : e.placedParts.map Prod.snd = e.parts := by
  cases e <;> simp [placedParts, parts, Function.comp_def]

/-- **A node stands at a place** in a tree that itself stands at the place `start`. -/
inductive Stands (start : Place) (e : Expr) : Place → Expr → Prop
  | here : Stands start e start e
  | under {place q : Place} {x y : Expr} : Stands start e place x → (q, y) ∈ x.placedParts →
      Stands start e q y

/-- What stands in a part stands in the tree. -/
theorem Stands.of_part {start q place : Place} {e x y : Expr} (hpart : (q, x) ∈ e.placedParts)
    (h : Stands q x place y) : Stands start e place y := by
  induction h with
  | here => exact .under .here hpart
  | under _ hmem ih => exact .under ih hmem

theorem Stands.cases_part {start place : Place} {e y : Expr} (h : Stands start e place y) :
    (place = start ∧ y = e) ∨ ∃ p ∈ e.placedParts, Stands p.1 p.2 place y := by
  induction h with
  | here => exact .inl ⟨rfl, rfl⟩
  | under _ hmem ih =>
    rcases ih with ⟨-, rfl⟩ | ⟨p, hp, h⟩
    · exact .inr ⟨_, hmem, .here⟩
    · exact .inr ⟨p, hp, .under h hmem⟩

theorem sizeOf_lt_of_mem_parts {e x : Expr} (h : x ∈ e.parts) : sizeOf x < sizeOf e := by
  cases e with
  | const | var | glob => cases h
  | block es | call name es =>
    have hmem : x ∈ es := h
    have := List.sizeOf_lt_of_mem hmem
    simp only [block.sizeOf_spec, call.sizeOf_spec]
    omega
  | _ =>
    simp only [parts, List.mem_cons, List.not_mem_nil, or_false] at h
    rcases h with rfl | rfl | rfl
    all_goals
      simp only [assign.sizeOf_spec, binary.sizeOf_spec, negate.sizeOf_spec, seq.sizeOf_spec,
        ifThen.sizeOf_spec, ifThenElse.sizeOf_spec, edgeIf.sizeOf_spec, atChange.sizeOf_spec]
      omega

/-- **Every node of a tree stands somewhere in it.** -/
theorem stands_of_mem_nodes (start : Place) {e y : Expr} (h : y ∈ e.nodes) :
    ∃ place, Stands start e place y := by
  rw [nodes_eq] at h
  rcases List.mem_cons.mp h with rfl | h
  · exact ⟨start, .here⟩
  · obtain ⟨x, hx, hy⟩ := List.mem_flatMap.mp h
    obtain ⟨⟨q, x⟩, hpart, rfl⟩ := List.mem_map.mp (map_snd_placedParts e ▸ hx)
    obtain ⟨place, hstands⟩ := stands_of_mem_nodes q hy
    exact ⟨place, hstands.of_part hpart⟩
termination_by sizeOf e
decreasing_by exact sizeOf_lt_of_mem_parts hx

/-! ## §2 Proper nodes -/

/-- **A plain name**: spelled as a name, without wildcards, and no word of the language. -/
structure Identifier (name : String) : Prop where
  spelled : ∃ c s, name.toList = c :: s ∧ Token.isNameStart c = true ∧
    ∀ x ∈ s, Token.isNameChar x = true
  plain : '*' ∉ name.toList ∧ '?' ∉ name.toList
  unreserved : name ∉ Token.reserved

/-- **What is asked of a node at a place**, whatever is below it. -/
def Proper (place : Place) : Expr → Prop
  | const (.int n) => 0 ≤ n.toInt
  | const (.double _) => True
  | const (.string s) => '"' ∉ s.toList
  | const _ => False
  | var name => Identifier name
  | glob pattern => '*' ∈ pattern.toList ∨ '?' ∈ pattern.toList
  | assign target _ => Identifier target
  | call name _ => Identifier name
  | seq _ _ => place = .root ∨ place = .second
  | block _ => place ≠ .inside
  | _ => True

/-- **All nodes of a tree are proper** where they stand, the tree standing at a place. -/
def AllProper (start : Place) (e : Expr) : Prop :=
  ∀ place y, Stands start e place y → y.Proper place

theorem allProper_iff {start : Place} {e : Expr} :
    AllProper start e ↔ e.Proper start ∧ ∀ p ∈ e.placedParts, AllProper p.1 p.2 := by
  constructor
  · intro h
    exact ⟨h start e .here, fun p hp place y hy => h place y (hy.of_part hp)⟩
  · rintro ⟨hself, hparts⟩ place y hy
    rcases hy.cases_part with ⟨rfl, rfl⟩ | ⟨p, hp, hy⟩
    · exact hself
    · exact hparts p hp place y hy

end Expr

/-! ## §3 Names and tokens -/

theorem Glob.hasWildcard_iff {name : String} :
    Glob.hasWildcard name = true ↔ '*' ∈ name.toList ∨ '?' ∈ name.toList := by
  rw [hasWildcard, List.any_eq_true]
  constructor
  · rintro ⟨c, hc, hwild⟩
    rcases Bool.or_eq_true_iff.mp hwild with h | h
    · exact .inl (eq_of_beq h ▸ hc)
    · exact .inr (eq_of_beq h ▸ hc)
  · rintro (h | h)
    · exact ⟨_, h, rfl⟩
    · exact ⟨_, h, rfl⟩

namespace Token

/-- A token is a glob if it is a name with a wildcard in it. -/
theorem isGlob_iff {t : Token} :
    t.isGlob = true ↔ t.kind = .name ∧ Glob.hasWildcard t.lexeme = true := by
  rw [isGlob, Bool.and_eq_true, beq_iff_eq]
  rfl

/-- A name that has been read is spelled as one. -/
theorem Lexical.exists_nameStart {t : Token} (ht : t.Lexical) (hkind : t.kind = .name) :
    ∃ c s, t.lexeme.toList = c :: s ∧ isNameStart c = true ∧ ∀ x ∈ s, isNameChar x = true := by
  cases ht with
  | word _ hc hs => exact ⟨_, _, String.toList_ofList, hc, hs⟩
  | bracket hc => exact absurd hkind (bracketKind?_ne hc (by decide))
  | symbol => exact absurd hkind (kindOfSymbol_ne _ (by decide))
  | string | number | extended => cases hkind

/-- **A name without wildcards is a plain name.** -/
theorem Lexical.identifier {t : Token} (ht : t.Lexical) (hkind : t.kind = .name)
    (hglob : t.isGlob = false) : Expr.Identifier t.lexeme := by
  have hwild : ¬ Glob.hasWildcard t.lexeme = true := by
    intro hwild
    rw [isGlob_iff.mpr ⟨hkind, hwild⟩] at hglob
    cases hglob
  exact
    { spelled := ht.exists_nameStart hkind
      plain := not_or.mp (mt Glob.hasWildcard_iff.mpr hwild)
      unreserved := ht.not_reserved hkind }

theorem Lexical.no_quote {t : Token} (ht : t.Lexical) (hkind : t.kind = .string) :
    '"' ∉ t.lexeme.toList := by
  cases ht with
  | string hs =>
    rw [String.toList_ofList]
    exact fun hmem => hs _ hmem rfl
  | bracket hc => exact absurd hkind (bracketKind?_ne hc (by decide))
  | word => exact absurd hkind (kindOfWord_ne _ (by decide))
  | symbol => exact absurd hkind (kindOfSymbol_ne _ (by decide))
  | number | extended => cases hkind

/-- A number that is read is a proper constant. -/
theorem Lexical.proper_number {t : Token} (ht : t.Lexical) (hkind : t.kind = .number) {v : Value}
    (hv : Value.readLiteral? t.lexeme.toList = some v) (place : Expr.Place) :
    (Expr.const v).Proper place := by
  rcases Value.readLiteral?_eq_some hv with ⟨n, rfl⟩ | ⟨x, rfl⟩
  · obtain ⟨c, s, htext, hc⟩ := ht.exists_digit hkind
    rw [htext] at hv
    exact Value.toInt_nonneg_of_readLiteral? hc hv
  · trivial

end Token

/-! ## §4 All derivations -/

namespace Grammar

open Cascade.Expr (Place AllProper allProper_iff)

/-- **The trees of a phrase are proper wherever the phrase may stand.** -/
def Phrase.Shaped : Phrase → Prop
  | .program e => ∀ start, start = .root ∨ start = .second → AllProper start e
  | .statement e => ∀ start, start ≠ .inside → AllProper start e
  | .items es => ∀ e ∈ es, AllProper .item e
  | .expression e | .joined _ e | .term e => ∀ start, AllProper start e
  | .arguments es => ∀ e ∈ es, AllProper .inside e

theorem shaped_operand {level : Parse.Level} {e : Expr} :
    (operand level e).Shaped ↔ (Phrase.term e).Shaped := by
  cases level <;> rfl

/-- **What is derived from tokens that can be read is proper**, by induction on the derivation. -/
theorem shaped {phrase : Phrase} {list : List Token} (d : Derivation phrase list)
    (hlexical : ∀ t ∈ list, t.Lexical) : phrase.Shaped := by
  induction d with
  | last _ _ ih =>
    rintro start (rfl | rfl)
    · exact ih (fun t ht => hlexical t (by simp [ht])) .root nofun
    · exact ih (fun t ht => hlexical t (by simp [ht])) .second nofun
  | next _ _ ih ih' =>
    intro start hstart
    have hfirst := ih (fun t ht => hlexical t (by simp [ht])) .first nofun
    have hsecond := ih' (fun t ht => hlexical t (by simp [ht])) .second (.inr rfl)
    exact allProper_iff.mpr ⟨hstart, by simp [Expr.placedParts, hfirst, hsecond]⟩
  | emptyBlock _ _ =>
    exact fun start hstart => allProper_iff.mpr ⟨hstart, nofun⟩
  | @block es _ _ _ _ _ _ ih =>
    intro start hstart
    have hitems : ∀ e ∈ es, AllProper .item e := ih fun t ht => hlexical t (by simp [ht])
    exact allProper_iff.mpr ⟨hstart, by simpa [Expr.placedParts] using hitems⟩
  | plain _ ih => exact fun start _ => ih hlexical start
  | lastItem _ _ ih =>
    have hitem := ih (fun t ht => hlexical t (by simp [ht])) .item nofun
    intro e he
    rw [List.mem_singleton.mp he]
    exact hitem
  | nextItem _ _ ih ih' =>
    have hitem := ih (fun t ht => hlexical t (by simp [ht])) .item nofun
    have hrest := ih' fun t ht => hlexical t (by simp [ht])
    exact List.forall_mem_cons.mpr ⟨hitem, hrest⟩
  | value _ ih => exact ih hlexical
  | assign _ _ ih ih' =>
    intro start
    have htarget := ih (fun t ht => hlexical t (by simp [ht])) .inside
    have hvalue := ih' (fun t ht => hlexical t (by simp [ht])) .inside
    exact allProper_iff.mpr ⟨(allProper_iff.mp htarget).1, by simp [Expr.placedParts, hvalue]⟩
  | single _ ih => exact shaped_operand.mp (ih hlexical)
  | join _ _ _ ih ih' =>
    intro start
    have hleft := ih (fun t ht => hlexical t (by simp [ht])) .inside
    have hright := shaped_operand.mp (ih' fun t ht => hlexical t (by simp [ht])) .inside
    exact allProper_iff.mpr ⟨trivial, by simp [Expr.placedParts, hleft, hright]⟩
  | group _ _ _ ih => exact ih fun t ht => hlexical t (by simp [ht])
  | number hkind hv =>
    intro start
    have ht := hlexical _ List.mem_cons_self
    exact allProper_iff.mpr ⟨ht.proper_number hkind hv start, nofun⟩
  | string hkind =>
    intro start
    have ht := hlexical _ List.mem_cons_self
    exact allProper_iff.mpr ⟨ht.no_quote hkind, nofun⟩
  | var hkind hglob =>
    intro start
    have ht := hlexical _ List.mem_cons_self
    exact allProper_iff.mpr ⟨ht.identifier hkind hglob, nofun⟩
  | glob hglob =>
    intro start
    exact allProper_iff.mpr ⟨Glob.hasWildcard_iff.mp (Token.isGlob_iff.mp hglob).2, nofun⟩
  | star => exact fun start => allProper_iff.mpr ⟨.inl (by decide), nofun⟩
  | negate _ ih =>
    intro start
    have hinner := ih (fun t ht => hlexical t (by simp [ht])) .inside
    exact allProper_iff.mpr ⟨trivial, by simp [Expr.placedParts, hinner]⟩
  | emptyCall hkind hglob _ _ =>
    intro start
    have ht := hlexical _ List.mem_cons_self
    exact allProper_iff.mpr ⟨ht.identifier hkind hglob, nofun⟩
  | @call es _ _ _ _ hkind hglob _ _ _ ih =>
    intro start
    have ht := hlexical _ List.mem_cons_self
    have hargs : ∀ e ∈ es, AllProper .inside e := ih fun t ht => hlexical t (by simp [ht])
    exact allProper_iff.mpr ⟨ht.identifier hkind hglob, by simpa [Expr.placedParts] using hargs⟩
  | lastArgument _ ih =>
    intro e he
    rw [List.mem_singleton.mp he]
    exact ih hlexical .inside
  | nextArgument _ _ _ ih ih' =>
    have hfirst := ih (fun t ht => hlexical t (by simp [ht])) .inside
    have hrest := ih' fun t ht => hlexical t (by simp [ht])
    exact List.forall_mem_cons.mpr ⟨hfirst, hrest⟩
  | ifThen _ _ _ _ ih ih' =>
    intro start
    have htest := ih (fun t ht => hlexical t (by simp [ht])) .inside
    have hbranch := ih' (fun t ht => hlexical t (by simp [ht])) .branch nofun
    exact allProper_iff.mpr ⟨trivial, by simp [Expr.placedParts, htest, hbranch]⟩
  | ifThenElse _ _ _ _ _ _ ih ih' ih'' | edgeIf _ _ _ _ _ _ ih ih' ih'' =>
    intro start
    have htest := ih (fun t ht => hlexical t (by simp [ht])) .inside
    have htrue := ih' (fun t ht => hlexical t (by simp [ht])) .branch nofun
    have hfalse := ih'' (fun t ht => hlexical t (by simp [ht])) .branch nofun
    exact allProper_iff.mpr ⟨trivial, by simp [Expr.placedParts, htest, htrue, hfalse]⟩
  | atChange _ _ _ _ ih ih' =>
    intro start
    have hwatch := ih (fun t ht => hlexical t (by simp [ht])) .inside
    have haction := ih' (fun t ht => hlexical t (by simp [ht])) .action nofun
    exact allProper_iff.mpr ⟨trivial, by simp [Expr.placedParts, hwatch, haction]⟩

end Grammar

/-- **A tree that has been read is proper**, node by node. -/
theorem Expr.allProper_of_read {source : String} {e : Expr} (h : Expr.read source = .ok e) :
    e.AllProper .root := by
  obtain ⟨rest, hread⟩ := Expr.read_eq_ok_iff.mp h
  obtain ⟨ts, hsource, d, -⟩ := Parse.program_taken hread
  exact Grammar.shaped d hsource.lexical .root (.inl rfl)

/-! ## §5 What a tree reacts to -/

namespace Expr

mutual

/-- **The variables and globs that a tree reads where it reacts**: of the remembering forms the
condition only. -/
def sources : Expr → List Expr
  | const _ => []
  | var name => [var name]
  | glob pattern => [glob pattern]
  | assign _ value => sources value
  | binary _ left right => sources left ++ sources right
  | negate inner => sources inner
  | seq first second => sources first ++ sources second
  | block stmts => sourcesAll stmts
  | ifThen test branch => sources test ++ sources branch
  | ifThenElse test onTrue onFalse => sources test ++ sources onTrue ++ sources onFalse
  | edgeIf test _ _ => sources test
  | atChange watch _ => sources watch
  | call _ args => sourcesAll args

/-- Those of a list of trees. -/
def sourcesAll : List Expr → List Expr
  | [] => []
  | e :: es => sources e ++ sourcesAll es

end

mutual

/-- **What is read is the name of a variable or the pattern of a glob.** -/
theorem mem_reads_iff {d : String} :
    ∀ e : Expr, d ∈ e.reads ↔ var d ∈ e.sources ∨ glob d ∈ e.sources
  | const _ => by simp [reads, sources]
  | var name => by simp [reads, sources]
  | glob pattern => by simp [reads, sources]
  | assign _ value => mem_reads_iff value
  | binary _ left right | seq left right | ifThen left right => by
    simp only [reads, sources, List.mem_append, mem_reads_iff left, mem_reads_iff right]
    grind
  | negate inner => mem_reads_iff inner
  | block stmts => mem_readsAll_iff stmts
  | ifThenElse test onTrue onFalse => by
    simp only [reads, sources, List.mem_append, mem_reads_iff test, mem_reads_iff onTrue,
      mem_reads_iff onFalse]
    grind
  | edgeIf test _ _ => mem_reads_iff test
  | atChange watch _ => mem_reads_iff watch
  | call _ args => mem_readsAll_iff args

theorem mem_readsAll_iff {d : String} :
    ∀ es : List Expr, d ∈ readsAll es ↔ var d ∈ sourcesAll es ∨ glob d ∈ sourcesAll es
  | [] => by simp [readsAll, sourcesAll]
  | e :: es => by
    simp only [readsAll, sourcesAll, List.mem_append, mem_reads_iff e, mem_readsAll_iff es]
    grind

end

mutual

theorem mem_nodes_of_mem_sources {x : Expr} : ∀ e : Expr, x ∈ e.sources → x ∈ e.nodes
  | const _, h => nomatch h
  | var _, h | glob _, h => h
  | assign _ value, h => List.mem_cons_of_mem _ (mem_nodes_of_mem_sources value h)
  | binary _ left right, h | seq left right, h | ifThen left right, h => by
    refine List.mem_cons_of_mem _ (List.mem_append.mpr ?_)
    exact (List.mem_append.mp h).imp (mem_nodes_of_mem_sources left)
      (mem_nodes_of_mem_sources right)
  | negate inner, h => List.mem_cons_of_mem _ (mem_nodes_of_mem_sources inner h)
  | block stmts, h | call _ stmts, h =>
    List.mem_cons_of_mem _ (mem_nodesAll_of_mem_sourcesAll stmts h)
  | ifThenElse test onTrue onFalse, h => by
    refine List.mem_cons_of_mem _ (List.mem_append.mpr ?_)
    refine (List.mem_append.mp h).imp (fun h => List.mem_append.mpr ?_)
      (mem_nodes_of_mem_sources onFalse)
    exact (List.mem_append.mp h).imp (mem_nodes_of_mem_sources test)
      (mem_nodes_of_mem_sources onTrue)
  | edgeIf test _ _, h => by
    refine List.mem_cons_of_mem _ (List.mem_append_left _ (List.mem_append_left _ ?_))
    exact mem_nodes_of_mem_sources test h
  | atChange watch _, h =>
    List.mem_cons_of_mem _ (List.mem_append_left _ (mem_nodes_of_mem_sources watch h))

theorem mem_nodesAll_of_mem_sourcesAll {x : Expr} :
    ∀ es : List Expr, x ∈ sourcesAll es → x ∈ nodesAll es
  | [], h => nomatch h
  | e :: es, h => List.mem_append.mpr ((List.mem_append.mp h).imp (mem_nodes_of_mem_sources e)
    (mem_nodesAll_of_mem_sourcesAll es))

end

/-- **A proper tree tells its patterns from its names by their spelling.** -/
theorem AllProper.dependency {start : Place} {e : Expr} (h : e.AllProper start) {d : String}
    (hd : d ∈ e.dependencies) :
    (Glob.hasWildcard d = true ↔ glob d ∈ e.sources) ∧
      (Glob.hasWildcard d = false ↔ var d ∈ e.sources) := by
  have hproper {x : Expr} (hx : x ∈ e.sources) : ∃ place, x.Proper place := by
    obtain ⟨place, hstands⟩ := stands_of_mem_nodes start (mem_nodes_of_mem_sources e hx)
    exact ⟨place, h place x hstands⟩
  have hglob (hx : glob d ∈ e.sources) : Glob.hasWildcard d = true := by
    obtain ⟨_, hwild⟩ := hproper hx
    exact Glob.hasWildcard_iff.mpr hwild
  have hvar (hx : var d ∈ e.sources) : Glob.hasWildcard d = false := by
    obtain ⟨_, hname⟩ := hproper hx
    exact Bool.eq_false_iff.mpr fun hwild =>
      not_or.mpr hname.plain (Glob.hasWildcard_iff.mp hwild)
  rcases (mem_reads_iff e).mp (mem_dependencies.mp hd) with hx | hx
  · have hplain := hvar hx
    refine ⟨⟨fun hwild => ?_, hglob⟩, fun _ => hx, hvar⟩
    rw [hplain] at hwild
    cases hwild
  · have hwild := hglob hx
    refine ⟨⟨fun _ => hx, hglob⟩, fun hplain => ?_, hvar⟩
    rw [hwild] at hplain
    cases hplain

end Expr

end Cascade
