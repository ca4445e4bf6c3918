import Cascade.Proofs.History
import Cascade.Proofs.Shape

/-!
# A new rule remembers nothing

The remembering forms of a rule remember under the identity of the rule, and an identity is handed out
once. So it is enough that nothing is ever remembered for rules that are yet to come: only a rule that
is there runs, and what its tree remembers stays under an identity that has been handed out. This
holds however runs, definitions and native functions nest, and when a rule is defined, all its forms
are as they are at first.

§1 trees of which nothing is remembered; §2 rules to come; §3 ways to run rules; §4 all levels,
operations and histories; §5 what is read from a source.
-/

namespace Cascade

/-! ## §1 Trees of which nothing is remembered -/

/-- **Nothing is remembered of a tree**: each `edge_if` in it is as if its condition had been false,
and each `at` as if it had seen no value. -/
def Memories.Blank (m : Memories) (owner : Owner) : Prop :=
  ∀ n, m.truth ⟨owner, n⟩ = false ∧ m.seen ⟨owner, n⟩ = none

/-- An item that is filtered out is not found. -/
theorem itemAt_filter_out {node : NodeRef} {p : NodeRef × α → Bool}
    (h : ∀ a, p (node, a) = false) (items : List (NodeRef × α)) :
    itemAt node (items.filter p) = none := by
  induction items with
  | nil => rfl
  | cons first items ih =>
    obtain ⟨other, a⟩ := first
    by_cases hp : p (other, a) = true
    · have hother : other ≠ node := by
        rintro rfl
        exact absurd (h a) (by simp [hp])
      rw [List.filter_cons_of_pos hp, itemAt, if_neg hother, ih]
    · rw [List.filter_cons_of_neg hp, ih]

/-- **An expression by itself starts with nothing remembered.** -/
theorem Memories.blank_forgetQuery (m : Memories) : m.forgetQuery.Blank .query := by
  intro n
  rw [truth, seen, forgetQuery, itemAt_filter_out fun _ => rfl, itemAt_filter_out fun _ => rfl]
  exact ⟨rfl, rfl⟩

/-- The tree of a rule is what its source is read as. -/
theorem Rule.read_of_compile {key source : String} {r : Rule}
    (h : Rule.compile key source = .ok r) : Expr.read source = .ok r.body := by
  unfold Rule.compile at h
  split at h
  · cases h
  · next hread =>
    cases h
    exact hread

/-! ## §2 Rules to come -/

/-- If a tree is a rule's, the identity of the rule has been handed out. -/
def Owner.Known (count : Nat) (owner : Owner) : Prop := ∀ id, owner = .rule id → id.slot < count

namespace Engine

/-- **Nothing is remembered for rules to come**, at least so many identities having been handed
out. -/
structure Awaits (count : Nat) (e : Engine) : Prop where
  size : count ≤ e.rules.size
  blank : ∀ id : RuleId, e.rules.size ≤ id.slot → e.memories.Blank (.rule id)

namespace Awaits

variable {count : Nat} {e e' : Engine}

theorem mono {less : Nat} (h : e.Awaits count) (hle : less ≤ count) : e.Awaits less :=
  ⟨Nat.le_trans hle h.size, h.blank⟩

/-- What leaves the memories alone and takes back no identity. -/
theorem of_memories (h : e.Awaits count) (hmemories : e'.memories = e.memories)
    (hsize : e.rules.size ≤ e'.rules.size) : e'.Awaits count where
  size := Nat.le_trans h.size hsize
  blank id hid := by
    rw [hmemories]
    exact h.blank id (Nat.le_trans hsize hid)

/-- What leaves memories and rules alone. -/
theorem of_same (h : e.Awaits count) (hmemories : e'.memories = e.memories)
    (hrules : e'.rules = e.rules) : e'.Awaits count :=
  h.of_memories hmemories (Nat.le_of_eq (congrArg Rules.size hrules.symm))

/-- **A tree of a rule that is there may remember.** -/
theorem branch (h : e.Awaits count) {owner : Owner} (howner : owner.Known count) (n : Nat)
    (b : Bool) : (e.branch ⟨owner, n⟩ b).Awaits count where
  size := h.size
  blank id hid k := by
    have hne : (⟨.rule id, k⟩ : NodeRef) ≠ ⟨owner, n⟩ := by
      rintro ⟨⟩
      exact absurd (howner id rfl) (Nat.not_lt.mpr (Nat.le_trans h.size hid))
    obtain ⟨htruth, hseen⟩ := h.blank id hid k
    exact ⟨(Memories.truth_setTruth ..).trans ((if_neg hne).trans htruth), hseen⟩

theorem act (h : e.Awaits count) {owner : Owner} (howner : owner.Known count) (n : Nat)
    (v : Value) : (e.act ⟨owner, n⟩ v).Awaits count where
  size := h.size
  blank id hid k := by
    have hne : (⟨.rule id, k⟩ : NodeRef) ≠ ⟨owner, n⟩ := by
      rintro ⟨⟩
      exact absurd (howner id rfl) (Nat.not_lt.mpr (Nat.le_trans h.size hid))
    obtain ⟨htruth, hseen⟩ := h.blank id hid k
    exact ⟨htruth, (Memories.seen_setSeen ..).trans ((if_neg hne).trans hseen)⟩

theorem forget (h : e.Awaits count) :
    ({ e with memories := e.memories.forgetQuery } : Engine).Awaits count where
  size := h.size
  blank id hid k := by
    have hne : (⟨.rule id, k⟩ : NodeRef).owner ≠ .query := nofun
    obtain ⟨htruth, hseen⟩ := h.blank id hid k
    exact ⟨(Memories.truth_forgetQuery _ hne).trans htruth,
      (Memories.seen_forgetQuery _ hne).trans hseen⟩

theorem record (h : e.Awaits count) (event : Event) : (e.record event).Awaits count :=
  h.of_same rfl rfl

/-- **A plain step keeps it**, since it remembers nothing. -/
theorem plain (h : e.Awaits count) (hplain : Plain e e') : e'.Awaits count :=
  h.of_memories hplain.memories hplain.step.size_le

theorem keep (h : e.Awaits count) (id : RuleId) (r : Except EvalError Value) :
    (e.keep id r).Awaits count := by
  cases r with
  | ok v => exact h.of_memories rfl (Nat.le_of_eq (Rules.size_update ..).symm)
  | error error => exact h

/-- **The rule that is installed remembers nothing**, its identity having just been handed out. -/
theorem install (h : e.Awaits count) (r : Rule) :
    (e.install r).2.rules.get? (e.install r).1 = some r ∧
      (e.install r).2.memories.Blank (.rule (e.install r).1) := by
  constructor
  · rw [install_rules, Rules.get?_add]
    exact if_pos rfl
  · rw [install_memories]
    exact h.blank _ (Nat.le_refl _)

/-- **A rule that is defined** remembers nothing then. -/
theorem define (h : e.Awaits count) (key source : String) :
    ∀ id, (e.define key source).1 = .ok id →
      (∃ r, (e.define key source).2.rules.get? id = some r ∧ Expr.read source = .ok r.body) ∧
        (e.define key source).2.memories.Blank (.rule id) := by
  have hfree : (e.free key).Awaits count := (plains_free key e).keeps (fun h => h.plain) h
  unfold Engine.define
  split
  · exact nofun
  · split
    · exact nofun
    · next r hread =>
      intro id hid
      cases hid
      obtain ⟨hget, hblank⟩ := hfree.install r
      exact ⟨⟨r, hget, Rule.read_of_compile hread⟩, hblank⟩

/-- **The rule of a trigger that is defined** remembers nothing then. -/
theorem defineTrigger (h : e.Awaits count) (pattern source : String) :
    ∀ id, (e.defineTrigger pattern source).1 = .ok id →
      (∃ r, (e.defineTrigger pattern source).2.rules.get? id = some r ∧
        Expr.read source = .ok r.body) ∧
        (e.defineTrigger pattern source).2.memories.Blank (.rule id) := by
  unfold Engine.defineTrigger
  split
  · exact nofun
  · next r hread =>
    split
    · exact nofun
    · intro id hid
      cases hid
      refine ⟨⟨r, ?_, Rule.read_of_compile hread⟩, h.blank _ (Nat.le_refl _)⟩
      exact (Rules.get?_add ..).trans (if_pos rfl)

end Awaits

end Engine

/-! ## §3 Ways to run rules -/

open Engine

/-- **A way to run rules remembers nothing for rules to come.** -/
def Runner.Awaits (run : Runner) : Prop :=
  ∀ id {count : Nat} {e : Engine}, e.Awaits count → ((run id).run.run e).2.Awaits count

namespace Runner.Awaits

variable {run : Runner} {count : Nat} {e : Engine}

/-- Nothing is remembered for rules to come by anything but a tree. -/
theorem concur (h : run.Awaits) : run.Concur (Engine.Awaits count) run :=
  .of_runs (fun he hplain => he.plain hplain) (fun _ _ _ he => he.of_same rfl rfl)
    (fun _ he => he.record _) (.inl fun _ _ he => he.record _) fun id _ he => ⟨rfl, h id he⟩

/-- **A tree remembers under its own identity**, which has been handed out. -/
theorem eval (h : run.Awaits) {owner : Owner} (howner : owner.Known count) (x : Expr)
    (he : e.Awaits count) : ((run.eval owner 0 x).run.run e).2.Awaits count :=
  (h.concur.eval (fun _ he _ => he.branch howner _ _) (fun _ he _ => he.act howner _ _) he).2

end Runner.Awaits

/-! ## §4 All levels, operations and histories -/

/-- A run remembers nothing for rules to come if the tree of a rule that is there does not. -/
theorem awaits_runRule {body : RuleId → Expr → Eval Value}
    (hbody : ∀ id x {count : Nat} {e : Engine}, id.slot < count → e.Awaits count →
      ((body id x).run.run e).2.Awaits count) : Runner.Awaits (runRule body) := by
  intro id count e he
  cases hr : e.rules.get? id with
  | none =>
    rw [runRule_gone hr]
    exact he
  | some rule =>
    cases hlimit : e.limitReached? with
    | some limit =>
      rw [runRule_refused hr hlimit]
      exact he.record _
    | none =>
      rw [runRule_ran hr hlimit rfl]
      -- the identity of the rule is among those that have been handed out
      have hentered : (e.enter id).Awaits e.rules.size := ⟨Nat.le_refl _, he.blank⟩
      have hran := hbody id rule.body (Rules.slot_lt hr) hentered
      exact ((hran.of_same rfl rfl : (Engine.leave id _).Awaits _).keep id _).mono he.size

/-- **However many levels there are**, nothing is remembered for rules to come. -/
theorem awaits_runner (levels : Nat) : (runner levels).Awaits := by
  induction levels with
  | zero => exact awaits_runRule fun id x _ _ _ he => he.record _
  | succ levels ih =>
    refine awaits_runRule fun id x count e hid he => ?_
    have howned : (Owner.rule id).Known count := by
      rintro _ ⟨⟩
      exact hid
    exact ih.eval howned x he

/-- **No operation remembers anything for rules to come.** -/
theorem Operation.awaits (o : Operation) {count : Nat} {e : Engine} (he : e.Awaits count) :
    (o.perform.run e).2.Awaits count := by
  have hruns : e.runner.Awaits := awaits_runner _
  have hquery : Owner.query.Known count := nofun
  rw [o.run_perform]
  exact (o.concur hruns.concur (fun body _ he => ⟨rfl, hruns.eval hquery body he⟩)
    (fun _ => he.forget) (fun _ _ _ => he.of_same rfl rfl) he).2

theorem awaits_new (config : Config) : (Engine.new config).Awaits 0 where
  size := Nat.zero_le _
  blank id _ n := by
    rw [new_eq]
    exact ⟨rfl, rfl⟩

/-- **In every history nothing is remembered for rules to come.** -/
theorem awaits_history (config : Config) (ops : List Operation) :
    (history config ops).Awaits 0 :=
  after_keeps (S := Engine.Awaits 0) (fun o _ _ he => o.awaits he) (awaits_new config)

/-! ## §5 What is read from a source -/

/-- **The shape of trees that have been read.** Every node of the tree stands somewhere in it, and is
proper there: variables, targets and functions have plain names, the patterns of globs have wildcards,
integers are not negative, strings have no quotes, a sequence stands at the root or on the right of a
sequence, and a block at the root, among the statements of a sequence or a block, as a branch or as an
action. So a dependency is a pattern by its spelling just if it is that of a glob that the tree reads.
And whatever has happened before, a rule that is defined by the source, under a key or with a trigger,
has that tree and remembers nothing; nor is anything remembered of an expression by itself once it is
forgotten. -/
theorem shape_of_read {source : String} {e : Expr} (h : Expr.read source = .ok e) :
    (∀ y ∈ e.nodes, ∃ place, Expr.Stands .root e place y) ∧
    (∀ place y, Expr.Stands .root e place y → y.Proper place) ∧
    (∀ d ∈ e.dependencies,
      (Glob.hasWildcard d = true ↔ .glob d ∈ e.sources) ∧
        (Glob.hasWildcard d = false ↔ .var d ∈ e.sources)) ∧
    ∀ config ops,
      (∀ key id next, (history config ops).define key source = (.ok id, next) →
        (∃ r, next.rules.get? id = some r ∧ r.body = e) ∧ next.memories.Blank (.rule id)) ∧
      (∀ pattern id next, (history config ops).defineTrigger pattern source = (.ok id, next) →
        (∃ r, next.rules.get? id = some r ∧ r.body = e) ∧ next.memories.Blank (.rule id)) ∧
      (history config ops).memories.forgetQuery.Blank .query := by
  have hproper := Expr.allProper_of_read h
  refine ⟨fun y => Expr.stands_of_mem_nodes .root, hproper, fun d => hproper.dependency, ?_⟩
  intro config ops
  have hawaits := awaits_history config ops
  have hbody {r : Rule} (hr : Expr.read source = .ok r.body) : r.body = e :=
    Except.ok.inj (hr.symm.trans h)
  refine ⟨?_, ?_, Memories.blank_forgetQuery _⟩
  · intro key id next hdefine
    obtain ⟨⟨r, hget, hread⟩, hblank⟩ :=
      hawaits.define key source id (by rw [hdefine])
    rw [hdefine] at hget hblank
    exact ⟨⟨r, hget, hbody hread⟩, hblank⟩
  · intro pattern id next hdefine
    obtain ⟨⟨r, hget, hread⟩, hblank⟩ :=
      hawaits.defineTrigger pattern source id (by rw [hdefine])
    rw [hdefine] at hget hblank
    exact ⟨⟨r, hget, hbody hread⟩, hblank⟩

/-- A block in front of a form whose condition has a glob in it, and a block as a branch. -/
theorem two_blocks_shaped :
    let e : Expr := .seq (.block [.assign "a" (.const (.int 1)), .var "b"])
      (.edgeIf (.binary .greater (.glob "x*") (.const (.string "q"))) (.block []) (.call "f" [.var "y"]))
    Expr.read "\x7ba = 1; b\x7d; edge_if x* > \"q\" then \x7b\x7d else f(y)" = .ok e ∧
      (∀ place y, Expr.Stands .root e place y → y.Proper place) ∧
      Glob.hasWildcard "x*" = true ∧ Glob.hasWildcard "b" = false := by
  intro e
  have hread : Expr.read "\x7ba = 1; b\x7d; edge_if x* > \"q\" then \x7b\x7d else f(y)" = .ok e := rfl
  obtain ⟨-, hproper, hdependency, -⟩ := shape_of_read hread
  have hreads : e.dependencies = ["b", "x*"] := by decide
  refine ⟨hread, hproper, (hdependency "x*" (by simp [hreads])).1.mpr ?_,
    (hdependency "b" (by simp [hreads])).2.mpr ?_⟩
  · simp [e, Expr.sources, Expr.sourcesAll]
  · simp [e, Expr.sources, Expr.sourcesAll]

end Cascade
