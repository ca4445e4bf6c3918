import Cascade.Proofs.Notification

/-!
# Rejected definitions

A definition, a removal or a line with either may be rejected. Whatever it can be rejected for is
looked at before anything is written, with one exception: the rule of a trigger has its slot before
the pattern is read, so a refused pattern leaves an empty slot behind, and nothing else.

§1 what a rejection leaves alone; §2 definitions, removals and triggers; §3 lines and operations;
§4 at every moment.
-/

namespace Cascade

/-! ## §1 What a rejection leaves alone -/

/-- A rule that is added and removed at once leaves an empty slot. -/
theorem Rules.remove_add (rs : Rules) (r : Rule) :
    (rs.add r).remove rs.nextId = ⟨rs.slots.push none⟩ := by
  have hslots : (rs.slots.push (some r)).setIfInBounds rs.slots.size none = rs.slots.push none := by
    apply Array.ext'
    simp
  exact congrArg Rules.mk hslots

/-- An empty slot behind the others is the same as none. -/
theorem Rules.get?_push_none (rs : Rules) (id : RuleId) :
    (Rules.mk (rs.slots.push none)).get? id = rs.get? id := by
  rw [get?, get?, Array.getElem?_push]
  split
  · next h =>
    rw [h, Array.getElem?_eq_none (Nat.le_refl _)]
    rfl
  · rfl

/-- Only a source that cannot be read makes no rule. -/
theorem Rule.compile_eq_error_iff (key : String) {source : String} {why : ParseError} :
    compile key source = .error why ↔ Expr.read source = .error why := by
  unfold compile
  cases Expr.read source with
  | error e =>
    constructor
    · rintro ⟨⟩
      rfl
    · rintro ⟨⟩
      rfl
  | ok body => exact ⟨nofun, nofun⟩

namespace Engine

/-- **Nothing has changed** that anybody can tell from the engine: an identity that has been handed
out in vain leads to no rule, as before. -/
structure Untouched (e e' : Engine) : Prop where
  config : e'.config = e.config
  /-- The values of all symbols and their observers. -/
  symbols : e'.symbols = e.symbols
  /-- Every rule, its last result included. -/
  rule : ∀ id, e'.rules.get? id = e.rules.get? id
  registry : e'.registry = e.registry
  wildcards : e'.wildcards = e.wildcards
  functions : e'.functions = e.functions
  triggers : e'.triggers = e.triggers
  memories : e'.memories = e.memories
  depth : e'.depth = e.depth
  /-- Nothing was printed, no symbol changed and no run began. -/
  journal : e'.journal = e.journal

/-- **What a rejection may do to the slots**: nothing, or use up one in vain for a refused pattern.
-/
inductive Spent (error : DefineError) (e e' : Engine) : Prop
  | nothing : e'.rules = e.rules → Spent error e e'
  | slot {pattern : String} {why : PatternError} : error = .badPattern pattern why →
      Pattern.compile pattern = .error why → e'.rules.slots = e.rules.slots.push none →
      Spent error e e'

/-- **A rejection leaves everything alone**, an empty slot for a refused pattern apart. -/
structure Rejected (error : DefineError) (e e' : Engine) : Prop where
  untouched : e.Untouched e'
  spent : Spent error e e'

variable {e e' : Engine}

theorem Untouched.refl (e : Engine) : e.Untouched e :=
  ⟨rfl, rfl, fun _ => rfl, rfl, rfl, rfl, rfl, rfl, rfl, rfl⟩

/-- Where nothing has been done, nothing has changed. -/
theorem Rejected.of_eq {error : DefineError} (h : e' = e) : Rejected error e e' := by
  rw [h]
  exact ⟨.refl e, .nothing rfl⟩

/-! ## §2 Definitions, removals and triggers -/

/-- **A definition is rejected** for an empty key, or else for a source that cannot be read. -/
theorem define_error_iff {key source : String} {error : DefineError} :
    (e.define key source).1 = .error error ↔
      key = "" ∧ error = .emptyKey ∨
        key ≠ "" ∧ ∃ why, Expr.read source = .error why ∧ error = .unreadable source why := by
  by_cases hkey : key = ""
  · rw [define, if_pos hkey]
    constructor
    · rintro ⟨⟩
      exact .inl ⟨hkey, rfl⟩
    · rintro (⟨-, rfl⟩ | ⟨hne, -⟩)
      · rfl
      · exact absurd hkey hne
  · rw [define, if_neg hkey,
      exists_congr fun why => and_congr_left' (Rule.compile_eq_error_iff key).symm]
    cases Rule.compile key source with
    | error why =>
      constructor
      · rintro ⟨⟩
        exact .inr ⟨hkey, why, rfl, rfl⟩
      · rintro (⟨hempty, -⟩ | ⟨-, _, ⟨⟩, rfl⟩)
        · exact absurd hempty hkey
        · rfl
    | ok r =>
      constructor
      · exact nofun
      · rintro (⟨hempty, -⟩ | ⟨-, _, ⟨⟩, -⟩)
        exact absurd hempty hkey

theorem define_rejected {key source : String} {error : DefineError}
    (h : (e.define key source).1 = .error error) :
    Rejected error e (e.define key source).2 := by
  refine .of_eq ?_
  by_cases hkey : key = ""
  · rw [define, if_pos hkey]
  · rw [define, if_neg hkey] at h ⊢
    cases hcompile : Rule.compile key source with
    | error why => rfl
    | ok r =>
      rw [hcompile] at h
      cases h

theorem remove_rejected {key : String} {error : DefineError}
    (h : (e.remove key).1 = .error error) : Rejected error e (e.remove key).2 := by
  refine .of_eq ?_
  unfold remove at h ⊢
  split at h
  · rfl
  · cases h

theorem defineTrigger_rejected {pattern source : String} {error : DefineError}
    (h : (e.defineTrigger pattern source).1 = .error error) :
    Rejected error e (e.defineTrigger pattern source).2 := by
  unfold defineTrigger at h ⊢
  split at h
  · exact .of_eq rfl
  · split at h
    · next why hpattern =>
      cases h
      -- the slot has been taken before the pattern was read, and is given up
      refine ⟨⟨rfl, rfl, fun id => ?_, rfl, rfl, rfl, rfl, rfl, rfl, rfl⟩, .slot rfl hpattern ?_⟩
      · rw [Rules.remove_add, Rules.get?_push_none]
      · rw [Rules.remove_add]
    · cases h

end Engine

open Engine

/-! ## §3 Lines and operations -/

/-- What is only made of a result has its error from there. -/
theorem error_of_map {r : Except DefineError α} {g : α → β} {error : DefineError}
    (h : r.map g = .error error) : r = .error error := by
  cases r with
  | ok a => cases h
  | error why =>
    cases h
    rfl

/-- **A line that is rejected** was to define or remove a rule or a trigger, and none of its data
has been looked at. -/
theorem Runner.tryFeed_rejected {way : Runner} {line : String} {e : Engine} {error : DefineError}
    (h : ((way.tryFeed line).run e).1 = .error error) :
    Rejected error e ((way.tryFeed line).run e).2 := by
  unfold tryFeed at h ⊢
  cases hline : Line.read line with
  | blank =>
    rw [hline] at h
    cases h
  | define key source =>
    rw [hline] at h
    have hdefine : (e.define key source).1 = .error error := error_of_map h
    exact define_rejected hdefine
  | remove key =>
    rw [hline] at h
    exact remove_rejected h
  | trigger pattern source =>
    rw [hline] at h
    have hdefine : (e.defineTrigger pattern source).1 = .error error := error_of_map h
    exact defineTrigger_rejected hdefine
  | brokenTrigger => exact .of_eq rfl
  | data =>
    rw [hline] at h
    cases h

/-- The rejection that an answer tells of, if it does. -/
def Answer.rejection? : Answer → Option DefineError
  | .line (.error error) => some error
  | .rule (.error error) => some error
  | _ => none

theorem Answer.rejection?_line {r : Except DefineError Unit} {error : DefineError}
    (h : (Answer.line r).rejection? = some error) : r = .error error := by
  cases r with
  | ok _ => cases h
  | error why => cases h; rfl

theorem Answer.rejection?_rule {r : Except DefineError RuleId} {error : DefineError}
    (h : (Answer.rule r).rejection? = some error) : r = .error error := by
  cases r with
  | ok _ => cases h
  | error why => cases h; rfl

/-- What an action does is not changed by what is made of its result. -/
theorem Act.run_map (x : Act α) (g : α → β) (e : Engine) :
    (do return g (← x) : Act β).run e = (g (x.run e).1, (x.run e).2) := rfl

/-- **An operation that is rejected leaves everything alone**, by any way to run rules. -/
theorem Operation.rejected {way : Runner} {o : Operation} {e : Engine} {error : DefineError}
    (h : ((o.under way).run e).1.rejection? = some error) :
    Rejected error e ((o.under way).run e).2 := by
  cases o with
  | tryFeed line =>
    rw [under, Act.run_map] at h ⊢
    exact Runner.tryFeed_rejected (Answer.rejection?_line h)
  | define key source => exact define_rejected (Answer.rejection?_rule h)
  | remove key => exact remove_rejected (Answer.rejection?_line h)
  | defineTrigger pattern source => exact defineTrigger_rejected (Answer.rejection?_rule h)
  | _ => cases h

/-! ## §4 At every moment -/

/-- **A rejection leaves the engine as it was**, at every moment of every history: the symbols with
their observers, the rules with their results, keys, patterns, triggers, functions, depth and
journal. Only a refused pattern uses up a slot. A definition is rejected for an empty key or a
source that cannot be read and for nothing else, the removal of the rule in its place never failing;
and if it is, that rule is still there and observes what it observed. -/
theorem rejection_leaves_all {config : Config} {ops : List Operation} {e : Engine}
    (h : Moves (history config ops) e) :
    (∀ {way : Runner} {o : Operation} {error}, ((o.under way).run e).1.rejection? = some error →
      e.Untouched ((o.under way).run e).2 ∧ Spent error e ((o.under way).run e).2) ∧
    (∀ {key source error}, (e.define key source).1 = .error error ↔
      key = "" ∧ error = .emptyKey ∨
        key ≠ "" ∧ ∃ why, Expr.read source = .error why ∧ error = .unreadable source why) ∧
    ∀ {key old}, e.registry.get? key = some old → (e.remove key).1 = .ok () ∧
      ∀ {source error}, (e.define key source).1 = .error error →
        (e.define key source).2.registry.get? key = some old ∧
        ∃ r, e.rules.get? old = some r ∧ (e.define key source).2.rules.get? old = some r ∧
          ∀ {name s}, (e.define key source).2.symbols.get? name = some s →
            e.symbols.get? name = some s ∧
            (old ∈ s.observers ↔ ∃ d ∈ r.dependencies, Glob.covers d name = true) := by
  refine ⟨fun hrejected => ?_, define_error_iff, fun {key old} hkey => ⟨?_, fun herror => ?_⟩⟩
  · exact ⟨(Operation.rejected hrejected).untouched, (Operation.rejected hrejected).spent⟩
  · simp only [remove, hkey]
  · have hcanonical : e.Canonical := (canonical_history config ops).moves h
    have hsame := (define_rejected herror).untouched
    obtain ⟨r, hr, -⟩ := hcanonical.housed hkey
    refine ⟨by rw [hsame.registry, hkey], r, hr, by rw [hsame.rule, hr], fun {name s} hs => ?_⟩
    rw [hsame.symbols] at hs
    refine ⟨hs, (hcanonical.subscribed.observers hs old).trans ⟨?_, fun hcover => ?_⟩⟩
    · rintro ⟨r', ⟨_, -, hr'⟩, hcover⟩
      cases hr.symm.trans hr'
      exact hcover
    · exact ⟨r, ⟨key, hkey, hr⟩, hcover⟩

/-- A definition that cannot be read leaves the rule of its key subscribed, and a refused pattern
leaves an empty slot. -/
theorem rejected_source_and_pattern :
    (history .standard [.define "copy" "b = a"]).Untouched
        ((history .standard [.define "copy" "b = a"]).define "copy" "b = ").2 ∧
      (∃ s, ((history .standard [.define "copy" "b = a"]).define "copy" "b = ").2.symbols.get? "a" =
        some s ∧ ⟨0⟩ ∈ s.observers) ∧
      ((history .standard [.define "copy" "b = a"]).defineTrigger "(" "b").2.rules.size = 2 ∧
      (history .standard [.define "copy" "b = a"]).Untouched
        ((history .standard [.define "copy" "b = a"]).defineTrigger "(" "b").2 := by
  have hmoment : Moves (history .standard [.define "copy" "b = a"]) _ := .refl
  obtain ⟨hrejected, -, hkept⟩ := rejection_leaves_all hmoment
  have hdefine := @hrejected (runner 0) (.define "copy" "b = ") _ rfl
  have htrigger := @hrejected (runner 0) (.defineTrigger "(" "b") _ rfl
  obtain ⟨error, herror⟩ :
      ∃ error, ((history .standard [.define "copy" "b = a"]).define "copy" "b = ").1 =
        .error error :=
    ⟨_, rfl⟩
  obtain ⟨-, r, hr, -, hobserved⟩ := (@hkept "copy" ⟨0⟩ rfl).2 herror
  refine ⟨hdefine.1, ⟨⟨none, [⟨0⟩]⟩, rfl, (@hobserved "a" _ rfl).2.mpr ?_⟩, rfl, htrigger.1⟩
  have hrule : (history .standard [.define "copy" "b = a"]).rules.get? ⟨0⟩ =
      some ⟨"copy", "b = a", .assign "b" (.var "a"), none⟩ := rfl
  cases hrule.symm.trans hr
  exact ⟨"a", by decide, by decide⟩

end Cascade
