import Cascade.Proofs.Accord

/-!
# Data leaves the rules alone

A line of data may set symbols, hit triggers and set off cascades of whatever rules there are. Where
only the built-in functions can be called, none of this defines, removes or rewrites a rule: rules,
keys, triggers, patterns, functions and settings stay, and so do the observers of every symbol there
is. A line that looks like a definition is rejected as it stands, and on every other line data is all
that is accepted anyway.

§1 engines with the same rules; §2 what leaves the rules alone; §3 data does; §4 at every moment.
-/

namespace Cascade

/-! ## §1 Engines with the same rules -/

/-- A rule as it was defined, without what it has come to. -/
def Rule.asDefined (r : Rule) : Rule := { r with lastResult := none }

namespace Engine

/-- **The rules have stayed as they were.** Values may have changed, names become symbols, runs left
results and memories; of the functions only the count of their calls is left out. -/
structure SameRules (e e' : Engine) : Prop where
  config : e'.config = e.config
  registry : e'.registry = e.registry
  size : e'.rules.size = e.rules.size
  rules : ∀ id, (e'.rules.get? id).map Rule.asDefined = (e.rules.get? id).map Rule.asDefined
  wildcards : e'.wildcards = e.wildcards
  triggers : e'.triggers = e.triggers
  functions : ∀ name, (e'.functions.get? name).map Registered.function =
    (e.functions.get? name).map Registered.function
  observers : ∀ {name s}, e.symbols.get? name = some s →
    ∃ s', e'.symbols.get? name = some s' ∧ s'.observers = s.observers

/-- Only built-in functions can be called, each by its own name. -/
def BuiltinsOnly (e : Engine) : Prop :=
  ∀ name f, e.functions.get? name = some f → (name, f.function) ∈ Builtin.functions

theorem BuiltinsOnly.quiet {e : Engine} (h : e.BuiltinsOnly) : e.QuietFunctions :=
  fun hf count args => Builtin.quiet_functions (h _ _ hf) count args

/-! ## §2 What leaves the rules alone -/

namespace SameRules

variable {e₀ e e' : Engine}

theorem refl (e : Engine) : SameRules e e :=
  ⟨rfl, rfl, rfl, fun _ => rfl, rfl, rfl, fun _ => rfl, fun hs => ⟨_, hs, rfl⟩⟩

/-- Memories, the depth and the journal do not count. -/
theorem aside (h : SameRules e₀ e) (memories : Memories) (depth : Nat) (journal : List Event) :
    SameRules e₀ { e with memories := memories, depth := depth, journal := journal } :=
  ⟨h.config, h.registry, h.size, h.rules, h.wildcards, h.triggers, h.functions, h.observers⟩

theorem record (h : SameRules e₀ e) (event : Event) : SameRules e₀ (e.record event) :=
  h.aside e.memories e.depth (event :: e.journal)

theorem report (h : SameRules e₀ e) (id : RuleId) (r : Except EvalError Value) :
    SameRules e₀ (e.report id r) := by
  cases r with
  | ok v => exact h
  | error error => exact h.record _

/-- A symbol may take another value, and a name may become a symbol. -/
theorem insert (h : SameRules e₀ e) {name : String} {s : Symbol}
    (hs : s.observers = (e.symbolOf name).observers) :
    SameRules e₀ { e with symbols := e.symbols.insert name s } := by
  refine ⟨h.config, h.registry, h.size, h.rules, h.wildcards, h.triggers, h.functions, ?_⟩
  intro other s₀ hother
  obtain ⟨s', hs', hsame⟩ := h.observers hother
  by_cases heq : other = name
  · subst heq
    refine ⟨s, Table.get?_insert_self .., ?_⟩
    rw [hs, symbolOf, hs', Option.getD_some, hsame]
  · exact ⟨s', (Table.get?_insert_of_ne heq).trans hs', hsame⟩

theorem touch (h : SameRules e₀ e) (name : String) : SameRules e₀ (e.touch name) :=
  h.insert rfl

theorem changed (h : SameRules e₀ e) (name : String) (v : Value) :
    SameRules e₀ (e.changed name v) :=
  (h.insert (s := { e.symbolOf name with value := some v }) rfl).record _

theorem keepResult (h : SameRules e₀ e) (id : RuleId) (v : Value) :
    SameRules e₀ (e.keepResult id v) := by
  refine ⟨h.config, h.registry, (Rules.size_update ..).trans h.size, fun other => ?_, h.wildcards,
    h.triggers, h.functions, h.observers⟩
  rw [← h.rules other, Engine.keepResult, Rules.get?_update]
  split
  · next heq =>
    rw [heq, Option.map_map]
    rfl
  · rfl

theorem finish (h : SameRules e₀ e) (id : RuleId) (r : Except EvalError Value) :
    SameRules e₀ (e.finish id r) := by
  have hleft : SameRules e₀ (e.leave id) := h.aside e.memories (e.depth - 1) (.ended id :: e.journal)
  refine SameRules.report ?_ id r
  cases r with
  | ok v => exact hleft.keepResult id v
  | error error => exact hleft

theorem countCall (h : SameRules e₀ e) {name : String}
    {f : Cascade.Registered} (hf : e.functions.get? name = some f) :
    SameRules e₀ (e.countCall name f) := by
  refine ⟨h.config, h.registry, h.size, h.rules, h.wildcards, h.triggers, fun other => ?_,
    h.observers⟩
  rw [← h.functions other, Engine.countCall, Table.get?_insert]
  split
  · next heq =>
    rw [heq, hf]
    rfl
  · rfl

/-- A rule that is there was there before, with the tree that it has. -/
theorem body (h : SameRules e₀ e) {id : RuleId} {r : Rule} (hr : e.rules.get? id = some r) :
    ∃ r₀, e₀.rules.get? id = some r₀ ∧ r₀.body = r.body := by
  have hsame := h.rules id
  rw [hr] at hsame
  obtain ⟨r₀, hr₀, heq⟩ := Option.map_eq_some_iff.mp hsame.symm
  have hbody : r₀.asDefined.body = r.asDefined.body := congrArg Rule.body heq
  exact ⟨r₀, hr₀, hbody⟩

/-- A function that is there was there before. -/
theorem function (h : SameRules e₀ e) {name : String} {f : Cascade.Registered}
    (hf : e.functions.get? name = some f) :
    ∃ f₀, e₀.functions.get? name = some f₀ ∧ f₀.function = f.function := by
  have hsame := h.functions name
  rw [hf] at hsame
  exact Option.map_eq_some_iff.mp hsame.symm

theorem builtinsOnly (h : SameRules e₀ e) (hbuiltin : e₀.BuiltinsOnly) : e.BuiltinsOnly := by
  intro name f hf
  obtain ⟨f₀, hf₀, heq⟩ := h.function hf
  rw [← heq]
  exact hbuiltin name f₀ hf₀

/-! ## §3 Data leaves the rules alone -/

/-- **Whatever data brings about leaves the rules alone**, if only built-in functions can be called. -/
theorem accord (hbuiltin : e₀.BuiltinsOnly) : Accord (While (SameRules e₀)) fun _ => True where
  value? := by rintro _ e ⟨rfl, -⟩ name; rfl
  functions := by rintro _ e ⟨rfl, -⟩; rfl
  quiet := by rintro _ e ⟨rfl, h⟩; exact (h.builtinsOnly hbuiltin).quiet
  remark := by rintro _ e ⟨rfl, h⟩ event -; exact ⟨rfl, h.record event⟩
  count := by rintro _ e ⟨rfl, h⟩ name f hf; exact ⟨rfl, h.countCall hf⟩
  config := by rintro _ e ⟨rfl, -⟩; rfl
  triggers := by rintro _ e ⟨rfl, -⟩; rfl
  armed := by rintro _ e ⟨rfl, -⟩ t -; trivial
  truth := by rintro _ e ⟨rfl, -⟩ id - n; rfl
  seen := by rintro _ e ⟨rfl, -⟩ id - n; rfl
  body := by rintro _ e ⟨rfl, -⟩ id -; rfl
  limit := by rintro _ e ⟨rfl, -⟩; rfl
  observers := by
    rintro _ e ⟨rfl, -⟩ name
    exact ⟨[], (List.append_nil _).symm, fun _ _ => trivial, nofun⟩
  touch := by rintro _ e ⟨rfl, h⟩ name; exact ⟨rfl, h.touch name⟩
  changed := by rintro _ e ⟨rfl, h⟩ name v; exact ⟨rfl, h.changed name v⟩
  branch := by rintro _ e ⟨rfl, h⟩ id - n b; exact ⟨rfl, h.aside _ e.depth _⟩
  act := by rintro _ e ⟨rfl, h⟩ id - n v; exact ⟨rfl, h.aside _ e.depth _⟩
  fired := by rintro _ e ⟨rfl, h⟩ id -; exact ⟨rfl, h.record _⟩
  refuse := by rintro _ e ⟨rfl, h⟩ id - limit; exact ⟨rfl, (h.record _).record _⟩
  enter := by rintro _ e ⟨rfl, h⟩ id -; exact ⟨rfl, h.aside e.memories _ _⟩
  exhausted := by rintro _ e ⟨rfl, h⟩ id -; exact ⟨rfl, h.record _⟩
  finish := by rintro _ e ⟨rfl, h⟩ id - r; exact ⟨rfl, h.finish id r⟩
  alone := by rintro _ _ - id hid; exact absurd trivial hid

end SameRules

/-- Lines of data are so many operations. -/
theorem run_feedAllData (lines : List String) (e : Engine) :
    (feedAllData lines).run e = ((), e.after (lines.map .feedData)) := by
  induction lines generalizing e with
  | nil => rfl
  | cons line lines ih =>
    rw [feedAllData, run_forM_cons, ← feedAllData, ih, List.map_cons, after, after,
      List.foldl_cons, Operation.perform, Operation.run_done]

end Engine

/-! ## §4 At every moment -/

open Engine

/-- Is a line, when it has been cleaned, left with the mark of a definition in front? -/
def Line.IsMarked (line : String) : Prop :=
  (Text.clean line.toList).head? = some ':' ∨ (Text.clean line.toList).head? = some '/'

theorem Line.read_of_isMarked {line : String} (h : Line.IsMarked line) :
    Line.read line ≠ .blank ∧ Line.read line ≠ .data := by
  unfold Line.read
  rcases h with h | h
  · obtain ⟨body, hbody⟩ := List.head?_eq_some_iff.mp h
    rw [hbody, Line.classify, Line.readDefinition]
    split
    · exact ⟨nofun, nofun⟩
    · split <;> exact ⟨nofun, nofun⟩
  · obtain ⟨body, hbody⟩ := List.head?_eq_some_iff.mp h
    rw [hbody, Line.classify, Line.readTrigger]
    split
    · exact ⟨nofun, nofun⟩
    · split <;> exact ⟨nofun, nofun⟩

theorem Line.read_of_not_isMarked {line : String} (h : ¬ Line.IsMarked line) :
    Line.read line = .blank ∨ Line.read line = .data := by
  unfold Line.read Line.classify
  split
  · exact Or.inl rfl
  · next heq => exact absurd (Or.inl (by rw [heq]; rfl)) h
  · next heq => exact absurd (Or.inr (by rw [heq]; rfl)) h
  · exact Or.inr rfl

/-- A line of data is fed by the engine's own way to run rules. -/
theorem run_feedData (line : String) (e : Engine) :
    (feedData line).run e = (e.runner.feedData line).run e := by
  unfold feedData
  rfl

theorem run_feed (line : String) (e : Engine) :
    (feed line).run e = (e.runner.feed line).run e := by
  unfold feed
  rfl

/-- **A marked line is rejected as it stands**, and nothing else happens. -/
theorem run_feedData_of_isMarked {line : String} (h : Line.IsMarked line) (e : Engine) :
    (feedData line).run e =
      ((), e.record (.lineRejected (Line.content line) (.untrusted (Line.content line)))) := by
  obtain ⟨hblank, hdata⟩ := Line.read_of_isMarked h
  rw [run_feedData]
  unfold Runner.feedData
  split
  · next heq => exact absurd heq hblank
  · next heq => exact absurd heq hdata
  · rfl

/-- **On any other line it makes no difference** whether definitions are accepted. -/
theorem Runner.feed_of_not_isMarked (run : Runner) {line : String} (h : ¬ Line.IsMarked line) :
    run.feed line = run.feedData line := by
  unfold Runner.feedData Runner.feed Runner.tryFeed
  rcases Line.read_of_not_isMarked h with heq | heq
  · simp only [heq]
    rfl
  · simp only [heq]
    rfl

theorem run_feedData_of_not_isMarked {line : String} (h : ¬ Line.IsMarked line) (e : Engine) :
    (feedData line).run e = (feed line).run e := by
  rw [run_feedData, run_feed, Runner.feed_of_not_isMarked _ h]

/-- **Data cannot change the rules.** At every moment of every history at which only built-in functions
can be called, any lines of data leave the rules and all that belongs to them as they are, and come to
the depth at which they started; a line that is marked as a definition does nothing but get rejected,
and any other has the very effect that it would have if definitions were accepted. -/
theorem data_keeps_rules {config : Config} {ops : List Operation} {e : Engine}
    (h : Moves (history config ops) e) (hbuiltin : e.BuiltinsOnly) :
    (∀ lines, SameRules e ((feedAllData lines).run e).2 ∧
      ((feedAllData lines).run e).2.depth = e.depth) ∧
    ∀ line,
      (Line.IsMarked line → (feedData line).run e =
        ((), e.record (.lineRejected (Line.content line) (.untrusted (Line.content line))))) ∧
      (¬ Line.IsMarked line → (feedData line).run e = (feed line).run e) := by
  have hcanonical : e.Canonical := (canonical_history config ops).moves h
  refine ⟨fun lines => ?_, fun line => ?_⟩
  · have hdata : ∀ o ∈ lines.map Operation.feedData, o.isData = true := by
      intro o ho
      obtain ⟨line, -, rfl⟩ := List.mem_map.mp ho
      rfl
    have hcourse : Course .free e (e.after (lines.map .feedData)) := course_after hcanonical _
    rw [run_feedAllData]
    exact ⟨((SameRules.accord hbuiltin).after hdata ⟨rfl, .refl e⟩).2, hcourse.depth⟩
  · exact ⟨fun hmarked => run_feedData_of_isMarked hmarked e,
      fun hplain => run_feedData_of_not_isMarked hplain e⟩

/-- Lines of data set a symbol and have a rule run, but they remove no rule. -/
theorem copy_kept :
    SameRules (history .standard [.define "copy" "a"])
        ((feedAllData ["a 1", ":copy"]).run (history .standard [.define "copy" "a"])).2 ∧
      ((feedAllData ["a 1", ":copy"]).run (history .standard [.define "copy" "a"])).2.depth = 0 ∧
      (feedData ":copy").run (history .standard [.define "copy" "a"]) =
        ((), (history .standard [.define "copy" "a"]).record
          (.lineRejected ":copy" (.untrusted ":copy"))) ∧
      (feedData "a 1").run (history .standard [.define "copy" "a"]) =
        (feed "a 1").run (history .standard [.define "copy" "a"]) := by
  have hmoment : Moves (history .standard [.define "copy" "a"]) _ := .refl
  have hnew : (Engine.new .standard).BuiltinsOnly := fun _ _ => mem_functions_of_new
  have hbuiltin : (history .standard [.define "copy" "a"]).BuiltinsOnly := hnew
  obtain ⟨hlines, hline⟩ := data_keeps_rules hmoment hbuiltin
  obtain ⟨hsame, hdepth⟩ := hlines ["a 1", ":copy"]
  exact ⟨hsame, hdepth, (hline ":copy").1 (Or.inl rfl),
    (hline "a 1").2 fun hmarked => hmarked.elim nofun nofun⟩

end Cascade
