import Cascade.Proofs.History

/-!
# How deep runs nest

Where the settings limit the depth, a run begins only while fewer runs than the limit are nested, and
the depth is the number of runs that have begun and are not over. So the levels of nesting that the
engine provides are never used up, and more of them make no difference: every cascade ends by itself,
at the depth at which it started, though symbols may go on oscillating for as long as they are let.

§1 counting runs; §2 the depth at every moment; §3 quiet steps leave functions as they are; §4 enough
levels; §5 every operation ends.
-/

namespace Cascade

/-! ## §1 Counting runs -/

namespace Event

/-- Does a run begin? -/
def isBeginning : Event → Bool
  | .began _ => true
  | _ => false

/-- Is a run over? -/
def isEnd : Event → Bool
  | .ended _ => true
  | _ => false

/-- Was there no room for a run, or none for a call where that may not be either? -/
def isShortage (mayCrowd : Bool) : Event → Bool
  | .exhausted _ => true
  | .crowded _ => !mayCrowd
  | _ => false

/-- Only moves that begin or end a run say so. -/
theorem not_turn {event : Event}
    (h : event.isQuiet = true ∨ event.isReport = true ∨ event.isHitch = true) :
    event.isBeginning = false ∧ event.isEnd = false := by
  cases event with
  | began => rcases h with h | h | h <;> cases h
  | ended => rcases h with h | h | h <;> cases h
  | _ => exact ⟨rfl, rfl⟩

theorem isShortage_eq_false {event : Event} (h : event.isQuiet = true ∨ event.isReport = true)
    (mayCrowd : Bool) : event.isShortage mayCrowd = false := by
  cases event with
  | exhausted => rcases h with h | h <;> cases h
  | crowded => rcases h with h | h <;> cases h
  | _ => rfl

end Event

/-- How many runs have begun. -/
def beginnings (journal : List Event) : Nat := journal.countP Event.isBeginning

/-- How many runs are over. -/
def ends (journal : List Event) : Nat := journal.countP Event.isEnd

namespace Engine

/-! ## §2 The depth at every moment -/

/-- **The depth counts the runs that are not over**, and has never been beyond a limit. -/
structure Counted (n : Nat) (e : Engine) : Prop where
  limit : e.config.maxDepth = some n
  depth_le : e.depth ≤ n
  counted : e.depth + ends e.journal = beginnings e.journal
  bounded : ∀ journal, journal <:+ e.journal → beginnings journal ≤ ends journal + n

variable {n : Nat} {e e' : Engine}

/-- The journal with one more event is bounded if it is bounded as a whole. -/
theorem Counted.of_journal (h : e.Counted n) {event : Event} (hconfig : e'.config = e.config)
    (hjournal : e'.journal = event :: e.journal) (hdepth : e'.depth ≤ n)
    (hcounted : e'.depth + ends e'.journal = beginnings e'.journal) : e'.Counted n := by
  refine ⟨hconfig ▸ h.limit, hdepth, hcounted, fun journal hsuffix => ?_⟩
  rw [hjournal, List.suffix_cons_iff] at hsuffix
  -- any shorter journal was bounded before
  rcases hsuffix with rfl | hsuffix
  · rw [← hjournal]
    omega
  · exact h.bounded journal hsuffix

theorem Counted.of_same (h : e.Counted n) (hconfig : e'.config = e.config)
    (hjournal : e'.journal = e.journal) (hdepth : e'.depth = e.depth) : e'.Counted n := by
  refine ⟨hconfig ▸ h.limit, hdepth ▸ h.depth_le, ?_, ?_⟩
  · rw [hjournal, hdepth]
    exact h.counted
  · rw [hjournal]
    exact h.bounded

/-- An event that is neither the beginning nor the end of a run changes no count. -/
theorem Counted.of_other (h : e.Counted n) {event : Event} (hconfig : e'.config = e.config)
    (hjournal : e'.journal = event :: e.journal) (hdepth : e'.depth = e.depth)
    (hturn : event.isBeginning = false ∧ event.isEnd = false) : e'.Counted n := by
  obtain ⟨hbegin, hend⟩ := hturn
  refine h.of_journal hconfig hjournal (hdepth ▸ h.depth_le) ?_
  have hcounted := h.counted
  simp only [hjournal, hdepth, beginnings, ends, List.countP_cons, hbegin, hend] at hcounted ⊢
  simpa using hcounted

theorem limitReached?_eq_none (hlimit : e.config.maxDepth = some n) :
    e.limitReached? = none ↔ e.depth < n := by
  rw [limitReached?, hlimit]
  simp [Option.filter_some]

/-- **Every move keeps the count.** -/
theorem Counted.move (h : e.Counted n) (hmove : Move e e') : e'.Counted n := by
  cases hmove with
  | step hstep =>
    rcases hstep.journal with hsame | ⟨event, hquiet, hother⟩
    · exact h.of_same hstep.config hsame hstep.depth
    · exact h.of_other hstep.config hother hstep.depth (Event.not_turn (.inl hquiet))
  | register => exact h.of_same rfl rfl rfl
  | change => exact h.of_other rfl rfl rfl ⟨rfl, rfl⟩
  | report hreport => exact h.of_other rfl rfl rfl (Event.not_turn (.inr (.inl hreport)))
  | hitch hhitch => exact h.of_other rfl rfl rfl (Event.not_turn (.inr (.inr hhitch)))
  | @enter id _ _ hlimit =>
    -- the limit is asked before a run begins
    have hroom : e.depth < n := (limitReached?_eq_none h.limit).mp hlimit
    have hcounted := h.counted
    refine h.of_journal rfl rfl hroom ?_
    show e.depth + 1 + ends (.began id :: e.journal) = beginnings (.began id :: e.journal)
    simp only [ends, beginnings, List.countP_cons, Event.isBeginning, Event.isEnd] at hcounted ⊢
    simp
    omega
  | leave id hdepth =>
    have hcounted := h.counted
    have hle := h.depth_le
    refine h.of_journal rfl rfl (show e.depth - 1 ≤ n by omega) ?_
    show e.depth - 1 + ends (.ended id :: e.journal) = beginnings (.ended id :: e.journal)
    simp only [ends, beginnings, List.countP_cons, Event.isBeginning, Event.isEnd] at hcounted ⊢
    simp
    omega
  | keepResult => exact h.of_same rfl rfl rfl

theorem Counted.moves (h : e.Counted n) (hmoves : Moves e e') : e'.Counted n :=
  hmoves.keeps (fun h hmove => h.move hmove) h

theorem counted_new {config : Config} (hlimit : config.maxDepth = some n) :
    (Engine.new config).Counted n := by
  rw [new_eq]
  refine ⟨hlimit, Nat.zero_le n, rfl, fun journal hsuffix => ?_⟩
  rw [List.suffix_nil.mp hsuffix]
  exact Nat.zero_le _

/-! ## §3 Functions -/

/-- A quiet step leaves functions as they are but for their counts. -/
theorem Step.function (h : Step e e') {name f}
    (hf : e'.functions.get? name = some f) :
    ∃ f', e.functions.get? name = some f' ∧ f'.function = f.function := by
  have hsame : e'.functions = e.functions → ∃ f', e.functions.get? name = some f' ∧
      f'.function = f.function := fun heq => ⟨f, heq ▸ hf, rfl⟩
  cases h with
  -- a count changes, the function does not
  | @countCall other g hg =>
    have hget := Table.get?_insert e.functions other name { g with calls := g.calls + 1 }
    rw [show (e.countCall other g).functions = e.functions.insert other _ from rfl, hget] at hf
    split at hf
    · next heq =>
      cases hf
      exact ⟨g, heq ▸ hg, rfl⟩
    · exact ⟨f, hf, rfl⟩
  | install => exact hsame (install_functions _ e)
  | uninstall => exact hsame (uninstall_functions _ _ e)
  | _ => exact hsame rfl

/-- **The functions that are there from the start call no others.** -/
theorem callFree_new (config : Config) : (Engine.new config).CallFree := by
  intro name f hf count args
  exact HostCall.callFree_of_quiet (Builtin.quiet_functions (mem_functions_of_new hf) count args)

theorem CallFree.step (h : e.CallFree) (hstep : Step e e') : e'.CallFree := by
  intro name f hf
  obtain ⟨f', hf', heq⟩ := hstep.function hf
  rw [← heq]
  exact h name f' hf'

/-! ## §4 Enough levels -/

/-- **At a depth under a limit**, with no shortage since the journal was as given. Calls of functions
by functions may find no room, or else functions call no others. -/
structure Roomy (mayCrowd : Bool) (n depth : Nat) (start : List Event) (e : Engine) : Prop where
  limit : e.config.maxDepth = some n
  depth_eq : e.depth = depth
  calls : mayCrowd = true ∨ e.CallFree
  journal : ∃ new, e.journal = new ++ start ∧ ∀ event ∈ new, event.isShortage mayCrowd = false

namespace Roomy

variable {mayCrowd : Bool} {depth : Nat} {start : List Event}

theorem here (hlimit : e.config.maxDepth = some n) (hcalls : mayCrowd = true ∨ e.CallFree) :
    e.Roomy mayCrowd n e.depth e.journal :=
  ⟨hlimit, rfl, hcalls, [], rfl, nofun⟩

/-- One more event, if it is no shortage, and another depth perhaps. -/
theorem of_journal (h : e.Roomy mayCrowd n depth start) {depth' : Nat} {event : Event}
    (hconfig : e'.config = e.config) (hdepth : e'.depth = depth')
    (hcalls : e.CallFree → e'.CallFree) (hjournal : e'.journal = event :: e.journal)
    (hevent : event.isShortage mayCrowd = false) : e'.Roomy mayCrowd n depth' start := by
  obtain ⟨new, hnew, hno⟩ := h.journal
  refine ⟨hconfig ▸ h.limit, hdepth, h.calls.imp_right hcalls, event :: new, ?_, ?_⟩
  · rw [hjournal, hnew, List.cons_append]
  · intro other hother
    rcases List.mem_cons.mp hother with rfl | hother
    · exact hevent
    · exact hno other hother

theorem step (h : e.Roomy mayCrowd n depth start) (hstep : Step e e') :
    e'.Roomy mayCrowd n depth start := by
  have hdepth : e'.depth = depth := hstep.depth.trans h.depth_eq
  have hcalls : e.CallFree → e'.CallFree := fun hfree => hfree.step hstep
  rcases hstep.journal with hsame | ⟨event, hquiet, hother⟩
  · exact ⟨hstep.config ▸ h.limit, hdepth, h.calls.imp_right hcalls, hsame ▸ h.journal⟩
  · exact h.of_journal hstep.config hdepth hcalls hother (Event.isShortage_eq_false (.inl hquiet) _)

theorem keep (h : e.Roomy mayCrowd n depth start) (id : RuleId) (r : Except EvalError Value) :
    (e.keep id r).Roomy mayCrowd n depth start := by
  cases r with
  | ok v => exact ⟨h.limit, h.depth_eq, h.calls, h.journal⟩
  | error error => exact h

end Roomy

end Engine

open Engine

section

variable {mayCrowd : Bool} {n depth : Nat} {start : List Event} {e : Engine}

/-- Runs of a rule agree if the evaluations of its tree do, one level deeper and under the limit. -/
theorem agreeAt_runRule {body body' : RuleId → Expr → Eval Value} {id : RuleId}
    (hS : e.Roomy mayCrowd n depth start)
    (hbody : depth < n → ∀ tree {e : Engine}, e.Roomy mayCrowd n (depth + 1) start →
      AgreeAt (Roomy mayCrowd n (depth + 1) start) (body id tree).run (body' id tree).run e) :
    AgreeAt (Roomy mayCrowd n depth start) (runRule body id).run (runRule body' id).run e := by
  unfold AgreeAt
  cases h : e.rules.get? id with
  | none =>
    rw [runRule_gone h, runRule_gone h]
    exact ⟨rfl, hS⟩
  | some rule =>
    cases hlimit : e.limitReached? with
    | some limit =>
      rw [runRule_refused h hlimit, runRule_refused h hlimit]
      exact ⟨rfl, hS.of_journal rfl hS.depth_eq (fun h => h) rfl rfl⟩
    | none =>
      have hroom : depth < n := by
        rw [← hS.depth_eq]
        exact (limitReached?_eq_none hS.limit).mp hlimit
      have henter : (e.enter id).Roomy mayCrowd n (depth + 1) start :=
        hS.of_journal rfl (congrArg (· + 1) hS.depth_eq) (fun h => h) rfl rfl
      obtain ⟨hrun, hafter⟩ := hbody hroom rule.body henter
      have hleave :
          (((body id rule.body).run.run (e.enter id)).2.leave id).Roomy mayCrowd n depth start :=
        hafter.of_journal rfl (congrArg (· - 1) hafter.depth_eq) (fun h => h) rfl rfl
      rw [runRule_ran h hlimit rfl, runRule_ran h hlimit hrun.symm]
      exact ⟨rfl, hleave.keep id _⟩

/-- Where runs agree at a depth, so does everything else there. -/
theorem agree_of_runs {run run' : Runner}
    (hrun : ∀ id {e : Engine}, e.Roomy mayCrowd n depth start →
      AgreeAt (Roomy mayCrowd n depth start) (run id).run (run' id).run e) :
    run.Agree (Roomy mayCrowd n depth start) run' := by
  have hcrowd : (∀ name {e : Engine}, e.Roomy mayCrowd n depth start →
      (e.record (.crowded name)).Roomy mayCrowd n depth start) ∨
      ∀ {e : Engine}, e.Roomy mayCrowd n depth start → e.CallFree := by
    cases mayCrowd with
    | true => exact .inl fun name _ hS => hS.of_journal rfl hS.depth_eq (fun h => h) rfl rfl
    | false => exact .inr fun hS => hS.calls.resolve_left Bool.false_ne_true
  refine .of_runs (fun hS hstep => hS.step hstep) (fun name v _ hS => ?_) (fun hreport hS => ?_)
    hcrowd hrun
  · exact hS.of_journal rfl hS.depth_eq (fun h => h) rfl rfl
  · exact hS.of_journal rfl hS.depth_eq (fun h => h) rfl (Event.isShortage_eq_false (.inr hreport) _)

/-- **With enough levels their number is immaterial**: under a limit runs come to the same, at the
same depth and without any shortage. -/
theorem agreeAt_runner (levels : Nat) {levels' depth : Nat} (h : n ≤ depth + levels)
    (h' : n ≤ depth + levels') (id : RuleId) {e : Engine} (hS : e.Roomy mayCrowd n depth start) :
    AgreeAt (Roomy mayCrowd n depth start) (runner levels id).run (runner levels' id).run e := by
  -- a tree is evaluated one level deeper with one level less, so their sum stays enough
  induction levels generalizing levels' depth id e with
  | zero =>
    -- the limit has been reached, so no tree is evaluated
    cases levels' with
    | zero => exact agreeAt_runRule hS fun hroom => by omega
    | succ levels' => exact agreeAt_runRule hS fun hroom => by omega
  | succ levels ih =>
    cases levels' with
    | zero => exact agreeAt_runRule hS fun hroom => by omega
    | succ levels' =>
      have hdeeper : (runner levels).Agree (Roomy mayCrowd n (depth + 1) start) (runner levels') :=
        agree_of_runs fun id _ hS => ih (by omega) (by omega) id hS
      exact agreeAt_runRule hS fun _ tree _ hS => hdeeper.eval (.rule id) 0 tree hS

/-- **Where the levels reach the limit, everything agrees.** -/
theorem agree_runner {levels levels' : Nat} (h : n ≤ depth + levels) (h' : n ≤ depth + levels') :
    (runner levels).Agree (Roomy mayCrowd n depth start) (runner levels') :=
  agree_of_runs fun id _ hS => agreeAt_runner levels h h' id hS

end

/-- **Under a limit no run is ever without room**, whatever functions there are. -/
theorem not_exhausted {config : Config} {n : Nat} (hlimit : config.maxDepth = some n)
    (ops : List Operation) (id : RuleId) : .exhausted id ∉ (history config ops).journal := by
  have hkept : ∀ o ∈ ops, ∀ {e : Engine}, e.Roomy true n 0 [] →
      (o.perform.run e).2.Roomy true n 0 [] := by
    intro o _ e hS
    have hlevels : n ≤ 0 + e.config.depths := by
      rw [Config.depths, hS.limit]
      exact Nat.le_of_eq (Nat.zero_add n).symm
    rw [o.run_perform]
    refine (o.agree (agree_runner hlevels hlevels) (fun name f _ => ?_) hS).2
    exact ⟨hS.limit, hS.depth_eq, .inl rfl, hS.journal⟩
  have hnew : (Engine.new config).Roomy true n 0 [] := by
    rw [new_eq]
    exact ⟨hlimit, rfl, .inl rfl, [], rfl, nofun⟩
  obtain ⟨new, hjournal, hno⟩ := (after_keeps hkept hnew).journal
  intro hmem
  rw [history, hjournal, List.append_nil] at hmem
  cases hno _ hmem

/-! ## §5 Every operation ends -/

/-- **Every operation under a limit ends by itself.** At every moment of a history in which the limit
is `n`, of which the functions at hand call no others, whatever is going on:
an operation leaves the depth as it was, on whatever way it ends; at no moment before or in its course
have more than `n` runs begun that are not over; and the levels of nesting that the engine has for it
are never used up: it meets no shortage, and is the same with any number of levels that reaches the
limit. -/
theorem operations_end {config : Config} {n : Nat} (hlimit : config.maxDepth = some n)
    {ops : List Operation} {e : Engine} (hmoves : Moves (history config ops) e)
    (hfree : e.CallFree) (o : Operation) :
    (o.perform.run e).2.depth = e.depth ∧ e.depth ≤ n ∧
      (∀ journal, journal <:+ (o.perform.run e).2.journal →
        beginnings journal ≤ ends journal + n) ∧
      (∃ new, (o.perform.run e).2.journal = new ++ e.journal ∧
        ∀ event ∈ new, (∀ id, event ≠ .exhausted id) ∧ ∀ name, event ≠ .crowded name) ∧
      ∀ levels, n ≤ e.depth + levels → (o.under (runner levels)).run e = o.perform.run e := by
  have hcourse := course_history config ops
  have hstart : Moves (Engine.new config) e := hcourse.moves.trans hmoves
  have hcanonical : e.Canonical := (canonical_new config).moves hstart
  have hperform : Course .free e (o.perform.run e).2 := course_perform hcanonical .rest o
  have hcounted : e.Counted n := (counted_new hlimit).moves hstart
  have hafter := hcounted.moves hperform.moves
  have hlevels : e.config.depths = n := by
    rw [Config.depths, hcounted.limit]
    rfl
  refine ⟨hperform.depth, hcounted.depth_le, hafter.bounded, ?_⟩
  by_cases hregister : ∃ name f, o = .register name f
  · -- the new function may call others, but nothing is called now
    obtain ⟨name, f, rfl⟩ := hregister
    exact ⟨⟨[], rfl, nofun⟩, fun levels _ => rfl⟩
  · have hS : e.Roomy false n e.depth e.journal := .here hcounted.limit (.inr hfree)
    have hagree : ∀ levels, n ≤ e.depth + levels →
        AgreeAt (Roomy false n e.depth e.journal) (o.under (runner levels)) (o.under e.runner) e := by
      intro levels hlevel
      refine o.agree (agree_runner hlevel (by omega)) (fun name f ho => ?_) hS
      exact absurd ⟨name, f, ho⟩ hregister
    rw [o.run_perform]
    refine ⟨?_, fun levels hlevel => (hagree levels hlevel).1⟩
    obtain ⟨new, hnew, hno⟩ := (hagree e.config.depths (by omega)).2.journal
    refine ⟨new, hnew, fun event hevent => ?_⟩
    have hshort := hno event hevent
    constructor
    · rintro id rfl
      cases hshort
    · rintro name rfl
      cases hshort

/-- A rule that negates the symbol it reads goes on up to the limit, and then all is over. -/
theorem negation_ends :
    ((Operation.set "a" (.int 1)).perform.run
        (history ⟨some 3, true, 0⟩ [.define "flip" "a = -a"])).2.depth = 0 ∧
      ∀ levels, 3 ≤ 0 + levels →
        ((Operation.set "a" (.int 1)).under (runner levels)).run
            (history ⟨some 3, true, 0⟩ [.define "flip" "a = -a"]) =
          (Operation.set "a" (.int 1)).perform.run
            (history ⟨some 3, true, 0⟩ [.define "flip" "a = -a"]) := by
  have hfree : (history ⟨some 3, true, 0⟩ [.define "flip" "a = -a"]).CallFree :=
    callFree_new ⟨some 3, true, 0⟩
  obtain ⟨hdepth, -, -, -, hlevels⟩ := operations_end rfl .refl hfree (.set "a" (.int 1))
  exact ⟨hdepth, hlevels⟩

end Cascade
