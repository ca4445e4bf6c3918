import Cascade.Proofs.Course

/-!
# Histories

A host works an engine through operations: it sets and reads symbols, feeds lines, defines, runs and
removes rules, calls and registers functions, and evaluates expressions. A history is a new engine on
which operations have been performed, one after the other. What rules and native functions do in
between belongs to the operation that brought it about.

§1 operations; §2 histories; §3 every history is a course.
-/

namespace Cascade

/-! ## §1 Operations -/

/-- **What a host can do.** -/
inductive Operation where
  | set (name : String) (v : Value)
  | read (name : String)
  | feed (line : String)
  | tryFeed (line : String)
  | feedData (line : String)
  | define (key source : String)
  | remove (key : String)
  | defineTrigger (pattern source : String)
  | run (id : RuleId)
  | call (name : String) (args : List Value)
  | evaluate (body : Expr)
  /-- Forgets what expressions by themselves have remembered. -/
  | forget
  | register (name : String) (f : Native)

/-- **What the host is told.** -/
inductive Answer where
  | done
  | symbol (v : Option Value)
  | line (r : Except DefineError Unit)
  | rule (r : Except DefineError RuleId)
  | value (r : Except EvalError Value)

namespace Operation

/-- **Performs an operation**, as the engine does it. -/
def perform : Operation → Act Answer
  | set name v => do Engine.set name v; return .done
  | read name => do
    modify (Engine.touch name)
    return .symbol ((← get).value? name)
  | feed line => do Engine.feed line; return .done
  | tryFeed line => do return .line (← Engine.tryFeed line)
  | feedData line => do Engine.feedData line; return .done
  | define key source => do return .rule (← modifyGet (Engine.define key source))
  | remove key => do return .line (← modifyGet (Engine.remove key))
  | defineTrigger pattern source => do
    return .rule (← modifyGet (Engine.defineTrigger pattern source))
  | run id => do return .value (← Engine.run id)
  | call name args => do return .value (← Engine.call name args)
  | evaluate body => do return .value (← Engine.evaluateAgain body)
  | forget => do
    modify fun e => { e with memories := e.memories.forgetQuery }
    return .done
  | register name f => do
    modify (Engine.register name f)
    return .done

/-- **Performs an operation by a given way to run rules.** -/
def under (way : Runner) : Operation → Act Answer
  | set name v => do way.set name v; return .done
  | feed line => do way.feed line; return .done
  | tryFeed line => do return .line (← way.tryFeed line)
  | feedData line => do way.feedData line; return .done
  | run id => do return .value (← way.ask id)
  | call name args => do return .value (← outcome (way.call name args))
  | evaluate body => do return .value (← outcome (way.eval .query 0 body))
  | o => o.perform

/-- An action that asks for the engine's way to run rules at once is given that of the engine. -/
theorem run_runner (x : Runner → Act α) (f : α → Answer) (e : Engine) :
    (do return f (← do x (← get).runner) : Act Answer).run e =
      (do return f (← x e.runner) : Act Answer).run e := rfl

/-- An operation without an answer does what its action does. -/
theorem run_done (x : Act Unit) (e : Engine) :
    (do x; return .done : Act Answer).run e = (.done, (x.run e).2) := rfl

/-- The engine performs an operation by its own way to run rules. -/
theorem run_perform (o : Operation) (e : Engine) : o.perform.run e = (o.under e.runner).run e := by
  cases o with
  | set name v => exact run_runner (fun way => way.set name v) (fun _ => .done) e
  | feed line => exact run_runner (fun way => way.feed line) (fun _ => .done) e
  | tryFeed line => exact run_runner (fun way => way.tryFeed line) .line e
  | feedData line => exact run_runner (fun way => way.feedData line) (fun _ => .done) e
  | run id => exact run_runner (fun way => way.ask id) .value e
  | call name args => exact run_runner (fun way => outcome (way.call name args)) .value e
  | evaluate body => exact run_runner (fun way => outcome (way.eval .query 0 body)) .value e
  | _ => rfl

/-- **An operation writes only certain symbols**, at once or through what it defines or registers. -/
def Writes (K : String → Prop) : Operation → Prop
  | set name _ => K name
  | feed line | tryFeed line | feedData line => Line.Writes K line
  | define _ source => SourceWrites K source
  | defineTrigger pattern source => PatternWrites K pattern ∧ SourceWrites K source
  | evaluate body => ∀ name ∈ body.targets, K name
  | register _ f => Native.Writes K f
  | read _ | remove _ | run _ | call _ _ | forget => True

/-- Where every symbol is allowed, there is nothing to ask of an operation. -/
theorem writes_of_all {K : String → Prop} (hall : ∀ name, K name) (o : Operation) : o.Writes K := by
  cases o with
  | set name v => exact hall name
  | feed line | tryFeed line | feedData line => exact Line.writes_of_all hall line
  | define key source => exact sourceWrites_of_all hall source
  | defineTrigger pattern source =>
    exact ⟨patternWrites_of_all hall pattern, sourceWrites_of_all hall source⟩
  | evaluate body => exact fun name _ => hall name
  | register name f => exact Native.writes_of_all hall f
  | _ => trivial

/-- **Operations compare** where all that native functions ask for does, calls and trees. -/
theorem compares {C : Comparison} {K : String → Prop} {way way' : Runner}
    (h : way.OnRequests C K way')
    (hcall : ∀ name args {e e'}, C.related e e' →
      C.holds (way.call name args).run (way'.call name args).run e e')
    (heval : ∀ body : Expr, (∀ name ∈ body.targets, K name) → ∀ {e e'}, C.related e e' →
      C.holds (way.eval .query 0 body).run (way'.eval .query 0 body).run e e')
    {o : Operation} (ho : o.Writes K) {e e' : Engine}
    (hforget : o = .forget → C.holds o.perform o.perform e e')
    (hregister : ∀ name f, o = .register name f → C.holds o.perform o.perform e e')
    (hR : C.related e e') : C.holds (o.under way) (o.under way') e e' := by
  cases o with
  | set name v => exact C.bind (h.set ho v hR) fun _ _ _ hR => C.pure _ hR
  | read name =>
    refine C.bind (h.touch hR name) fun _ _ _ hR => C.look ?_
    rw [h.value? hR]
    exact C.pure _ hR
  | feed line => exact C.bind (h.feed ho hR) fun _ _ _ hR => C.pure _ hR
  | tryFeed line => exact C.bind (h.tryFeed ho hR) fun _ _ _ hR => C.pure _ hR
  | feedData line => exact C.bind (h.feedData ho hR) fun _ _ _ hR => C.pure _ hR
  | define key source => exact C.bind (h.define hR key ho) fun _ _ _ hR => C.pure _ hR
  | remove key => exact C.bind (h.remove hR key) fun _ _ _ hR => C.pure _ hR
  | defineTrigger pattern source =>
    exact C.bind (h.defineTrigger hR ho) fun _ _ _ hR => C.pure _ hR
  | run id => exact C.bind (h.ask hR id) fun _ _ _ hR => C.pure _ hR
  | call name args => exact C.bind (hcall name args hR) fun _ _ _ hR => C.pure _ hR
  | evaluate body => exact C.bind (heval body ho hR) fun _ _ _ hR => C.pure _ hR
  | forget => exact hforget rfl
  | register name f => exact hregister name f rfl

/-- **Operations agree where ways to run rules agree on all but remembering**, if expressions by
themselves do and what these remember may be forgotten. -/
theorem concur {S : Engine → Prop} {way way' : Runner} (h : way.Concur S way') (o : Operation)
    {e : Engine}
    (heval : ∀ body {e}, S e →
      AgreeAt S (way.eval .query 0 body).run (way'.eval .query 0 body).run e)
    (hforget : o = .forget → S { e with memories := e.memories.forgetQuery })
    (hregister : ∀ name f, o = .register name f → S (e.register name f)) (hS : S e) :
    AgreeAt S (o.under way) (o.under way') e := by
  refine agreeAt_iff.mpr ?_
  refine o.compares h.onRequests ?_ ?_ (o.writes_of_all fun _ => trivial) ?_ ?_ ⟨rfl, hS⟩
  · rintro name args e _ ⟨rfl, hS⟩
    exact agreeAt_iff.mp (h.call name args hS)
  · rintro body - e _ ⟨rfl, hS⟩
    exact agreeAt_iff.mp (heval body hS)
  · rintro rfl
    exact ⟨rfl, rfl, hforget rfl⟩
  · rintro name f rfl
    exact ⟨rfl, rfl, hregister name f rfl⟩

/-- **Operations agree where ways to run rules agree.** -/
theorem agree {S : Engine → Prop} {way way' : Runner} (h : way.Agree S way') (o : Operation)
    {e : Engine} (hregister : ∀ name f, o = .register name f → S (e.register name f)) (hS : S e) :
    AgreeAt S (o.under way) (o.under way') e :=
  o.concur h.toConcur (fun body _ hS => h.eval .query 0 body hS) (fun _ => h.step hS .forget)
    hregister hS

end Operation

/-! ## §2 Histories -/

namespace Engine

/-- The engine once operations have been performed in turn. -/
def after (ops : List Operation) (e : Engine) : Engine :=
  ops.foldl (fun e o => (o.perform.run e).2) e

/-- **What has happened, the earliest first.** -/
def trace (e : Engine) : List Event := e.journal.reverse

end Engine

/-- **A history**: a new engine on which operations have been performed. -/
def history (config : Config) (ops : List Operation) : Engine := (Engine.new config).after ops

/-- What every operation keeps, a history keeps. -/
theorem Engine.after_keeps {S : Engine → Prop} {ops : List Operation}
    (hS : ∀ o ∈ ops, ∀ {e}, S e → S (o.perform.run e).2) {e : Engine} (h : S e) :
    S (e.after ops) := by
  induction ops generalizing e with
  | nil => exact h
  | cons o ops ih =>
    have hfirst : S (o.perform.run e).2 := hS o (List.mem_cons_self ..) h
    exact ih (fun o' ho' => hS o' (List.mem_cons_of_mem _ ho')) hfirst

/-! ## §3 Every history is a course -/

open Engine

/-- **An operation takes a course**, by any way to run rules that does. -/
theorem course_under {way : Runner} (hway : way.Courses) {start e : Engine}
    (hstart : start.Canonical) (h : Course .free start e) (o : Operation) :
    Course .free start ((o.under way).run e).2 :=
  (o.agree (hway.agree hstart) (fun name f _ => .register name f h) h).2

theorem course_perform {start e : Engine} (hstart : start.Canonical) (h : Course .free start e)
    (o : Operation) : Course .free start (o.perform.run e).2 := by
  rw [o.run_perform]
  exact course_under (courses_runner _) hstart h o

/-- Operations in turn take a course. -/
theorem course_after {e : Engine} (he : e.Canonical) (ops : List Operation) :
    Course .free e (e.after ops) :=
  after_keeps (S := Course .free e) (fun o _ _ h => course_perform he h o) .rest

/-- **Every history is a course from a new engine.** -/
theorem course_history (config : Config) (ops : List Operation) :
    Course .free (Engine.new config) (history config ops) :=
  course_after (canonical_new config) ops

theorem canonical_history (config : Config) (ops : List Operation) :
    (history config ops).Canonical :=
  (canonical_new config).moves (course_history config ops).moves

end Cascade
