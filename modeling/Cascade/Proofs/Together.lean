import Cascade.Proofs.Comparison

/-!
# Engines side by side

Two engines may differ and yet go the same way. Where a relation between them is kept by whatever the
parts of an action do, the whole action has the same answer on both and keeps the relation too. Taken
for the relation that an engine has with itself while a property holds, this says what an action keeps.

A tree touches an engine in few ways: it reads symbols, remembers, sets the symbols that it assigns to
and calls the functions that it names. If these go together, so does its evaluation. A built-in
function only looks and prints, so its calls go together wherever that does.

§1 going together; §2 trees; §3 quiet functions; §4 setting symbols; §5 data lines.
-/

namespace Cascade

/-! ## §1 Going together -/

/-- **Two actions go together** on two engines: they have the same answer, and come to engines that
are related again. -/
def Together (R : Engine → Engine → Prop) (x y : Act α) (e e' : Engine) : Prop :=
  (x.run e).1 = (y.run e').1 ∧ R (x.run e).2 (y.run e').2

/-- An engine beside itself, while a property holds. -/
def While (S : Engine → Prop) (e e' : Engine) : Prop := e' = e ∧ S e

namespace Together

variable {R : Engine → Engine → Prop} {e e' : Engine}

theorem pure (a : α) (h : R e e') : Together R (Pure.pure a) (Pure.pure a) e e' := ⟨rfl, h⟩

theorem bind {x y : Act α} {f g : α → Act β} (h : Together R x y e e')
    (hnext : ∀ a {e e'}, R e e' → Together R (f a) (g a) e e') :
    Together R (x >>= f) (y >>= g) e e' := by
  obtain ⟨hsame, hR⟩ := h
  have hx : (x >>= f).run e = (f (x.run e).1).run (x.run e).2 := rfl
  have hy : (y >>= g).run e' = (g (y.run e').1).run (y.run e').2 := rfl
  unfold Together
  rw [hx, hy, ← hsame]
  exact hnext _ hR

/-- An action that only changes the engines. -/
theorem changing (k : Engine → Engine) (h : R (k e) (k e')) :
    Together R (modify k) (modify k) e e' := ⟨rfl, h⟩

/-- An action within an evaluation. -/
theorem lift {x y : Act α} {f g : α → Eval β} (h : Together R x y e e')
    (hnext : ∀ a {e e'}, R e e' → Together R (f a).run (g a).run e e') :
    Together R ((liftM x : Eval α) >>= f).run ((liftM y : Eval α) >>= g).run e e' :=
  bind h hnext

/-- Looking at the engines. -/
theorem lookAct {f g : Engine → Act β} (h : Together R (f e) (g e') e e') :
    Together R (get >>= f) (get >>= g) e e' := h

theorem look {f g : Engine → Eval β} (h : Together R (f e).run (g e').run e e') :
    Together R (get >>= f).run (get >>= g).run e e' := h

theorem modify (k : Engine → Engine) {f g : Unit → Eval β}
    (h : Together R (f ()).run (g ()).run (k e) (k e')) :
    Together R (MonadState.modifyGet (fun e => ((), k e)) >>= f).run
      (MonadState.modifyGet (fun e => ((), k e)) >>= g).run e e' := h

end Together

/-- **To go together is a comparison**, for any relation of engines. -/
def Comparison.together (R : Engine → Engine → Prop) : Comparison where
  related := R
  holds := Together R
  pure a _ _ h := .pure a h
  bind h hnext := h.bind hnext
  look h := h

namespace Together

variable {R : Engine → Engine → Prop} {e e' : Engine}

/-- Actions that go together one by one go together when done in turn. -/
theorem forM {x y : α → Act PUnit} (h : ∀ a {e e'}, R e e' → Together R (x a) (y a) e e')
    (l : List α) (hR : R e e') : Together R (l.forM x) (l.forM y) e e' :=
  (Comparison.together R).forM h l hR

end Together

/-! ## §2 Trees -/

/-- **Two ways to run rules serve trees alike** on related engines: such engines show a tree the same,
and what the trees of an owner may do keeps them related, as far as they assign to and call what they
are allowed. -/
structure Runner.Alike (R : Engine → Engine → Prop) (owner : Owner)
    (maySet mayCall : String → Prop) (run run' : Runner) : Prop where
  value? : ∀ {e e'}, R e e' → ∀ name, e'.value? name = e.value? name
  truth : ∀ {e e'}, R e e' → ∀ n, e'.memories.truth ⟨owner, n⟩ = e.memories.truth ⟨owner, n⟩
  seen : ∀ {e e'}, R e e' → ∀ n, e'.memories.seen ⟨owner, n⟩ = e.memories.seen ⟨owner, n⟩
  touch : ∀ {e e'}, R e e' → ∀ name, R (e.touch name) (e'.touch name)
  branch : ∀ {e e'}, R e e' → ∀ {n b}, b ≠ e.memories.truth ⟨owner, n⟩ →
    R (e.branch ⟨owner, n⟩ b) (e'.branch ⟨owner, n⟩ b)
  act : ∀ {e e'}, R e e' → ∀ {n v}, Value.sameOption (e.memories.seen ⟨owner, n⟩) (some v) = false →
    R (e.act ⟨owner, n⟩ v) (e'.act ⟨owner, n⟩ v)
  set : ∀ {name}, maySet name → ∀ v {e e'}, R e e' →
    Together R (run.set name v) (run'.set name v) e e'
  call : ∀ {name}, mayCall name → ∀ args {e e'}, R e e' →
    Together R (run.call name args).run (run'.call name args).run e e'

namespace Runner.Alike

variable {R : Engine → Engine → Prop} {owner : Owner} {maySet mayCall : String → Prop}
  {run run' : Runner}

/-- For an engine beside itself it is enough that a property is kept. -/
theorem of_kept {S : Engine → Prop} (touch : ∀ {e}, S e → ∀ name, S (e.touch name))
    (branch : ∀ {e}, S e → ∀ {n b}, b ≠ e.memories.truth ⟨owner, n⟩ → S (e.branch ⟨owner, n⟩ b))
    (act : ∀ {e}, S e → ∀ {n v}, Value.sameOption (e.memories.seen ⟨owner, n⟩) (some v) = false →
      S (e.act ⟨owner, n⟩ v))
    (set : ∀ {name}, maySet name → ∀ v {e}, S e →
      Together (While S) (run.set name v) (run'.set name v) e e)
    (call : ∀ {name}, mayCall name → ∀ args {e}, S e →
      Together (While S) (run.call name args).run (run'.call name args).run e e) :
    run.Alike (While S) owner maySet mayCall run' where
  value? := by rintro _ e ⟨rfl, -⟩ name; rfl
  truth := by rintro _ e ⟨rfl, -⟩ n; rfl
  seen := by rintro _ e ⟨rfl, -⟩ n; rfl
  touch := by rintro _ e ⟨rfl, h⟩ name; exact ⟨rfl, touch h name⟩
  branch := by rintro _ e ⟨rfl, h⟩ n b hb; exact ⟨rfl, branch h hb⟩
  act := by rintro _ e ⟨rfl, h⟩ n v hv; exact ⟨rfl, act h hv⟩
  set := by rintro name hname v _ e ⟨rfl, h⟩; exact set hname v h
  call := by rintro name hname args _ e ⟨rfl, h⟩; exact call hname args h

/-- Serving trees alike is a comparison on trees. -/
theorem onTrees (h : run.Alike R owner maySet mayCall run') :
    run.OnTrees (.together R) owner maySet mayCall run' where
  value? := h.value?
  truth := h.truth
  seen := h.seen
  touch hR name := .changing _ (h.touch hR name)
  branch hR _ _ hb := .changing _ (h.branch hR hb)
  act hR _ _ hv := .changing _ (h.act hR hv)
  set := h.set
  call := h.call

/-- **Evaluating a tree goes together**, whatever it is part of. -/
theorem eval (h : run.Alike R owner maySet mayCall run') (n : Nat) (x : Expr)
    (hset : ∀ name ∈ x.targets, maySet name) (hcall : ∀ name ∈ x.callees, mayCall name)
    {e e' : Engine} (hR : R e e') :
    Together R (run.eval owner n x).run (run'.eval owner n x).run e e' :=
  h.onTrees.eval n x hset hcall hR

end Runner.Alike

/-! ## §3 Quiet functions -/

/-- No native function does more than look, print and remark, however often it has been called. -/
def Engine.QuietFunctions (e : Engine) : Prop :=
  ∀ {name f}, e.functions.get? name = some f → ∀ count args, (f.function count args).Quiet

/-- **Related engines hear quiet functions alike**: the functions are the same, and what they may do
keeps the engines related. -/
structure Hears (R : Engine → Engine → Prop) : Prop where
  value? : ∀ {e e'}, R e e' → ∀ name, e'.value? name = e.value? name
  functions : ∀ {e e'}, R e e' → e'.functions = e.functions
  quiet : ∀ {e e'}, R e e' → e.QuietFunctions
  remark : ∀ {e e'}, R e e' → ∀ {event}, Event.isRemark event = true →
    R (e.record event) (e'.record event)
  count : ∀ {e e'}, R e e' → ∀ {name f}, e.functions.get? name = some f →
    R (e.countCall name f) (e'.countCall name f)

namespace Hears

variable {R : Engine → Engine → Prop} {run run' : Runner} {e e' : Engine}

/-- **What a quiet function asks for goes together**, whatever calls of others would come to. -/
theorem perform (h : Hears R) {caller caller' : Caller} {call : HostCall} (hcall : call.Quiet)
    (hR : R e e') :
    Together R (run.perform caller call).run (run'.perform caller' call).run e e' := by
  induction hcall generalizing e e' with
  | answer result =>
    cases result with
    | ok v => exact .pure _ hR
    | error error => exact .pure _ hR
  | print _ ih => exact .lift ⟨rfl, h.remark hR rfl⟩ fun _ _ _ hR => ih hR
  | note _ ih => exact .lift ⟨rfl, h.remark hR rfl⟩ fun _ _ _ hR => ih hR
  | report _ ih => exact .lift ⟨rfl, h.remark hR rfl⟩ fun _ _ _ hR => ih hR
  | look _ ih =>
    refine .look ?_
    rw [Engine.bound_eq (h.value? hR)]
    exact ih e.bound hR

theorem callWith (h : Hears R) (caller caller' : Caller) (name : String) (args : List Value)
    (hR : R e e') :
    Together R (run.callWith caller name args).run (run'.callWith caller' name args).run e e' := by
  unfold Runner.callWith
  refine .look ?_
  rw [h.functions hR]
  split
  · exact .pure _ hR
  · next f hf => exact .modify _ (h.perform (h.quiet hR hf _ _) (h.count hR hf))

/-- **Calls of quiet functions go together**, whatever room there is for calls within calls. -/
theorem call (h : Hears R) (name : String) (args : List Value) (hR : R e e') :
    Together R (run.call name args).run (run'.call name args).run e e' := by
  have hcaller : ∀ (way : Runner) (room : Nat), ∃ inner, way.caller room = way.callWith inner := by
    intro way room
    cases room with
    | zero => exact ⟨_, rfl⟩
    | succ room => exact ⟨_, rfl⟩
  obtain ⟨inner, heq⟩ := hcaller run e.config.room
  obtain ⟨inner', heq'⟩ := hcaller run' e'.config.room
  unfold Runner.call
  refine .look ?_
  rw [heq, heq']
  exact h.callWith inner inner' name args hR

end Hears

/-! ## §4 Setting symbols -/

section set

variable {R : Engine → Engine → Prop}

/-- **Setting a symbol goes together** where becoming a symbol, changing and notifying do. -/
theorem Together.set {run run' : Runner}
    (value? : ∀ {e e'}, R e e' → ∀ name, e'.value? name = e.value? name)
    (touch : ∀ {e e'}, R e e' → ∀ name, R (e.touch name) (e'.touch name))
    (changed : ∀ {e e'}, R e e' → ∀ name v, R (e.changed name v) (e'.changed name v))
    (serve : ∀ {e e'}, R e e' → ∀ name {m m'}, R m m' →
      Together R ((e.symbolOf name).observers.forM run.notify)
        ((e'.symbolOf name).observers.forM run'.notify) m m')
    (name : String) (v : Value) {e e' : Engine} (h : R e e') :
    Together R (run.set name v) (run'.set name v) e e' :=
  Comparison.set (C := .together R) value? (fun hR name => .changing _ (touch hR name))
    (fun hR name v => .changing _ (changed hR name v)) serve name v h

end set

/-! ## §5 Data lines -/

/-- **Two ways to run rules take data alike** on related engines: these have the same triggers, and
setting symbols and running the rules of triggers go together. -/
structure Runner.Fed (R : Engine → Engine → Prop) (mayFire : RuleId → Prop) (run run' : Runner) :
    Prop where
  triggers : ∀ {e e'}, R e e' → e'.triggers = e.triggers
  allowed : ∀ {e e'}, R e e' → ∀ t ∈ e.triggers, mayFire t.rule
  remark : ∀ {e e'}, R e e' → ∀ {event}, Event.isRemark event = true →
    R (e.record event) (e'.record event)
  set : ∀ name v {e e'}, R e e' → Together R (run.set name v) (run'.set name v) e e'
  fire : ∀ {id}, mayFire id → ∀ {e e'}, R e e' → Together R (run.fire id) (run'.fire id) e e'

namespace Runner.Fed

variable {R : Engine → Engine → Prop} {mayFire : RuleId → Prop} {run run' : Runner}
  {e e' : Engine}

/-- Taking data alike is a comparison on data. -/
theorem onData (h : run.Fed R mayFire run') :
    run.OnData (.together R) (fun _ => True) mayFire run' where
  triggers := h.triggers
  allowed hR t ht := ⟨fun _ _ _ => trivial, h.allowed hR t ht⟩
  remark hR _ hevent := .changing _ (h.remark hR hevent)
  set _ v _ _ hR := h.set _ v hR
  fire := h.fire

/-- **Feeding a line of data goes together.** -/
theorem feedData (h : run.Fed R mayFire run') (line : String) (hR : R e e') :
    Together R (run.feedData line) (run'.feedData line) e e' :=
  h.onData.feedData (Line.writes_of_all (fun _ => trivial) line) hR

end Runner.Fed

end Cascade
