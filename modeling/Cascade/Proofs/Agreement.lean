import Cascade.Proofs.Together

/-!
# Ways to run rules that come to the same

What an engine does is written for a given way to run a rule. Where a property of engines holds all
along and two ways to run a rule agree about setting, firing and asking, everything else agrees too:
lines, native functions and expressions come to the same engine with the same answer. Taken for one
way twice, this says that everything keeps the property. To agree is to go together on one engine, so
what is known of lines and trees on two engines applies.

§1 agreement at an engine; §2 ways to run rules; §3 lines and native functions; §4 expressions; §5 from
runs to all the rest.
-/

namespace Cascade

/-! ## §1 Agreement at an engine -/

section run

variable (e : Engine)

theorem run_look (f : Engine → Eval α) : (get >>= f).run.run e = (f e).run.run e := rfl

theorem run_modify (k : Engine → Engine) (f : Unit → Eval α) :
    (modify k >>= f).run.run e = (f ()).run.run (k e) := rfl

theorem run_lift (x : Act α) (f : α → Eval β) :
    (ExceptT.lift x >>= f).run.run e = (f (x.run e).1).run.run (x.run e).2 := rfl

end run

/-- **Two actions agree at an engine**: they have the same answer and come to the same engine, where
the property holds. -/
def AgreeAt (S : Engine → Prop) (x y : Act α) (e : Engine) : Prop :=
  x.run e = y.run e ∧ S (x.run e).2

/-- To agree is to go together on an engine beside itself. -/
theorem agreeAt_iff {S : Engine → Prop} {x y : Act α} {e : Engine} :
    AgreeAt S x y e ↔ Together (While S) x y e e := by
  constructor
  · rintro ⟨hrun, hS⟩
    exact ⟨congrArg Prod.fst hrun, congrArg Prod.snd hrun.symm, hS⟩
  · rintro ⟨hanswer, hengine, hS⟩
    exact ⟨Prod.ext hanswer hengine.symm, hS⟩

namespace AgreeAt

variable {S : Engine → Prop} {e : Engine}

theorem pure (a : α) (h : S e) : AgreeAt S (Pure.pure a) (Pure.pure a) e := ⟨rfl, h⟩

theorem bind {x y : Act α} {f g : α → Act β} (h : AgreeAt S x y e)
    (hnext : ∀ a {e'}, S e' → AgreeAt S (f a) (g a) e') : AgreeAt S (x >>= f) (y >>= g) e := by
  refine agreeAt_iff.mpr (.bind (agreeAt_iff.mp h) ?_)
  rintro a e' _ ⟨rfl, hS⟩
  exact agreeAt_iff.mp (hnext a hS)

end AgreeAt

/-! ## §2 Ways to run rules -/

/-- **Two ways to run rules agree on all but remembering** wherever a property holds, which plain steps
keep. Where calls of functions by functions find no room, that is allowed by the property or functions
call no others. -/
structure Runner.Concur (S : Engine → Prop) (run run' : Runner) : Prop where
  plain : ∀ {e e'}, S e → Engine.Plain e e' → S e'
  set : ∀ name v {e}, S e → AgreeAt S (run.set name v) (run'.set name v) e
  fire : ∀ id {e}, S e → AgreeAt S (run.fire id) (run'.fire id) e
  ask : ∀ id {e}, S e → AgreeAt S (run.ask id) (run'.ask id) e
  crowd : (∀ name {e}, S e → S (e.record (.crowded name))) ∨ ∀ {e}, S e → e.CallFree

/-- **Two ways to run rules agree** wherever a property holds, which quiet steps keep, remembering
included. -/
structure Runner.Agree (S : Engine → Prop) (run run' : Runner) : Prop
    extends run.Concur S run' where
  step : ∀ {e e'}, S e → Engine.Step e e' → S e'
  plain := fun hS hplain => step hS hplain.step

namespace Runner.Concur

variable {S : Engine → Prop} {run run' : Runner} {e : Engine}

theorem plains (h : run.Concur S run') {e' : Engine} (hS : S e) (hplains : Engine.Plains e e') :
    S e' :=
  hplains.keeps h.plain hS

/-! ## §3 Lines and native functions -/

/-- Where ways to run rules agree, all that a native function asks for goes together on an engine
beside itself. -/
theorem onRequests (h : run.Concur S run') :
    run.OnRequests (.together (While S)) (fun _ => True) run' where
  triggers := by rintro e _ ⟨rfl, -⟩; rfl
  allowed _ _ _ := ⟨fun _ _ _ => trivial, trivial⟩
  remark := by
    rintro e _ ⟨rfl, hS⟩ event hevent
    exact ⟨rfl, rfl, h.plain hS (.remark hevent)⟩
  set := by
    rintro name - v e _ ⟨rfl, hS⟩
    exact agreeAt_iff.mp (h.set name v hS)
  fire := by
    rintro id - e _ ⟨rfl, hS⟩
    exact agreeAt_iff.mp (h.fire id hS)
  value? := by rintro e _ ⟨rfl, -⟩ name; rfl
  functions := by rintro e _ ⟨rfl, -⟩; rfl
  writes _ _ _ _ := Native.writes_of_all (fun _ => trivial) _
  touch := by
    rintro e _ ⟨rfl, hS⟩ name
    exact ⟨rfl, rfl, h.plain hS (.touch name)⟩
  count := by
    rintro e _ ⟨rfl, hS⟩ name f hf
    exact ⟨rfl, rfl, h.plain hS (.countCall hf)⟩
  define := by
    rintro _ e ⟨rfl, hS⟩ key source -
    exact ⟨rfl, rfl, h.plains hS (Engine.plains_define key source e)⟩
  remove := by
    rintro _ e ⟨rfl, hS⟩ key
    exact ⟨rfl, rfl, h.plains hS (Engine.plains_remove key e)⟩
  defineTrigger := by
    rintro _ e ⟨rfl, hS⟩ pattern source -
    exact ⟨rfl, rfl, h.plains hS (Engine.plains_defineTrigger pattern source e)⟩
  ask := by
    rintro e _ ⟨rfl, hS⟩ id
    exact agreeAt_iff.mp (h.ask id hS)

/-- Calls agree however deep calls of functions by functions may nest. -/
theorem caller (h : run.Concur S run') (room : Nat) (name : String) (args : List Value) (hS : S e) :
    AgreeAt S (run.caller room name args).run (run'.caller room name args).run e := by
  refine agreeAt_iff.mpr (h.onRequests.caller ?_ room name args ⟨rfl, hS⟩)
  -- a call within a call may find no room, unless there is none
  rcases h.crowd with hcrowd | hfree
  · right
    rintro name _ e ⟨rfl, hS⟩
    exact ⟨rfl, rfl, hcrowd name hS⟩
  · left
    rintro e _ ⟨rfl, hS⟩
    exact hfree hS

theorem call (h : run.Concur S run') (name : String) (args : List Value) (hS : S e) :
    AgreeAt S (run.call name args).run (run'.call name args).run e :=
  h.caller e.config.room name args hS

/-! ## §4 Expressions -/

/-- **An expression remembers under the numbers of its forms**: its evaluation agrees if the property
allows each `edge_if` of it to start a branch under the number that it is listed with, and each `at` its
action. -/
theorem eval (h : run.Concur S run') {owner : Owner} {n : Nat} {x : Expr}
    (branch : ∀ {k test onTrue onFalse e b}, (k, .edgeIf test onTrue onFalse) ∈ x.forms n → S e →
      b ≠ e.memories.truth ⟨owner, k⟩ → S (e.branch ⟨owner, k⟩ b))
    (act : ∀ {k watch action e v}, (k, .atChange watch action) ∈ x.forms n → S e →
      Value.sameOption (e.memories.seen ⟨owner, k⟩) (some v) = false → S (e.act ⟨owner, k⟩ v))
    (hS : S e) : AgreeAt S (run.eval owner n x).run (run'.eval owner n x).run e := by
  have honForms : run.OnForms (.together (While S)) owner (fun _ => True) (fun _ => True)
      (x.forms n) run' := by
    refine ⟨⟨h.onRequests.value?, h.onRequests.touch, h.onRequests.set, ?_⟩, fun hform => ?_,
      fun hform => ?_⟩
    · rintro name - args e _ ⟨rfl, hS⟩
      exact agreeAt_iff.mp (h.call name args hS)
    · refine Comparison.edgeIf _ ?_ ?_
      · rintro e _ ⟨rfl, -⟩
        rfl
      · rintro e _ ⟨rfl, hS⟩ b hb
        exact ⟨rfl, rfl, branch hform hS hb⟩
    · refine Comparison.atChange _ ?_ ?_
      · rintro e _ ⟨rfl, -⟩
        rfl
      · rintro e _ ⟨rfl, hS⟩ v hv
        exact ⟨rfl, rfl, act hform hS hv⟩
  refine agreeAt_iff.mpr ?_
  exact honForms.eval n x (List.Subset.refl _) (fun _ _ => trivial) (fun _ _ => trivial) ⟨rfl, hS⟩

/-! ## §5 From runs to all the rest -/

/-- **Where runs agree, everything agrees but remembering**: the property has to be kept by plain
steps, by changes and by reports. -/
theorem of_runs (hplain : ∀ {e e'}, S e → Engine.Plain e e' → S e')
    (hchange : ∀ name v {e}, S e → S (e.changed name v))
    (hreport : ∀ {event e}, Event.isReport event = true → S e → S (e.record event))
    (hcrowd : (∀ name {e}, S e → S (e.record (.crowded name))) ∨ ∀ {e}, S e → e.CallFree)
    (hrun : ∀ id {e}, S e → AgreeAt S (run id).run (run' id).run e) : run.Concur S run' := by
  have hnotify : ∀ id {e}, S e → AgreeAt S (run.notify id) (run'.notify id) e := by
    intro id e hS
    refine .bind (hrun id hS) fun r e' hS => ?_
    cases r with
    | ok v => exact .pure _ hS
    | error error => exact ⟨rfl, hreport rfl hS⟩
  refine ⟨hplain, fun name v e hS => agreeAt_iff.mpr ?_, fun id e hS => ?_, fun id e hS => ?_, hcrowd⟩
  · refine Together.set ?_ ?_ ?_ ?_ name v ⟨rfl, hS⟩
    · rintro e _ ⟨rfl, -⟩ name
      rfl
    · rintro e _ ⟨rfl, hS⟩ name
      exact ⟨rfl, hplain hS (.touch name)⟩
    · rintro e _ ⟨rfl, hS⟩ name v
      exact ⟨rfl, hchange name v hS⟩
    · rintro e _ ⟨rfl, -⟩ name m m' hm
      refine Together.forM (fun id => ?_) _ hm
      rintro m _ ⟨rfl, hS⟩
      exact agreeAt_iff.mp (hnotify id hS)
  · exact .bind ⟨rfl, hreport rfl hS⟩ fun _ _ hS => hnotify id hS
  · exact .bind ⟨rfl, hreport rfl hS⟩ fun _ _ hS => hrun id hS

end Runner.Concur

namespace Runner.Agree

variable {S : Engine → Prop} {run run' : Runner} {e : Engine}

/-- **Evaluating an expression agrees**, whatever it is part of. -/
theorem eval (h : run.Agree S run') (owner : Owner) (n : Nat) (x : Expr) (hS : S e) :
    AgreeAt S (run.eval owner n x).run (run'.eval owner n x).run e :=
  h.toConcur.eval (fun _ hS hb => h.step hS (.branch hb)) (fun _ hS hv => h.step hS (.act hv)) hS

/-- **Where runs agree, everything agrees**: the property has to be kept by quiet steps, by changes
and by reports. -/
theorem of_runs (hstep : ∀ {e e'}, S e → Engine.Step e e' → S e')
    (hchange : ∀ name v {e}, S e → S (e.changed name v))
    (hreport : ∀ {event e}, Event.isReport event = true → S e → S (e.record event))
    (hcrowd : (∀ name {e}, S e → S (e.record (.crowded name))) ∨ ∀ {e}, S e → e.CallFree)
    (hrun : ∀ id {e}, S e → AgreeAt S (run id).run (run' id).run e) : run.Agree S run' where
  toConcur := .of_runs (fun hS hplain => hstep hS hplain.step) hchange hreport hcrowd hrun
  step := hstep

end Runner.Agree

end Cascade
