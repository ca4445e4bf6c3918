import Cascade.Proofs.Containment
import Cascade.Proofs.Transparency
import Mathlib.Data.List.Perm.Subperm

/-!
# Rules without a cycle need no limit

Where no rule feeds itself, directly or by way of others, the rules that are running at any moment are
all different, since each was started by the one below. So there are never more of them than there are
registered rules, one more perhaps at the bottom if a trigger has started it: a cascade ends by itself,
with no limit to stop it, and a limit as high as that refuses nothing.

§1 the stack is a path; §2 cascades that end within a bound; §3 rules without a cycle.
-/

namespace Cascade

namespace Engine

/-! ## §1 The stack is a path -/

/-- **No rule feeds itself**, directly or by way of others. -/
def Acyclic (e : Engine) : Prop := ∀ id, ¬ Relation.TransGen e.Feeds id id

/-- **The running rules are a path of registered rules**, on top of one at most that was started from
outside. -/
theorem Chained.path {e : Engine} {o : Origin} {stack : List RuleId} (h : e.Chained o stack) :
    ∃ path bottom, stack = path ++ bottom ∧ bottom.length ≤ 1 ∧ (∀ id ∈ bottom, o.starts id) ∧
      (∀ id ∈ path, ∃ r, e.Registered id r) ∧
      path.Pairwise fun q p => Relation.TransGen e.Feeds p q := by
  induction h with
  | nil => exact ⟨[], [], rfl, Nat.zero_le 1, nofun, nofun, .nil⟩
  | @cons id stack hstart _ ih =>
    obtain ⟨path, bottom, rfl, hbottom, hstarts, hregistered, hpath⟩ := ih
    rcases hstart with ⟨name, hset, hid⟩ | ⟨hempty, hid⟩
    · refine ⟨id :: path, bottom, rfl, hbottom, hstarts, ?_, ?_⟩
      · intro other hother
        rcases List.mem_cons.mp hother with rfl | hother
        · exact registered_of_mem_notified hid
        · exact hregistered other hother
      · refine List.pairwise_cons.mpr ⟨?_, hpath⟩
        cases path with
        | nil => nofun
        | cons top path =>
          -- the innermost rule feeds the new one, and all the others feed the innermost
          have hfeeds : e.Feeds top id :=
            feeds_of_maySet (hregistered top (List.mem_cons_self ..)) hset hid
          intro p hp
          rcases List.mem_cons.mp hp with rfl | hp
          · exact .single hfeeds
          · exact .tail ((List.pairwise_cons.mp hpath).1 p hp) hfeeds
    · obtain ⟨rfl, rfl⟩ := List.append_eq_nil_iff.mp hempty
      refine ⟨[], [id], rfl, Nat.le_refl 1, ?_, nofun, .nil⟩
      intro other hother
      rw [List.mem_singleton.mp hother]
      exact hid

/-- Different registered rules are no more than there are keys. -/
theorem length_le_keys {e : Engine} {ids : List RuleId} (hnodup : ids.Nodup)
    (hregistered : ∀ id ∈ ids, ∃ r, e.Registered id r) : ids.length ≤ e.keys.length := by
  have hsubset : ids ⊆ e.registry.entries.map Prod.snd := by
    intro id hid
    obtain ⟨_, key, hkey, -⟩ := hregistered id hid
    exact List.mem_map.mpr ⟨(key, id), Table.mem_entries_iff.mpr hkey, rfl⟩
  have hlength := (hnodup.subperm hsubset).length_le
  rw [List.length_map] at hlength
  rw [keys, Table.names, List.length_map]
  exact hlength

/-- **Without a cycle no more rules run than there are**, and those that may be started from outside. -/
theorem Chained.length_le {e : Engine} {o : Origin} {stack : List RuleId} {extra : Nat}
    (hacyclic : e.Acyclic) (hextra : ∀ id, o.starts id → 1 ≤ extra) (h : e.Chained o stack) :
    stack.length ≤ e.keys.length + extra := by
  obtain ⟨path, bottom, rfl, hbottom, hstarts, hregistered, hpath⟩ := h.path
  have hnodup : path.Nodup := by
    refine hpath.imp fun {q p} hfeeds heq => ?_
    rw [heq] at hfeeds
    exact hacyclic p hfeeds
  have hpathlength : path.length ≤ e.keys.length := length_le_keys hnodup hregistered
  have hbottomlength : bottom.length ≤ extra := by
    cases bottom with
    | nil => exact Nat.zero_le extra
    | cons id rest =>
      have hone := hextra id (hstarts id (List.mem_cons_self ..))
      omega
  rw [List.length_append]
  omega

/-! ## §2 Cascades that end within a bound -/

/-- **An operation ends within a bound** on the nesting of runs: it is the same with any number of
levels that reaches the bound, and the engine's own if its settings allow as many; at no moment are
more rules running; and neither those levels nor a limit that leaves as much is ever used up. -/
structure EndsWithin (bound : Nat) (o : Operation) (e : Engine) : Prop where
  same : ∀ {levels levels'}, bound ≤ levels → bound ≤ levels' →
    (o.under (Cascade.runner levels)).run e = (o.under (Cascade.runner levels')).run e
  own : bound ≤ e.config.depths → ∀ {levels}, bound ≤ levels →
    o.perform.run e = (o.under (Cascade.runner levels)).run e
  nesting : ∀ levels, ∃ new,
    ((o.under (Cascade.runner levels)).run e).2.journal = new ++ e.journal ∧
    (∀ before, before <:+ new → (running before).length ≤ bound) ∧
    (bound ≤ levels → ∀ id, .exhausted id ∉ new) ∧
    ∀ n, e.config.maxDepth = some n → e.depth + bound ≤ n → ∀ id, .refused id ∉ new

/-- The settings that an engine has make no difference to it. -/
theorem withConfig_self {c : Config} {e : Engine} (h : e.config = c) : e.withConfig c = e := by
  subst h
  rfl

/-- **Where the stack is bounded, a cascade ends**: what is traced with any number of levels is the
same with all that reach the bound. -/
theorem EndsWithin.of_traced {e : Engine} {bound : Nat} {o : Operation} {sets : String → Prop}
    {starts : RuleId → Prop}
    (htraced : ∀ levels,
      Traced e ⟨sets, starts, levels⟩ [] ((o.under (Cascade.runner levels)).run e).2)
    (hbound : ∀ levels {stack}, e.Chained ⟨sets, starts, levels⟩ stack → stack.length ≤ bound) :
    e.EndsWithin bound o := by
  have hnesting : ∀ levels, ∃ new,
      ((o.under (Cascade.runner levels)).run e).2.journal = new ++ e.journal ∧
      (∀ before, before <:+ new → (running before).length ≤ bound) ∧
      (bound ≤ levels → ∀ id, .exhausted id ∉ new) ∧
      ∀ n, e.config.maxDepth = some n → e.depth + bound ≤ n → ∀ id, .refused id ∉ new := by
    intro levels
    obtain ⟨new, hnew, -, hjustified, -⟩ := (htraced levels).told
    refine ⟨new, hnew, fun before hbefore => ?_, fun hlevels id hmem => ?_,
      fun n hn hle id hmem => ?_⟩
    · exact hbound levels (hjustified.of_suffix hbefore).chained
    · obtain ⟨before, hsuffix, -, hout⟩ := hjustified.due hmem
      have hrunning := hbound levels
        (hjustified.of_suffix ((List.suffix_cons _ _).trans hsuffix)).chained
      have hmore : levels < (running before).length := hout
      omega
    · -- the rule that is refused would have made the stack longer than it can be
      obtain ⟨before, hsuffix, hstart, m, hm, hdepth⟩ := hjustified.due hmem
      have hchained := (hjustified.of_suffix ((List.suffix_cons _ _).trans hsuffix)).chained
      have hrunning := hbound levels (.cons hstart hchained)
      rw [hn] at hm
      cases hm
      rw [List.length_cons] at hrunning
      omega
  have hsame : ∀ {levels}, bound ≤ levels →
      (o.under (Cascade.runner levels)).run e = (o.under (Cascade.runner bound)).run e := by
    intro levels hle
    have hruns := follows_runner (Config.within_refl e.config) hle
    have hfollows := o.follows hruns (Nat.le_refl _) ⟨rfl, (withConfig_self rfl).symm⟩
    obtain ⟨new, hnew, -, hroom, -⟩ := hnesting bound
    have hunbarred : Unbarred e.config e.config e.journal
        ((o.under (Cascade.runner bound)).run e).2.journal := by
      refine ⟨new, hnew, fun event hevent => ?_⟩
      cases event with
      | exhausted id => exact absurd hevent (hroom (Nat.le_refl bound) id)
      | refused id => simp [Event.isBar]
      | crowded name => simp [Event.isBar]
      | _ => rfl
    rw [hfollows.same hunbarred, withConfig_self hfollows.config]
    rfl
  refine ⟨fun hlevels hlevels' => ?_, fun hdepths levels hlevels => ?_, hnesting⟩
  · rw [hsame hlevels, hsame hlevels']
  · rw [o.run_perform, runner, hsame hdepths, hsame hlevels]

/-- What two operations have in common under every way to run rules. -/
theorem EndsWithin.congr {e : Engine} {bound : Nat} {o o' : Operation}
    (h : e.EndsWithin bound o)
    (hsame : ∀ way : Runner, (o'.under way).run e = (o.under way).run e) :
    e.EndsWithin bound o' := by
  refine ⟨fun hlevels hlevels' => ?_, fun hdepths levels hlevels => ?_, fun levels => ?_⟩
  · rw [hsame, hsame]
    exact h.same hlevels hlevels'
  · rw [o'.run_perform, hsame, hsame, ← o.run_perform]
    exact h.own hdepths hlevels
  · rw [hsame]
    exact h.nesting levels

end Engine

open Engine

/-! ## §3 Rules without a cycle -/

/-- **Acyclic rules need no limit.** At every moment of every history at which only built-in functions
can be called and no rule feeds itself, directly or by way of others, setting a symbol ends within as
many nested runs as there are registered rules, and feeding a line of data within one more at most, and
that only if it hits a trigger. -/
theorem acyclic_ends {config : Config} {ops : List Operation} {e : Engine}
    (h : Moves (history config ops) e) (hbuiltin : e.BuiltinsOnly) (hacyclic : e.Acyclic) :
    (∀ name v, e.EndsWithin e.keys.length (.set name v)) ∧
    ∀ line, e.EndsWithin
        (e.keys.length + if (e.hit? (Line.content line)).isSome then 1 else 0) (.feedData line) ∧
      (¬ Line.IsMarked line → e.EndsWithin
        (e.keys.length + if (e.hit? (Line.content line)).isSome then 1 else 0) (.feed line)) := by
  have hcanonical : e.Canonical := (canonical_history config ops).moves h
  have hset : ∀ name v, e.EndsWithin e.keys.length (.set name v) := by
    intro name v
    have htraced : ∀ levels, Traced e ⟨(· = name), fun _ => False, levels⟩ []
        (((Operation.set name v).under (runner levels)).run e).2 := by
      intro levels
      rw [Operation.under, Operation.run_done]
      exact Traced.of_set hbuiltin hcanonical rfl v
    refine .of_traced htraced fun levels stack hchained => ?_
    have hlength : stack.length ≤ e.keys.length + 0 :=
      hchained.length_le hacyclic fun _ (hstart : False) => hstart.elim
    exact hlength
  have hdata : ∀ line, e.EndsWithin
      (e.keys.length + if (e.hit? (Line.content line)).isSome then 1 else 0) (.feedData line) := by
    intro line
    cases hhit : e.hit? (Line.content line) with
    | none =>
      have htraced : ∀ levels, Traced e ⟨fun _ => True, fun _ => False, levels⟩ []
          (((Operation.feedData line).under (runner levels)).run e).2 := by
        intro levels
        rw [Operation.under, Operation.run_done]
        exact Traced.of_feedData_of_miss hbuiltin hcanonical (fun _ => trivial) hhit
      refine .of_traced htraced fun levels stack hchained => ?_
      exact hchained.length_le hacyclic fun _ (hstart : False) => hstart.elim
    | some hit =>
      have htraced : ∀ levels, Traced e ⟨fun _ => True, fun _ => True, levels⟩ []
          (((Operation.feedData line).under (runner levels)).run e).2 := by
        intro levels
        rw [Operation.under, Operation.run_done]
        exact Traced.of_feedData hbuiltin hcanonical (fun _ => trivial) (fun _ _ => trivial) line
      refine .of_traced htraced fun levels stack hchained => ?_
      exact hchained.length_le hacyclic fun _ _ => Nat.le_refl 1
  refine ⟨hset, fun line => ⟨hdata line, fun hplain => (hdata line).congr fun way => ?_⟩⟩
  rw [Operation.under, Operation.under, way.feed_of_not_isMarked hplain]

/-- A rule that assigns to nothing feeds nothing, so one level of nesting is enough for it. -/
theorem copy_ends :
    (history .standard [.define "copy" "a"]).EndsWithin 1 (.set "a" (.int 1)) ∧
      (Operation.set "a" (.int 1)).perform.run (history .standard [.define "copy" "a"]) =
        ((Operation.set "a" (.int 1)).under (runner 1)).run
          (history .standard [.define "copy" "a"]) := by
  have hmoment : Moves (history .standard [.define "copy" "a"]) _ := .refl
  have hnew : (Engine.new .standard).BuiltinsOnly := fun _ _ => mem_functions_of_new
  have hbuiltin : (history .standard [.define "copy" "a"]).BuiltinsOnly := hnew
  have hnone : ∀ p q, ¬ (history .standard [.define "copy" "a"]).Feeds p q := by
    rintro p q ⟨r, ⟨key, -, hr⟩, name, htarget, -⟩
    rw [targets_of_copy hr] at htarget
    cases htarget
  have hacyclic : (history .standard [.define "copy" "a"]).Acyclic := by
    intro id hcycle
    obtain ⟨q, hfeeds, -⟩ := Relation.TransGen.head'_iff.mp hcycle
    exact hnone id q hfeeds
  have hends := (acyclic_ends hmoment hbuiltin hacyclic).1 "a" (.int 1)
  have hkeys : (history .standard [.define "copy" "a"]).keys.length = 1 := rfl
  rw [hkeys] at hends
  have hdepths : 1 ≤ (history .standard [.define "copy" "a"]).config.depths :=
    show 1 ≤ 64 by decide
  exact ⟨hends, hends.own hdepths (Nat.le_refl 1)⟩

end Cascade
