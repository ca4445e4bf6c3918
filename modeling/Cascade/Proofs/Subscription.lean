import Cascade.Proofs.Glob
import Cascade.Proofs.Step
import Mathlib.Data.List.Nodup

/-!
# Who observes what

A rule is subscribed on three ways: to the symbols there are when it is defined, to the plain names it
depends on, and to the symbols that come to be later. Removal unsubscribes it on two. Whatever the
order of all this, the observers of a symbol are told by its name and the registered rules alone.

The state of the subscriptions is compared with a **plan**: a number of slots and, for each slot, the
dependencies of the rule in it, none for a rule that is not registered. What follows the plan is kept
by every step, the plan changing with the registered rules.

§1 plans; §2 symbols that come to be; §3 subscribing; §4 unsubscribing; §5 the plan of the registered
rules; §6 every move keeps it.
-/

namespace Cascade

/-! ## §1 Plans -/

/-- The identities of the first slots, ascending. -/
def slotsBelow (n : Nat) : List RuleId := (List.range n).map RuleId.mk

theorem slotsBelow_succ (n : Nat) : slotsBelow (n + 1) = slotsBelow n ++ [⟨n⟩] := by
  simp [slotsBelow, List.range_succ]

theorem mem_slotsBelow {n : Nat} {id : RuleId} : id ∈ slotsBelow n ↔ id.slot < n := by
  simp only [slotsBelow, List.mem_map, List.mem_range]
  constructor
  · rintro ⟨i, hi, rfl⟩
    exact hi
  · intro h
    exact ⟨id.slot, h, rfl⟩

theorem pairwise_slotsBelow (n : Nat) : (slotsBelow n).Pairwise fun a b => a.slot < b.slot :=
  List.pairwise_map.mpr List.pairwise_lt_range

theorem nodup_slotsBelow (n : Nat) : (slotsBelow n).Nodup :=
  (pairwise_slotsBelow n).imp fun h heq => absurd (heq ▸ h) (Nat.lt_irrefl _)

/-- What the rule in each slot depends on. -/
abbrev Plan := RuleId → List String

namespace Plan

/-- The slots whose rules depend on something that covers a name, ascending. -/
def watchers (plan : Plan) (n : Nat) (name : String) : List RuleId :=
  (slotsBelow n).filter fun id => (plan id).any (Glob.covers · name)

/-- The patterns among the dependencies, slot by slot. -/
def patterns (plan : Plan) (n : Nat) : List (String × RuleId) :=
  (slotsBelow n).flatMap fun id => ((plan id).filter Glob.hasWildcard).map (·, id)

theorem mem_watchers {plan : Plan} {n : Nat} {name : String} {id : RuleId} :
    id ∈ plan.watchers n name ↔ id.slot < n ∧ ∃ d ∈ plan id, Glob.covers d name = true := by
  simp [watchers, mem_slotsBelow]

theorem mem_patterns {plan : Plan} {n : Nat} {d : String} {id : RuleId} :
    (d, id) ∈ plan.patterns n ↔ id.slot < n ∧ d ∈ plan id ∧ Glob.hasWildcard d = true := by
  simp only [patterns, List.mem_flatMap, mem_slotsBelow, List.mem_map, List.mem_filter,
    Prod.mk.injEq]
  constructor
  · rintro ⟨_, hn, _, ⟨hd, hw⟩, rfl, rfl⟩
    exact ⟨hn, hd, hw⟩
  · rintro ⟨hn, hd, hw⟩
    exact ⟨id, hn, d, ⟨hd, hw⟩, rfl, rfl⟩

theorem pairwise_watchers (plan : Plan) (n : Nat) (name : String) :
    (plan.watchers n name).Pairwise fun a b => a.slot < b.slot :=
  (pairwise_slotsBelow n).filter _

/-- No dependency is listed twice if no rule has one twice. -/
theorem nodup_patterns {plan : Plan} {n : Nat} (h : ∀ id, (plan id).Nodup) :
    (plan.patterns n).Nodup := by
  refine List.nodup_flatMap.mpr ⟨fun id _ => ?_, (nodup_slotsBelow n).imp fun hne => ?_⟩
  · exact ((h id).filter _).map fun a b hab => (Prod.mk.inj hab).1
  · intro p hp hq
    obtain ⟨_, -, rfl⟩ := List.mem_map.mp hp
    obtain ⟨_, -, heq⟩ := List.mem_map.mp hq
    exact hne (Prod.mk.inj heq).2.symm

/-- One more slot whose rule depends on nothing adds nothing. -/
theorem watchers_succ (plan : Plan) (n : Nat) (name : String) :
    plan.watchers (n + 1) name =
      plan.watchers n name ++ if (plan ⟨n⟩).any (Glob.covers · name) then [⟨n⟩] else [] := by
  rw [watchers, slotsBelow_succ, List.filter_append, ← watchers, List.filter_cons, List.filter_nil]

theorem patterns_succ (plan : Plan) (n : Nat) :
    plan.patterns (n + 1) =
      plan.patterns n ++ ((plan ⟨n⟩).filter Glob.hasWildcard).map (·, ⟨n⟩) := by
  simp [patterns, slotsBelow_succ]

/-- What the slots below depend on is all that counts. -/
theorem watchers_congr {plan plan' : Plan} {n : Nat} (h : ∀ id, id.slot < n → plan id = plan' id)
    (name : String) : plan.watchers n name = plan'.watchers n name :=
  List.filter_congr fun id hid => by rw [h id (mem_slotsBelow.mp hid)]

theorem patterns_congr {plan plan' : Plan} {n : Nat} (h : ∀ id, id.slot < n → plan id = plan' id) :
    plan.patterns n = plan'.patterns n :=
  List.flatMap_congr fun id hid => by rw [h id (mem_slotsBelow.mp hid)]

end Plan

/-- **The subscriptions follow a plan.** -/
structure Engine.Follows (e : Engine) (plan : Plan) (n : Nat) : Prop where
  /-- A symbol is observed by the rules with a dependency that covers its name. -/
  observers : ∀ {name s}, e.symbols.get? name = some s → s.observers = plan.watchers n name
  /-- The patterns are kept for symbols to come. -/
  wildcards : e.wildcards = plan.patterns n
  /-- A plain dependency is a symbol. -/
  named : ∀ {id d}, d ∈ plan id → Glob.hasWildcard d = false → (e.symbols.get? d).isSome = true

/-! ## §2 Symbols that come to be -/

/-- Subscribing the same rule several times is subscribing it once. -/
theorem Symbol.observeAll_same (id : RuleId) (l : List String) (s : Symbol) (h : id ∉ s.observers) :
    (s.observeAll (l.map fun _ => id)).observers =
      s.observers ++ if l.isEmpty then [] else [id] := by
  have hadd : (s.observe id).observers = s.observers ++ [id] := by
    simp [observe, h]
  -- from the second time on the rule is there already
  have hagain : ∀ l : List String, (s.observe id).observeAll (l.map fun _ => id) = s.observe id := by
    intro l
    induction l with
    | nil => rfl
    | cons d l ih =>
      have hmem : id ∈ (s.observe id).observers := by simp [hadd]
      rw [List.map_cons, observeAll, List.foldl_cons, ← observeAll]
      rw [show (s.observe id).observe id = s.observe id by
        rw [observe, if_pos (List.contains_iff_mem.mpr hmem)], ih]
  cases l with
  | nil => simp [observeAll]
  | cons d l =>
    rw [List.map_cons, observeAll, List.foldl_cons, ← observeAll, hagain, hadd]
    rfl

/-- Several rules, each subscribed as often as it has reasons, come in their order, each once. -/
theorem Symbol.observeAll_flatMap (reasons : RuleId → List String) :
    ∀ (ids : List RuleId) (s : Symbol), ids.Nodup → (∀ id ∈ ids, id ∉ s.observers) →
      (s.observeAll (ids.flatMap fun id => (reasons id).map fun _ => id)).observers =
        s.observers ++ ids.filter fun id => !(reasons id).isEmpty := by
  intro ids
  induction ids with
  | nil =>
    intro s _ _
    simp [observeAll]
  | cons id ids ih =>
    intro s hnodup hnew
    obtain ⟨hid, hids⟩ := List.nodup_cons.mp hnodup
    have hfirst := observeAll_same id (reasons id) s (hnew id (List.mem_cons_self ..))
    have hrest : ∀ other ∈ ids, other ∉ (s.observeAll ((reasons id).map fun _ => id)).observers := by
      intro other hother hmem
      rw [hfirst, List.mem_append] at hmem
      rcases hmem with hmem | hmem
      · exact hnew other (List.mem_cons_of_mem _ hother) hmem
      · split at hmem
        · exact absurd hmem List.not_mem_nil
        · rw [List.mem_singleton.mp hmem] at hother
          exact hid hother
    rw [List.flatMap_cons, observeAll, List.foldl_append, ← observeAll, ← observeAll,
      ih _ hids hrest, hfirst, List.append_assoc, List.filter_cons]
    cases (reasons id).isEmpty <;> rfl

namespace Engine.Follows

variable {e e' : Engine} {plan : Plan} {n : Nat}

/-- **A symbol that comes to be is observed according to the plan**, as one that is there. -/
theorem symbolOf (h : e.Follows plan n) (name : String) :
    (e.symbolOf name).observers = plan.watchers n name := by
  unfold Engine.symbolOf
  cases hname : e.symbols.get? name with
  | some s => exact h.observers hname
  | none =>
    have hsub : e.subscribers name =
        (slotsBelow n).flatMap fun id =>
          ((plan id).filter fun d => Glob.covers d name && Glob.hasWildcard d).map fun _ => id := by
      simp [subscribers, h.wildcards, Plan.patterns, List.filter_flatMap, List.map_flatMap,
        List.filter_map, List.filter_filter, Function.comp_def]
    rw [Option.getD_none, hsub, Symbol.observeAll_flatMap _ _ _ (nodup_slotsBelow n) fun id _ => by
      simp [Symbol.fresh]]
    rw [show Symbol.fresh.observers = [] from rfl, List.nil_append, Plan.watchers]
    refine List.filter_congr fun id _ => ?_
    -- a plain dependency that covers the name would have made it a symbol
    have hplain : ∀ d ∈ plan id, Glob.covers d name = true → Glob.hasWildcard d = true := by
      intro d hd hcover
      by_contra hnot
      have hd' : Glob.hasWildcard d = false := by simpa using hnot
      have hsome := h.named hd hd'
      rw [← (Glob.covers_iff_eq hd' name).mp hcover, hname] at hsome
      cases hsome
    rw [Bool.eq_iff_iff]
    simp only [Bool.not_eq_true', List.isEmpty_eq_false_iff, ne_eq, List.filter_eq_nil_iff,
      Bool.and_eq_true, not_forall, not_not, List.any_eq_true]
    constructor
    · rintro ⟨d, hd, hcover, -⟩
      exact ⟨d, hd, hcover⟩
    · rintro ⟨d, hd, hcover⟩
      exact ⟨d, hd, hcover, hplain d hd hcover⟩

/-- Only symbols and patterns count. -/
theorem congr (h : e.Follows plan n) (hs : e'.symbols = e.symbols) (hw : e'.wildcards = e.wildcards) :
    e'.Follows plan n := by
  refine ⟨fun hname => h.observers (hs ▸ hname), hw.trans h.wildcards, fun hd hplain => ?_⟩
  rw [hs]
  exact h.named hd hplain

/-- A symbol with the observers of the plan may be put in. -/
theorem insert (h : e.Follows plan n) {name : String} {s : Symbol}
    (hs : s.observers = plan.watchers n name) :
    ({ e with symbols := e.symbols.insert name s } : Engine).Follows plan n := by
  refine ⟨fun {other t} ht => ?_, h.wildcards, fun {id d} hd hplain => ?_⟩
  · rw [Table.get?_insert] at ht
    split at ht
    · next heq => cases ht; rw [heq]; exact hs
    · exact h.observers ht
  · rw [Table.get?_insert]
    split
    · rfl
    · exact h.named hd hplain

theorem touch (h : e.Follows plan n) (name : String) : (e.touch name).Follows plan n :=
  h.insert (h.symbolOf name)

theorem changed (h : e.Follows plan n) (name : String) (v : Value) :
    (e.changed name v).Follows plan n :=
  (h.insert (s := { e.symbolOf name with value := some v }) (h.symbolOf name)).congr rfl rfl

end Engine.Follows

/-! ## §3 Subscribing -/

namespace Plan

/-- The plan in which a rule has more dependencies. -/
def add (plan : Plan) (id : RuleId) (ds : List String) : Plan :=
  Function.update plan id (plan id ++ ds)

theorem add_self (plan : Plan) (id : RuleId) (ds : List String) :
    plan.add id ds id = plan id ++ ds :=
  Function.update_self ..

theorem add_of_ne (plan : Plan) {id other : RuleId} (ds : List String) (h : other ≠ id) :
    plan.add id ds other = plan other :=
  Function.update_of_ne h ..

theorem add_nil (plan : Plan) (id : RuleId) : plan.add id [] = plan := by
  rw [add, List.append_nil, Function.update_eq_self]

theorem add_add (plan : Plan) (id : RuleId) (ds more : List String) :
    (plan.add id ds).add id more = plan.add id (ds ++ more) := by
  rw [add, add_self, add, Function.update_idem, List.append_assoc, add]

/-- Nothing changes below the slot of the rule. -/
theorem add_below (plan : Plan) (n : Nat) (ds : List String) (id : RuleId) (h : id.slot < n) :
    plan.add ⟨n⟩ ds id = plan id := by
  refine plan.add_of_ne ds fun heq => ?_
  rw [heq] at h
  exact Nat.lt_irrefl _ h

/-- One more dependency of the last rule: whether it watches a name may change. -/
theorem watchers_add (plan : Plan) (n : Nat) (d name : String) :
    (plan.add ⟨n⟩ [d]).watchers (n + 1) name =
      plan.watchers n name ++
        if (plan ⟨n⟩).any (Glob.covers · name) || Glob.covers d name then [⟨n⟩] else [] := by
  rw [watchers_succ, watchers_congr (plan.add_below n [d]), add_self, List.any_append]
  simp

theorem watchers_add_of_not_covers (plan : Plan) (n : Nat) {d name : String}
    (h : Glob.covers d name = false) :
    (plan.add ⟨n⟩ [d]).watchers (n + 1) name = plan.watchers (n + 1) name := by
  rw [watchers_add, watchers_succ, h, Bool.or_false]

/-- A symbol that observes the last rule too follows the plan with the new dependency. -/
theorem observe_watchers (plan : Plan) (n : Nat) {d name : String} {s : Symbol}
    (hs : s.observers = plan.watchers (n + 1) name) (h : Glob.covers d name = true) :
    (s.observe ⟨n⟩).observers = (plan.add ⟨n⟩ [d]).watchers (n + 1) name := by
  have hlast : (⟨n⟩ : RuleId) ∉ plan.watchers n name := fun hmem =>
    Nat.lt_irrefl n (mem_watchers.mp hmem).1
  rw [watchers_add, h, Bool.or_true, if_pos rfl]
  rw [watchers_succ] at hs
  by_cases hany : (plan ⟨n⟩).any (Glob.covers · name) = true
  · rw [if_pos hany] at hs
    rw [Symbol.observe, if_pos (by simp [hs]), hs]
  · rw [if_neg hany, List.append_nil] at hs
    rw [Symbol.observe, if_neg (by simpa [hs] using hlast), hs]

theorem patterns_add (plan : Plan) (n : Nat) (d : String) :
    (plan.add ⟨n⟩ [d]).patterns (n + 1) =
      plan.patterns (n + 1) ++ if Glob.hasWildcard d then [(d, ⟨n⟩)] else [] := by
  rw [patterns_succ, patterns_congr (plan.add_below n [d]), patterns_succ, add_self,
    List.filter_append, List.map_append, List.append_assoc]
  cases h : Glob.hasWildcard d <;> simp [h]

end Plan

namespace Engine.Follows

variable {e : Engine} {plan : Plan} {n : Nat}

/-- **Subscribing the last rule to one more dependency.** -/
theorem subscribe (h : e.Follows plan (n + 1)) (d : String) :
    (e.subscribe ⟨n⟩ d).Follows (plan.add ⟨n⟩ [d]) (n + 1) := by
  have hdeps : ∀ {id other}, other ∈ plan.add ⟨n⟩ [d] id → other ∈ plan id ∨ other = d := by
    intro id other hother
    by_cases hid : id = ⟨n⟩
    · rw [hid, Plan.add_self, List.mem_append, List.mem_singleton] at hother
      rw [hid]
      exact hother
    · rw [plan.add_of_ne _ hid] at hother
      exact Or.inl hother
  unfold Engine.subscribe
  by_cases hw : Glob.hasWildcard d = true
  -- a pattern is subscribed to the symbols there are and kept for those to come
  · rw [if_pos hw]
    refine ⟨fun {name s} hs => ?_, ?_, fun {id other} hother hplain => ?_⟩
    · rw [Table.get?_mapValues] at hs
      obtain ⟨t, ht, rfl⟩ := Option.map_eq_some_iff.mp hs
      have hobs := h.observers ht
      by_cases hcover : Glob.covers d name = true
      · rw [if_pos hcover]
        exact plan.observe_watchers n hobs hcover
      · rw [if_neg hcover, hobs, plan.watchers_add_of_not_covers n (by simpa using hcover)]
    · rw [plan.patterns_add, if_pos hw]
      exact congrArg (· ++ [(d, (⟨n⟩ : RuleId))]) h.wildcards
    · rw [Table.get?_mapValues, Option.isSome_map]
      rcases hdeps hother with hold | heq
      · exact h.named hold hplain
      · rw [heq, hw] at hplain
        cases hplain
  · have hplain : Glob.hasWildcard d = false := by simpa using hw
    -- a plain name becomes a symbol, which the patterns may have asked for already
    rw [if_neg hw]
    refine ⟨fun {name s} hs => ?_, ?_, fun {id other} hother hother' => ?_⟩
    · rw [Table.get?_insert] at hs
      split at hs
      · next heq =>
        cases hs
        rw [heq]
        exact plan.observe_watchers n (h.symbolOf d) (Glob.covers_self d)
      · next hne =>
        have hnot : Glob.covers d name = false := by
          rw [Bool.eq_false_iff]
          exact fun hcover => hne ((Glob.covers_iff_eq hplain name).mp hcover)
        rw [h.observers hs, plan.watchers_add_of_not_covers n hnot]
    · rw [plan.patterns_add, if_neg hw, List.append_nil]
      exact h.wildcards
    · rw [Table.get?_insert]
      split
      · rfl
      · next hne =>
        rcases hdeps hother with hold | heq
        · exact h.named hold hother'
        · exact absurd heq hne

theorem subscribeAll (h : e.Follows plan (n + 1)) (ds : List String) :
    (e.subscribeAll ⟨n⟩ ds).Follows (plan.add ⟨n⟩ ds) (n + 1) := by
  induction ds generalizing e plan with
  | nil => rw [plan.add_nil]; exact h
  | cons d ds ih =>
    have hstep := ih (h.subscribe d)
    rw [plan.add_add] at hstep
    exact hstep

/-- A new slot whose rule depends on nothing changes nothing. -/
theorem succ (h : e.Follows plan n) (hnew : plan ⟨n⟩ = []) : e.Follows plan (n + 1) := by
  refine ⟨fun hs => ?_, ?_, h.named⟩
  · rw [h.observers hs, Plan.watchers_succ, hnew]
    exact (List.append_nil _).symm
  · rw [h.wildcards, Plan.patterns_succ, hnew]
    exact (List.append_nil _).symm

end Engine.Follows

/-! ## §4 Unsubscribing -/

namespace Plan

/-- The plan without the dependencies of a rule. -/
def drop (plan : Plan) (id : RuleId) : Plan := Function.update plan id []

theorem drop_self (plan : Plan) (id : RuleId) : plan.drop id id = [] :=
  Function.update_self ..

theorem drop_of_ne (plan : Plan) {id other : RuleId} (h : other ≠ id) :
    plan.drop id other = plan other :=
  Function.update_of_ne h ..

theorem watchers_drop (plan : Plan) (n : Nat) (id : RuleId) (name : String) :
    (plan.drop id).watchers n name = (plan.watchers n name).filter (· != id) := by
  rw [watchers, watchers, List.filter_filter]
  refine List.filter_congr fun other _ => ?_
  by_cases h : other = id
  · rw [h, drop_self]
    simp
  · rw [plan.drop_of_ne h]
    simp [h]

theorem patterns_drop (plan : Plan) (n : Nat) (id : RuleId) :
    (plan.drop id).patterns n = (plan.patterns n).filter (·.2 != id) := by
  rw [patterns, patterns, List.filter_flatMap]
  refine List.flatMap_congr fun other _ => ?_
  rw [List.filter_map]
  by_cases h : other = id
  · rw [h, drop_self]
    simp [Function.comp_def]
  · have hne : (other != id) = true := by simpa using h
    rw [plan.drop_of_ne h]
    simp [Function.comp_def, hne]

end Plan

/-- Unsubscribing from all dependencies unsubscribes from what some dependency covers. -/
theorem Engine.get?_unsubscribeAll (id : RuleId) (ds : List String) (e : Engine) (name : String) :
    (e.unsubscribeAll id ds).symbols.get? name =
      (e.symbols.get? name).map fun s =>
        if ds.any (Glob.covers · name) then s.unobserve id else s := by
  induction ds generalizing e with
  | nil => simp [unsubscribeAll]
  | cons d ds ih =>
    have htwice : ∀ s : Symbol, (s.unobserve id).unobserve id = s.unobserve id := by
      intro s
      simp [Symbol.unobserve, List.filter_filter]
    rw [unsubscribeAll, List.foldl_cons, ← unsubscribeAll, ih, unsubscribe, Table.get?_mapValues,
      Option.map_map]
    congr 1
    funext s
    simp only [Function.comp_apply, List.any_cons]
    by_cases hd : Glob.covers d name = true <;> by_cases hds : ds.any (Glob.covers · name) = true <;>
      simp [hd, hds, htwice]

/-- The symbols once a rule has been removed. -/
theorem Engine.get?_symbols_uninstall {e : Engine} {id : RuleId} {r : Rule}
    (hr : e.rules.get? id = some r) (key name : String) :
    (e.uninstall key id).symbols.get? name =
      (e.symbols.get? name).map fun s =>
        if r.dependencies.any (Glob.covers · name) then s.unobserve id else s := by
  simp only [uninstall, hr]
  exact get?_unsubscribeAll id r.dependencies _ name

namespace Engine.Follows

variable {e : Engine} {plan : Plan} {n : Nat}

/-- **Removing a rule** leaves the plan without it. -/
theorem uninstall (h : e.Follows plan n) {key : String} {id : RuleId} {r : Rule}
    (hr : e.rules.get? id = some r) (hdeps : plan id = r.dependencies) :
    (e.uninstall key id).Follows (plan.drop id) n := by
  refine ⟨fun {name s} hs => ?_, ?_, fun {other d} hd hplain => ?_⟩
  · rw [get?_symbols_uninstall hr] at hs
    obtain ⟨t, ht, rfl⟩ := Option.map_eq_some_iff.mp hs
    have hobs : t.observers = plan.watchers n name := h.observers ht
    rw [plan.watchers_drop, ← hobs]
    split
    · rfl
    · next hnone =>
      -- no dependency covers the name, so the rule was not there
      have hout : id ∉ t.observers := by
        rw [hobs, Plan.mem_watchers, hdeps]
        rintro ⟨-, d, hd, hcover⟩
        exact hnone (List.any_eq_true.mpr ⟨d, hd, hcover⟩)
      refine (List.filter_eq_self.mpr fun other hother => ?_).symm
      simpa using fun heq : other = id => hout (heq ▸ hother)
  · rw [uninstall_wildcards, h.wildcards, plan.patterns_drop]
  · have hold : d ∈ plan other := by
      by_cases hother : other = id
      · rw [hother, plan.drop_self] at hd
        exact absurd hd List.not_mem_nil
      · rwa [plan.drop_of_ne hother] at hd
    rw [get?_symbols_uninstall hr, Option.isSome_map]
    exact h.named hold hplain

end Engine.Follows

/-! ## §5 The plan of the registered rules -/

namespace Engine

/-- **A rule is registered** under some key. -/
def Registered (e : Engine) (id : RuleId) (r : Rule) : Prop :=
  ∃ key, e.registry.get? key = some id ∧ e.rules.get? id = some r

theorem Registered.slot_lt {e : Engine} {id : RuleId} {r : Rule} (h : e.Registered id r) :
    id.slot < e.rules.size := by
  obtain ⟨_, -, hr⟩ := h
  exact Rules.slot_lt hr

/-- Has some key this identity? -/
def hasKey (e : Engine) (id : RuleId) : Bool := e.registry.entries.any (·.2 == id)

/-- **The plan of the registered rules.** -/
def plan (e : Engine) : Plan := fun id =>
  if e.hasKey id then ((e.rules.get? id).map Rule.dependencies).getD [] else []

/-- **The rules to be notified when a symbol changes**: the registered ones with a dependency that
covers its name, ascending. -/
def dependents (e : Engine) (name : String) : List RuleId := e.plan.watchers e.rules.size name

theorem hasKey_iff {e : Engine} {id : RuleId} :
    e.hasKey id = true ↔ ∃ key, e.registry.get? key = some id := by
  simp only [hasKey, List.any_eq_true, beq_iff_eq]
  constructor
  · rintro ⟨⟨key, _⟩, hmem, rfl⟩
    exact ⟨key, Table.mem_entries_iff.mp hmem⟩
  · rintro ⟨key, hkey⟩
    exact ⟨(key, id), Table.mem_entries_iff.mpr hkey, rfl⟩

theorem mem_plan {e : Engine} {id : RuleId} {d : String} :
    d ∈ e.plan id ↔ ∃ r, e.Registered id r ∧ d ∈ r.dependencies := by
  unfold plan
  constructor
  · intro h
    split at h
    · next hkey =>
      obtain ⟨key, hkey⟩ := hasKey_iff.mp hkey
      cases hr : e.rules.get? id with
      | none => rw [hr] at h; exact absurd h List.not_mem_nil
      | some r => rw [hr] at h; exact ⟨r, ⟨key, hkey, hr⟩, h⟩
    · exact absurd h List.not_mem_nil
  · rintro ⟨r, ⟨key, hkey, hr⟩, hd⟩
    rw [if_pos (hasKey_iff.mpr ⟨key, hkey⟩), hr]
    exact hd

theorem plan_eq_nil {e : Engine} {id : RuleId} (h : e.rules.get? id = none) : e.plan id = [] := by
  rw [plan, h]
  split <;> rfl

/-- Keys and dependencies make the plan. -/
theorem plan_congr {e e' : Engine} {id : RuleId}
    (hkey : ∀ key, e'.registry.get? key = some id ↔ e.registry.get? key = some id)
    (hdeps : (e'.rules.get? id).map Rule.dependencies = (e.rules.get? id).map Rule.dependencies) :
    e'.plan id = e.plan id := by
  have hhas : e'.hasKey id = e.hasKey id := by
    rw [Bool.eq_iff_iff, hasKey_iff, hasKey_iff]
    exact exists_congr hkey
  rw [plan, plan, hhas, hdeps]

theorem mem_dependents {e : Engine} {name : String} {id : RuleId} :
    id ∈ e.dependents name ↔
      ∃ r, e.Registered id r ∧ ∃ d ∈ r.dependencies, Glob.covers d name = true := by
  rw [dependents, Plan.mem_watchers]
  constructor
  · rintro ⟨-, d, hd, hcover⟩
    obtain ⟨r, hr, hd⟩ := mem_plan.mp hd
    exact ⟨r, hr, d, hd, hcover⟩
  · rintro ⟨r, hr, d, hd, hcover⟩
    exact ⟨hr.slot_lt, d, mem_plan.mpr ⟨r, hr, hd⟩, hcover⟩

theorem pairwise_dependents (e : Engine) (name : String) :
    (e.dependents name).Pairwise fun a b => a.slot < b.slot :=
  e.plan.pairwise_watchers e.rules.size name

/-- **The registry is in order**: each key has a rule of its own, which knows it, and the
subscriptions follow the plan of the registered rules. -/
structure Canonical (e : Engine) : Prop where
  housed : ∀ {key id}, e.registry.get? key = some id → ∃ r, e.rules.get? id = some r ∧ r.key = key
  follows : e.Follows e.plan e.rules.size

/-! ## §6 Every move keeps it -/

/-- What comes without symbols, patterns, rules and keys needs no care. -/
theorem Canonical.congr {e e' : Engine} (h : e.Canonical) (hs : e'.symbols = e.symbols)
    (hw : e'.wildcards = e.wildcards) (hr : e'.rules = e.rules) (hk : e'.registry = e.registry) :
    e'.Canonical := by
  have hplan : e'.plan = e.plan := by
    funext id
    exact plan_congr (fun key => by rw [hk]) (by rw [hr])
  refine ⟨fun {key id} hkey => ?_, ?_⟩
  · rw [hr]
    rw [hk] at hkey
    exact h.housed hkey
  · rw [hplan, hr]
    exact h.follows.congr hs hw

section

variable {e : Engine}

theorem plan_install {r : Rule} (hfree : e.registry.get? r.key = none) :
    (e.install r).2.plan = e.plan.add e.rules.nextId r.dependencies := by
  have hnext : e.plan e.rules.nextId = [] := plan_eq_nil (Rules.get?_nextId _)
  funext id
  by_cases hid : id = e.rules.nextId
  · have hkey : (e.install r).2.hasKey id = true :=
      hasKey_iff.mpr ⟨r.key, by rw [install_registry, Table.get?_insert_self, hid]⟩
    rw [plan, if_pos hkey, install_rules, Rules.get?_add, if_pos hid, hid, Plan.add_self, hnext]
    rfl
  · rw [Plan.add_of_ne _ _ hid]
    refine plan_congr (fun key => ?_) (by rw [install_rules, Rules.get?_add, if_neg hid])
    rw [install_registry, Table.get?_insert]
    split
    · next heq =>
      rw [heq, hfree]
      simpa using Ne.symm hid
    · exact Iff.rfl

theorem Canonical.install (h : e.Canonical) {r : Rule} (hfree : e.registry.get? r.key = none) :
    (e.install r).2.Canonical := by
  have hnext : e.plan e.rules.nextId = [] := plan_eq_nil (Rules.get?_nextId _)
  refine ⟨fun {key id} hkey => ?_, ?_⟩
  · rw [install_registry, Table.get?_insert] at hkey
    rw [install_rules, Rules.get?_add]
    split at hkey
    · next heq =>
      cases hkey
      exact ⟨r, if_pos rfl, heq.symm⟩
    · obtain ⟨r', hr', hkey'⟩ := h.housed hkey
      have hne : id ≠ e.rules.nextId := by
        rintro rfl
        rw [Rules.get?_nextId] at hr'
        cases hr'
      exact ⟨r', by rw [if_neg hne, hr'], hkey'⟩
  · have hsize : (e.install r).2.rules.size = e.rules.size + 1 := by
      rw [install_rules, Rules.size_add]
    -- the slot counts before the rule in it depends on anything
    have hroom : (housing r e).Follows e.plan (e.rules.size + 1) :=
      (h.follows.succ hnext).congr rfl rfl
    rw [plan_install hfree, hsize]
    exact (hroom.subscribeAll r.dependencies).congr rfl rfl

theorem plan_uninstall {key : String} {id : RuleId}
    (hkey : e.registry.get? key = some id) : (e.uninstall key id).plan = e.plan.drop id := by
  funext other
  by_cases hother : other = id
  · rw [hother, Plan.drop_self]
    exact plan_eq_nil (by rw [get?_uninstall, if_pos rfl])
  · rw [Plan.drop_of_ne _ hother]
    refine plan_congr (fun key' => ?_) (by rw [get?_uninstall, if_neg hother])
    rw [uninstall_registry, Table.get?_erase]
    split
    · next heq =>
      rw [heq, hkey]
      simpa using Ne.symm hother
    · exact Iff.rfl

theorem Canonical.uninstall (h : e.Canonical) {key : String} {id : RuleId}
    (hkey : e.registry.get? key = some id) : (e.uninstall key id).Canonical := by
  obtain ⟨r, hr, hrkey⟩ := h.housed hkey
  refine ⟨fun {key' other} hkey' => ?_, ?_⟩
  · rw [uninstall_registry, Table.get?_erase] at hkey'
    split at hkey'
    · cases hkey'
    · next hne =>
      obtain ⟨r', hr', hrkey'⟩ := h.housed hkey'
      -- a rule knows its key, so no other key leads to it
      have hother : other ≠ id := by
        rintro rfl
        rw [hr] at hr'
        cases hr'
        exact hne (hrkey'.symm.trans hrkey)
      exact ⟨r', by rw [get?_uninstall, if_neg hother, hr'], hrkey'⟩
  · have hdeps : e.plan id = r.dependencies := by
      rw [plan, if_pos (hasKey_iff.mpr ⟨key, hkey⟩), hr]
      rfl
    rw [plan_uninstall hkey, size_uninstall]
    exact h.follows.uninstall hr hdeps

/-- A slot that no key leads to may be used up. -/
theorem Canonical.grow (h : e.Canonical) {e' : Engine} (hs : e'.symbols = e.symbols)
    (hw : e'.wildcards = e.wildcards) (hk : e'.registry = e.registry)
    (hsize : e'.rules.size = e.rules.size + 1)
    (hr : ∀ id, id ≠ e.rules.nextId → e'.rules.get? id = e.rules.get? id) : e'.Canonical := by
  have hold : ∀ {key id}, e.registry.get? key = some id → id ≠ e.rules.nextId := by
    rintro key id hkey rfl
    obtain ⟨r, hr, -⟩ := h.housed hkey
    rw [Rules.get?_nextId] at hr
    cases hr
  have hnext : e.plan e.rules.nextId = [] := plan_eq_nil (Rules.get?_nextId _)
  have hplan : e'.plan = e.plan := by
    funext id
    by_cases hid : id = e.rules.nextId
    · have hno : ¬ e'.hasKey id = true := by
        rw [hasKey_iff, hk]
        rintro ⟨key, hkey⟩
        exact hold hkey hid
      rw [plan, if_neg hno, hid, hnext]
    · exact plan_congr (fun key => by rw [hk]) (by rw [hr id hid])
  refine ⟨fun {key id} hkey => ?_, ?_⟩
  · rw [hk] at hkey
    rw [hr id (hold hkey)]
    exact h.housed hkey
  · rw [hplan, hsize]
    exact (h.follows.succ hnext).congr hs hw

theorem Canonical.step (h : e.Canonical) {e' : Engine} (hstep : Step e e') : e'.Canonical := by
  cases hstep with
  | touch name => exact ⟨h.housed, h.follows.touch name⟩
  | install _ hread hfree => exact h.install ((Rule.key_of_compile hread).1 ▸ hfree)
  | uninstall hkey => exact h.uninstall hkey
  | addTrigger _ _ =>
    exact h.grow rfl rfl rfl (Rules.size_add ..) fun id hid =>
      (Rules.get?_add ..).trans (if_neg hid)
  | discard r =>
    refine h.grow rfl rfl rfl (by simp) fun id hid => ?_
    rw [Rules.get?_remove, if_neg hid, Rules.get?_add, if_neg hid]
  | _ => exact h.congr rfl rfl rfl rfl

theorem Canonical.keepResult (h : e.Canonical) (id : RuleId) (v : Value) :
    (e.keepResult id v).Canonical := by
  have hget : ∀ other, (e.keepResult id v).rules.get? other =
      if other = id then (e.rules.get? id).map fun r => { r with lastResult := some v }
      else e.rules.get? other := fun other => Rules.get?_update ..
  have hplan : (e.keepResult id v).plan = e.plan := by
    funext other
    refine plan_congr (fun _ => Iff.rfl) ?_
    rw [hget]
    split
    · next heq => rw [heq, Option.map_map]; rfl
    · rfl
  have hsize : (e.keepResult id v).rules.size = e.rules.size := Rules.size_update ..
  refine ⟨fun {key other} hkey => ?_, ?_⟩
  · obtain ⟨r, hr, hrkey⟩ := h.housed hkey
    rw [hget]
    split
    · next heq => exact ⟨{ r with lastResult := some v }, by rw [← heq, hr]; rfl, hrkey⟩
    · exact ⟨r, hr, hrkey⟩
  · rw [hplan, hsize]
    exact h.follows.congr rfl rfl

/-- **Every move keeps the registry in order.** -/
theorem Canonical.move (h : e.Canonical) {e' : Engine} (hmove : Move e e') : e'.Canonical := by
  cases hmove with
  | step hstep => exact h.step hstep
  | change name v => exact ⟨h.housed, h.follows.changed name v⟩
  | keepResult id v => exact h.keepResult id v
  | _ => exact h.congr rfl rfl rfl rfl

theorem Canonical.moves (h : e.Canonical) {e' : Engine} (hmoves : Moves e e') : e'.Canonical :=
  hmoves.keeps (fun h hmove => h.move hmove) h

end

/-- **A new engine is in order**: it has no keys, no symbols and no patterns. -/
theorem canonical_new (config : Config) : (Engine.new config).Canonical := by
  rw [new_eq]
  refine ⟨fun {key id} hkey => ?_, ⟨fun {name s} hs => ?_, rfl, fun {id d} hd _ => ?_⟩⟩
  · cases hkey
  · cases hs
  · obtain ⟨r, ⟨key, hkey, -⟩, -⟩ := mem_plan.mp hd
    cases hkey

end Engine

end Cascade
