import Cascade.Proofs.Identity
import Cascade.Proofs.Notification
import Mathlib.Logic.Basic

/-!
# Whose rule it is

A rule sits in a slot, and something has to lead there: a key, if it was defined under one, or the
trigger that it was defined for. Keys, triggers, observers and patterns are written separately, in the
midst of cascades too, and yet no rule is ever without an owner, and none has two.

What is kept track of is the key that a rule knows itself. A key leads to a rule that knows it, so no
two keys lead to the same one; a trigger leads to a rule that knows the trigger's pattern.

§1 owners; §2 every move keeps them; §3 what owners entail; §4 at every moment.
-/

namespace Cascade

namespace Engine

/-! ## §1 Owners -/

/-- The key that the rule of an identity knows, if there is a rule. -/
def knownKey? (e : Engine) (id : RuleId) : Option String := (e.rules.get? id).map Rule.key

/-- **Every rule has an owner**, and keys and triggers own rules that know them. -/
structure Owned (e : Engine) : Prop where
  keyed : ∀ {key id}, e.registry.get? key = some id → e.knownKey? id = some key
  armed : ∀ {t}, t ∈ e.triggers → e.knownKey? t.rule = some (triggerKey t.pattern.source)
  ascending : e.triggers.Pairwise fun a b => a.rule.slot < b.rule.slot
  apart : ∀ {t key}, t ∈ e.triggers → e.registry.get? key ≠ some t.rule
  owner : ∀ {id}, (e.knownKey? id).isSome = true →
    (∃ key, e.registry.get? key = some id) ∨ ∃ t ∈ e.triggers, t.rule = id

variable {e e' : Engine}

theorem slot_lt_of_knownKey? {id : RuleId} {key : String} (h : e.knownKey? id = some key) :
    id.slot < e.rules.size := by
  obtain ⟨r, hr, -⟩ := Option.map_eq_some_iff.mp h
  exact Rules.slot_lt hr

theorem knownKey?_nextId (e : Engine) : e.knownKey? e.rules.nextId = none := by
  rw [knownKey?, Rules.get?_nextId]
  rfl

/-- An identity with a rule is not the next one. -/
theorem ne_nextId {id : RuleId} {key : String} (h : e.knownKey? id = some key) :
    id ≠ e.rules.nextId := by
  rintro rfl
  rw [knownKey?_nextId] at h
  cases h

/-- No trigger leads to the identity that comes next. -/
theorem Owned.rule_lt (h : e.Owned) {t : Trigger} (ht : t ∈ e.triggers) :
    t.rule.slot < e.rules.size :=
  slot_lt_of_knownKey? (h.armed ht)

/-! ## §2 Every move keeps them -/

/-- What leaves keys, triggers and known keys as they are needs no care. -/
theorem Owned.congr (h : e.Owned) (hkeys : e'.registry = e.registry)
    (htriggers : e'.triggers = e.triggers) (hknown : ∀ id, e'.knownKey? id = e.knownKey? id) :
    e'.Owned where
  keyed hkey := by
    rw [hknown]
    exact h.keyed (hkeys ▸ hkey)
  armed ht := by
    rw [hknown]
    exact h.armed (htriggers ▸ ht)
  ascending := htriggers ▸ h.ascending
  apart ht := by
    rw [hkeys]
    exact h.apart (htriggers ▸ ht)
  owner hid := by
    rw [hkeys, htriggers]
    exact h.owner (hknown _ ▸ hid)

theorem knownKey?_add {r : Rule} (hrules : e'.rules = e.rules.add r) (id : RuleId) :
    e'.knownKey? id = if id = e.rules.nextId then some r.key else e.knownKey? id := by
  rw [knownKey?, hrules, Rules.get?_add]
  split
  · rfl
  · rfl

theorem knownKey?_uninstall (key : String) (id other : RuleId) (e : Engine) :
    (e.uninstall key id).knownKey? other = if other = id then none else e.knownKey? other := by
  rw [knownKey?, get?_uninstall]
  split
  · rfl
  · rfl

/-- A rule under a free key is owned by that key. -/
theorem Owned.install (h : e.Owned) {r : Rule} (hfree : e.registry.get? r.key = none) :
    (e.install r).2.Owned := by
  have hknown := knownKey?_add (install_rules r e)
  have hkeys : ∀ key, (e.install r).2.registry.get? key =
      if key = r.key then some e.rules.nextId else e.registry.get? key := by
    intro key
    rw [install_registry, Table.get?_insert]
  -- the triggers there are do not lead to the new slot
  have hold : ∀ {t}, t ∈ (e.install r).2.triggers → t ∈ e.triggers ∧ t.rule ≠ e.rules.nextId := by
    intro t ht
    rw [install_triggers] at ht
    exact ⟨ht, ne_nextId (h.armed ht)⟩
  refine ⟨fun {key id} hkey => ?_, fun {t} ht => ?_, ?_, fun {t key} ht hkey => ?_, fun {id} hid => ?_⟩
  · rw [hkeys] at hkey
    rw [hknown]
    split at hkey
    · next heq =>
      cases hkey
      rw [if_pos rfl, heq]
    · rw [if_neg (ne_nextId (h.keyed hkey))]
      exact h.keyed hkey
  · obtain ⟨ht, hne⟩ := hold ht
    rw [hknown, if_neg hne]
    exact h.armed ht
  · rw [install_triggers]
    exact h.ascending
  · obtain ⟨ht, hne⟩ := hold ht
    rw [hkeys] at hkey
    split at hkey
    · exact hne (Option.some.inj hkey).symm
    · exact h.apart ht hkey
  · by_cases hnew : id = e.rules.nextId
    · exact Or.inl ⟨r.key, by rw [hkeys, if_pos rfl, hnew]⟩
    · rw [hknown, if_neg hnew] at hid
      rcases h.owner hid with ⟨key, hkey⟩ | ⟨t, ht, hrule⟩
      · have hne : key ≠ r.key := by
          rintro rfl
          rw [hfree] at hkey
          cases hkey
        exact Or.inl ⟨key, by rw [hkeys, if_neg hne, hkey]⟩
      · exact Or.inr ⟨t, by rw [install_triggers]; exact ht, hrule⟩

/-- A key is taken away together with the rule that it owns. -/
theorem Owned.uninstall (h : e.Owned) {key : String} {id : RuleId}
    (hkey : e.registry.get? key = some id) : (e.uninstall key id).Owned := by
  have hknown := knownKey?_uninstall key id
  have hkeys : ∀ other, (e.uninstall key id).registry.get? other =
      if other = key then none else e.registry.get? other := by
    intro other
    rw [uninstall_registry, Table.get?_erase]
  have hold : ∀ {t}, t ∈ (e.uninstall key id).triggers → t ∈ e.triggers ∧ t.rule ≠ id := by
    intro t ht
    rw [uninstall_triggers] at ht
    exact ⟨ht, fun heq => h.apart ht (heq ▸ hkey)⟩
  refine ⟨fun {other id'} hother => ?_, fun {t} ht => ?_, ?_, fun {t other} ht hother => ?_,
    fun {id'} hid => ?_⟩
  · rw [hkeys] at hother
    split at hother
    · cases hother
    · next hne =>
      -- the rule that goes knows its key, so it is not the rule of another
      have hid : id' ≠ id := by
        rintro rfl
        have hsame := (h.keyed hother).symm.trans (h.keyed hkey)
        exact hne (Option.some.inj hsame)
      rw [hknown, if_neg hid]
      exact h.keyed hother
  · obtain ⟨ht, hne⟩ := hold ht
    rw [hknown, if_neg hne]
    exact h.armed ht
  · rw [uninstall_triggers]
    exact h.ascending
  · obtain ⟨ht, -⟩ := hold ht
    rw [hkeys] at hother
    split at hother
    · cases hother
    · exact h.apart ht hother
  · rw [hknown] at hid
    split at hid
    · cases hid
    · next hne =>
      rcases h.owner hid with ⟨other, hother⟩ | ⟨t, ht, hrule⟩
      · have hkey' : other ≠ key := by
          rintro rfl
          rw [hkey] at hother
          cases hother
          exact hne rfl
        exact Or.inl ⟨other, by rw [hkeys, if_neg hkey', hother]⟩
      · exact Or.inr ⟨t, by rw [uninstall_triggers]; exact ht, hrule⟩

/-- A trigger comes together with the rule that it owns. -/
theorem Owned.addTrigger (h : e.Owned) {r : Rule} {p : Pattern}
    (hkey : r.key = triggerKey p.source) (hkeys : e'.registry = e.registry)
    (hrules : e'.rules = e.rules.add r)
    (htriggers : e'.triggers = e.triggers ++ [⟨p, e.rules.nextId⟩]) : e'.Owned := by
  have hknown := knownKey?_add hrules
  have hmem : ∀ {t}, t ∈ e'.triggers ↔ t ∈ e.triggers ∨ t = ⟨p, e.rules.nextId⟩ := by
    intro t
    rw [htriggers, List.mem_append, List.mem_singleton]
  refine ⟨fun {key id} hid => ?_, fun {t} ht => ?_, ?_, fun {t key} ht hid => ?_, fun {id} hid => ?_⟩
  · rw [hkeys] at hid
    rw [hknown, if_neg (ne_nextId (h.keyed hid))]
    exact h.keyed hid
  · rw [hknown]
    rcases hmem.mp ht with ht | rfl
    · rw [if_neg (ne_nextId (h.armed ht))]
      exact h.armed ht
    · rw [if_pos rfl, hkey]
  · rw [htriggers]
    refine List.pairwise_append.mpr ⟨h.ascending, List.pairwise_singleton .., ?_⟩
    intro t ht last hlast
    rw [List.mem_singleton.mp hlast]
    exact h.rule_lt ht
  · rw [hkeys] at hid
    rcases hmem.mp ht with ht | rfl
    · exact h.apart ht hid
    · exact ne_nextId (h.keyed hid) rfl
  · by_cases hnew : id = e.rules.nextId
    · exact Or.inr ⟨_, hmem.mpr (Or.inr rfl), hnew.symm⟩
    · rw [hknown, if_neg hnew] at hid
      rcases h.owner hid with ⟨key, hid⟩ | ⟨t, ht, hrule⟩
      · exact Or.inl ⟨key, hkeys ▸ hid⟩
      · exact Or.inr ⟨t, hmem.mpr (Or.inl ht), hrule⟩

theorem Owned.step (h : e.Owned) (hstep : Step e e') : e'.Owned := by
  cases hstep with
  | install _ hread hfree => exact h.install ((Rule.key_of_compile hread).1 ▸ hfree)
  | uninstall hkey => exact h.uninstall hkey
  | addTrigger hread hpattern =>
    have hkey := (Rule.key_of_compile hread).1
    rw [← Pattern.source_of_compile hpattern] at hkey
    exact h.addTrigger hkey rfl rfl rfl
  | discard r =>
    -- the slot is empty as it was
    refine h.congr rfl rfl fun id => ?_
    rw [knownKey?, Rules.get?_remove]
    split
    · next hid => rw [hid, knownKey?_nextId]; rfl
    · next hid => rw [Rules.get?_add, if_neg hid, knownKey?]
  | _ => exact h.congr rfl rfl fun _ => rfl

/-- **Every move keeps the owners.** -/
theorem Owned.move (h : e.Owned) (hmove : Move e e') : e'.Owned := by
  cases hmove with
  | step hstep => exact h.step hstep
  | keepResult id v =>
    refine h.congr rfl rfl fun other => ?_
    rw [knownKey?, keepResult, Rules.get?_update]
    split
    · next heq => rw [heq, Option.map_map]; rfl
    · rfl
  | _ => exact h.congr rfl rfl fun _ => rfl

theorem owned_new (config : Config) : (Engine.new config).Owned := by
  rw [new_eq]
  refine ⟨?_, ?_, .nil, ?_, ?_⟩
  · rintro key id hkey
    cases hkey
  · rintro t ht
    cases ht
  · rintro t key ht
    cases ht
  · rintro id hid
    cases hid

/-! ## §3 What owners entail -/

/-- **Keys and triggers share out the rules among themselves.** -/
structure Ownership (e : Engine) : Prop where
  /-- A key leads to a rule that has it. -/
  keyed : ∀ {key id}, e.registry.get? key = some id → ∃ r, e.rules.get? id = some r ∧ r.key = key
  /-- No two keys lead to the same rule. -/
  injective : ∀ {key other id}, e.registry.get? key = some id → e.registry.get? other = some id →
    key = other
  /-- A trigger leads to a rule that has the trigger's pattern between slashes as its key. -/
  armed : ∀ {t}, t ∈ e.triggers →
    ∃ r, e.rules.get? t.rule = some r ∧ r.key = "/" ++ t.pattern.source ++ "/"
  /-- Triggers are tried in the order of their identities, which differ. -/
  ascending : e.triggers.Pairwise fun a b => a.rule.slot < b.rule.slot
  /-- No key leads to the rule of a trigger. -/
  apart : ∀ {t key}, t ∈ e.triggers → e.registry.get? key ≠ some t.rule
  /-- No symbol is observed by the rule of a trigger. -/
  unobserved : ∀ {t name s}, t ∈ e.triggers → e.symbols.get? name = some s → t.rule ∉ s.observers
  /-- No pattern is kept for the rule of a trigger. -/
  unlisted : ∀ {t d}, t ∈ e.triggers → (d, t.rule) ∉ e.wildcards
  /-- A rule has one key that leads to it or one trigger, and not both. -/
  one : ∀ {id r}, e.rules.get? id = some r →
    Xor (∃! key, e.registry.get? key = some id) (∃! t, t ∈ e.triggers ∧ t.rule = id)

theorem exists_of_knownKey? {id : RuleId} {key : String} (h : e.knownKey? id = some key) :
    ∃ r, e.rules.get? id = some r ∧ r.key = key :=
  Option.map_eq_some_iff.mp h

theorem Owned.injective (h : e.Owned) {key other : String} {id : RuleId}
    (hkey : e.registry.get? key = some id) (hother : e.registry.get? other = some id) :
    key = other :=
  Option.some.inj ((h.keyed hkey).symm.trans (h.keyed hother))

/-- Two triggers with the same rule are the same. -/
theorem Owned.trigger_eq (h : e.Owned) {s t : Trigger} (hs : s ∈ e.triggers) (ht : t ∈ e.triggers)
    (hrule : s.rule = t.rule) : s = t := by
  have hnodup : (e.triggers.map Trigger.rule).Nodup := by
    refine List.pairwise_map.mpr (h.ascending.imp fun hlt heq => ?_)
    rw [heq] at hlt
    exact Nat.lt_irrefl _ hlt
  exact List.inj_on_of_nodup_map hnodup hs ht hrule

/-- **In an engine in order whose rules have owners, keys and triggers share out the rules.** -/
theorem Owned.ownership (h : e.Owned) (hcanonical : e.Canonical) : e.Ownership where
  keyed hkey := exists_of_knownKey? (h.keyed hkey)
  injective := h.injective
  armed ht := exists_of_knownKey? (h.armed ht)
  ascending := h.ascending
  apart := h.apart
  unobserved ht hs hmem := by
    -- only registered rules observe
    obtain ⟨_, ⟨key, hkey, -⟩, -⟩ := (hcanonical.subscribed.observers hs _).mp hmem
    exact h.apart ht hkey
  unlisted ht hmem := by
    obtain ⟨_, ⟨key, hkey, -⟩, -⟩ := (hcanonical.subscribed.wildcards _ _).mp hmem
    exact h.apart ht hkey
  one {id r} hr := by
    have hknown : (e.knownKey? id).isSome = true := by
      rw [knownKey?, hr]
      rfl
    rcases h.owner hknown with ⟨key, hkey⟩ | ⟨t, ht, rfl⟩
    · refine Or.inl ⟨⟨key, hkey, fun other hother => h.injective hother hkey⟩, ?_⟩
      rintro ⟨t, ⟨ht, rfl⟩, -⟩
      exact h.apart ht hkey
    · refine Or.inr ⟨⟨t, ⟨ht, rfl⟩, fun s hs => h.trigger_eq hs.1 ht hs.2⟩, ?_⟩
      rintro ⟨key, hkey, -⟩
      exact h.apart ht hkey

/-- Quiet steps add triggers behind the others and take none away. -/
theorem Step.triggers (h : Step e e') : e.triggers <+: e'.triggers := by
  cases h with
  | install => exact install_triggers _ e ▸ List.prefix_rfl
  | uninstall => exact uninstall_triggers _ _ e ▸ List.prefix_rfl
  | addTrigger => exact List.prefix_append ..
  | _ => exact List.prefix_rfl

theorem Moves.triggers (h : Moves e e') : e.triggers <+: e'.triggers := by
  refine h.keeps (S := fun x => e.triggers <+: x.triggers) (fun h hmove => ?_) List.prefix_rfl
  cases hmove with
  | step hstep => exact h.trans hstep.triggers
  | _ => exact h

/-- A removal under a key that a rule has succeeds and makes the key free. -/
theorem remove_eq {key : String} {id : RuleId} (h : e.registry.get? key = some id) :
    e.remove key = (.ok (), e.free key) := by
  simp only [remove, free, h]

/-- A definition that can be read frees its key first and is then installed. -/
theorem define_eq {key source : String} {r : Rule} (hkey : key ≠ "")
    (hread : Rule.compile key source = .ok r) (e : Engine) :
    e.define key source = (.ok (e.free key).rules.nextId, ((e.free key).install r).2) := by
  rw [define, if_neg hkey]
  simp only [hread]
  rfl

end Engine

/-! ## §4 At every moment -/

open Engine

/-- **At every moment of every history keys and triggers share out the rules.** So a definition that
can be read is never held up by the removal of the rule that it replaces, and whatever happens later,
a trigger that has been defined stays and keeps its rule. -/
theorem rules_have_one_owner {config : Config} {ops : List Operation} {e : Engine}
    (h : Moves (history config ops) e) :
    e.Ownership ∧
      (∀ {key source r}, key ≠ "" → Rule.compile key source = .ok r →
        (∀ {old}, e.registry.get? key = some old →
          e.remove key = (.ok (), e.free key) ∧ (e.rules.get? old).isSome = true ∧
            (e.free key).rules.get? old = none) ∧
        e.define key source = (.ok e.rules.nextId, ((e.free key).install r).2)) ∧
      ∀ {e'}, Moves e e' → e.triggers <+: e'.triggers ∧ ∀ t ∈ e.triggers, ∃ r r',
        e.rules.get? t.rule = some r ∧ e'.rules.get? t.rule = some r' ∧
          r'.key = r.key ∧ r'.body = r.body := by
  have hmoves : Moves (Engine.new config) e := (course_history config ops).moves.trans h
  have howned : ∀ {x}, Moves (Engine.new config) x → x.Owned := fun hx =>
    hx.keeps (fun h hmove => h.move hmove) (owned_new config)
  refine ⟨(howned hmoves).ownership ((canonical_history config ops).moves h), ?_, ?_⟩
  · intro key source r hkey hread
    constructor
    · intro old hold
      obtain ⟨rule, hrule, -⟩ := exists_of_knownKey? ((howned hmoves).keyed hold)
      refine ⟨remove_eq hold, by rw [hrule]; rfl, ?_⟩
      simp only [free, hold, get?_uninstall, if_pos]
    · have hnext : (e.free key).rules.nextId = e.rules.nextId := by
        unfold free
        split
        · rfl
        · rw [Rules.nextId, size_uninstall, Rules.nextId]
      rw [define_eq hkey hread, hnext]
  · intro e' hlater
    refine ⟨hlater.triggers, fun t ht => ?_⟩
    obtain ⟨r, hr, hkey⟩ := exists_of_knownKey? ((howned hmoves).armed ht)
    have ht' : t ∈ e'.triggers := hlater.triggers.subset ht
    obtain ⟨r', hr', hkey'⟩ := exists_of_knownKey? ((howned (hmoves.trans hlater)).armed ht')
    exact ⟨r, r', hr, hr', hkey'.trans hkey.symm, (hlater.body_eq hr hr').symm⟩

/-- A key and a trigger have a rule each, and the trigger keeps its rule when the key is redefined. -/
theorem key_and_trigger_own :
    (history .standard [.define "copy" "a", .defineTrigger "go" "b"]).Ownership ∧
      ((history .standard [.define "copy" "a", .defineTrigger "go" "b"]).define "copy" "c").1 =
        .ok ⟨2⟩ ∧
      ∃ t ∈ (history .standard [.define "copy" "a", .defineTrigger "go" "b"]).triggers,
        ∃ r, ((history .standard [.define "copy" "a", .defineTrigger "go" "b"]).define
          "copy" "c").2.rules.get? t.rule = some r ∧ r.key = "/go/" := by
  have hmoment : Moves (history .standard [.define "copy" "a", .defineTrigger "go" "b"]) _ := .refl
  obtain ⟨hown, hdefine, hlater⟩ := rules_have_one_owner hmoment
  have hredefined := hdefine (by decide : "copy" ≠ "") (rfl : Rule.compile "copy" "c" = .ok _)
  have hmoves := (plains_define "copy" "c"
    (history .standard [.define "copy" "a", .defineTrigger "go" "b"])).moves
  refine ⟨hown, congrArg Prod.fst hredefined.2, _, List.mem_singleton_self _, ?_⟩
  obtain ⟨r, r', hr, hr', hkey, -⟩ := (hlater hmoves).2 _ (List.mem_singleton_self _)
  refine ⟨r', hr', hkey.trans ?_⟩
  cases hr
  rfl

end Cascade
