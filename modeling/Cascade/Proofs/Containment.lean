import Cascade.Proofs.Causation
import Cascade.Proofs.LastChange

/-!
# How far a cascade can reach

The rules that a cascade can run are found without running it: those that are notified of the symbol
that is set, those that are notified of what the trees of these assign to, in whatever branch, and so
on. Whatever else happens, symbols that come to be in between, rules that read what they do not
declare, failures and refusals, no other rule runs and no other symbol changes.

§1 rules that feed rules; §2 the reach of a symbol; §3 a cascade stays within its reach.
-/

namespace Cascade

namespace Engine

/-! ## §1 Rules that feed rules -/

/-- **A registered rule feeds another** if its tree assigns, in any branch, to a symbol that the other
is notified of. -/
def Feeds (e : Engine) (p q : RuleId) : Prop :=
  ∃ r, e.Registered p r ∧ ∃ name ∈ r.body.targets, q ∈ e.notified name

/-- Whoever is notified is registered. -/
theorem registered_of_mem_notified {e : Engine} {name : String} {id : RuleId}
    (h : id ∈ e.notified name) : ∃ r, e.Registered id r := by
  obtain ⟨-, r, hr, -⟩ := mem_notified.mp h
  exact ⟨r, hr⟩

/-- A registered rule may set what its tree assigns to. -/
theorem feeds_of_maySet {e : Engine} {o : Origin} {p q : RuleId} {stack : List RuleId}
    {name : String} (hp : ∃ r, e.Registered p r) (hset : e.MaySet o (p :: stack) name)
    (hq : q ∈ e.notified name) : e.Feeds p q := by
  obtain ⟨r, hr⟩ := hp
  obtain ⟨r', hr', hname⟩ := hset
  have hsame : r = r' := by
    obtain ⟨_, -, hget⟩ := hr
    rw [hget] at hr'
    exact Option.some.inj hr'
  exact ⟨r, hr, name, hsame ▸ hname, hq⟩

/-! ## §2 The reach of a symbol -/

/-- **The rules that a change of a symbol can reach**: the least set that has every rule notified of
the symbol and every rule fed by one that it has. -/
inductive Reached (e : Engine) (name : String) : RuleId → Prop
  | told {id : RuleId} : id ∈ e.notified name → Reached e name id
  | fed {p q : RuleId} : Reached e name p → e.Feeds p q → Reached e name q

/-- What may change when a symbol is set: that symbol, `%`, and what the rules in reach assign to. -/
def MayChange (e : Engine) (name other : String) : Prop :=
  other = name ∨ other = Symbol.lastChanged ∨
    ∃ id r, e.Reached name id ∧ e.Registered id r ∧ other ∈ r.body.targets

theorem Reached.registered {e : Engine} {name : String} {id : RuleId} (h : e.Reached name id) :
    ∃ r, e.Registered id r := by
  cases h with
  | told hid => exact registered_of_mem_notified hid
  | fed _ hfeeds =>
    obtain ⟨-, -, _, -, hid⟩ := hfeeds
    exact registered_of_mem_notified hid

section reach

variable {e : Engine} {name : String} {levels : Nat} {stack : List RuleId}

/-- What is started by rules in reach is in reach. -/
theorem Reached.of_mayStart (hstack : ∀ p ∈ stack, e.Reached name p) {id : RuleId}
    (h : e.MayStart ⟨(· = name), fun _ => False, levels⟩ stack id) : e.Reached name id := by
  rcases h with ⟨other, hset, hid⟩ | ⟨-, hnone⟩
  · cases stack with
    | nil =>
      have heq : other = name := hset
      exact .told (heq ▸ hid)
    | cons p stack =>
      have hp : e.Reached name p := hstack p (List.mem_cons_self ..)
      exact .fed hp (feeds_of_maySet hp.registered hset hid)
  · exact hnone.elim

/-- **The running rules are in reach**, however the cascade has come to them. -/
theorem Chained.reached (h : e.Chained ⟨(· = name), fun _ => False, levels⟩ stack) :
    ∀ id ∈ stack, e.Reached name id := by
  induction h with
  | nil => nofun
  | @cons id stack hstart _ ih =>
    intro other hother
    rcases List.mem_cons.mp hother with rfl | hother
    · exact .of_mayStart ih hstart
    · exact ih other hother

theorem MayChange.of_maySet (hstack : ∀ p ∈ stack, e.Reached name p) {other : String}
    (h : e.MaySet ⟨(· = name), fun _ => False, levels⟩ stack other) : e.MayChange name other := by
  cases stack with
  | nil => exact .inl h
  | cons p stack =>
    have hp : e.Reached name p := hstack p (List.mem_cons_self ..)
    obtain ⟨r, hr⟩ := hp.registered
    obtain ⟨r', hr', hother⟩ := h
    obtain ⟨key, hkey, hget⟩ := hr
    rw [hget] at hr'
    cases hr'
    exact .inr (.inr ⟨p, r, hp, ⟨key, hkey, hget⟩, hother⟩)

end reach

end Engine

open Engine

/-! ## §3 A cascade stays within its reach -/

/-- A symbol that is not told to change has the value that it had. -/
theorem valueTold_append {name : String} {new : List Event} (h : ∀ v, .changed name v ∉ new)
    (old : List Event) : valueTold name (new ++ old) = valueTold name old := by
  have hnone : new.findSome? (Event.given? name) = none := by
    rw [List.findSome?_eq_none_iff]
    intro event hevent
    cases event with
    | changed other v =>
      have hne : other ≠ name := by
        rintro rfl
        exact h v hevent
      exact if_neg hne
    | _ => rfl
  unfold valueTold
  rw [List.findSome?_append, hnone]
  rfl

/-- **What a set of a symbol has left alone.** -/
structure Engine.Contained (name : String) (e e' : Engine) : Prop where
  /-- No registration, subscription, trigger or function has changed. -/
  rules : SameRules e e'
  /-- No value has changed out of reach. -/
  values : ∀ other, ¬ e.MayChange name other → e'.value? other = e.value? other
  /-- No rule out of reach has another result or other memories. -/
  unmoved : ∀ id, ¬ e.Reached name id → Unmoved id e e'
  /-- On the way no rule out of reach was attempted and no symbol out of reach changed. -/
  way : ∃ new, e'.journal = new ++ e.journal ∧
    (∀ id, .began id ∈ new ∨ .refused id ∈ new → e.Reached name id) ∧
    ∀ other v, .changed other v ∈ new → e.MayChange name other

/-- **A traced cascade is contained.** -/
theorem Engine.Traced.contained {e e' : Engine} {name : String} {levels : Nat} (htold : e.Told)
    (htold' : e'.Told) (h : Traced e ⟨(· = name), fun _ => False, levels⟩ [] e') :
    Contained name e e' := by
  obtain ⟨new, hnew, -, hjustified, hunmoved⟩ := h.told
  have hreached : ∀ {journal}, journal <:+ new → ∀ id ∈ running journal, e.Reached name id :=
    fun hjournal => (hjustified.of_suffix hjournal).chained.reached
  have hchange : ∀ other v, .changed other v ∈ new → e.MayChange name other := by
    intro other v hmem
    obtain ⟨before, hsuffix, hdue⟩ := hjustified.due hmem
    rcases hdue with rfl | hset
    · exact .inr (.inl rfl)
    · exact .of_maySet (hreached ((List.suffix_cons _ _).trans hsuffix)) hset
  have hattempt : ∀ id, .began id ∈ new ∨ .refused id ∈ new → e.Reached name id := by
    rintro id (hmem | hmem)
    · obtain ⟨before, hsuffix, hdue⟩ := hjustified.due hmem
      exact .of_mayStart (hreached ((List.suffix_cons _ _).trans hsuffix)) hdue
    · obtain ⟨before, hsuffix, hdue, -⟩ := hjustified.due hmem
      exact .of_mayStart (hreached ((List.suffix_cons _ _).trans hsuffix)) hdue
  refine ⟨h.rules, fun other hother => ?_, fun id hid => ?_, new, hnew, hattempt, hchange⟩
  · rw [htold' other, htold other, hnew]
    exact valueTold_append (fun v hmem => hother (hchange other v hmem)) e.journal
  · exact hunmoved id fun hmem => hid (hattempt id (.inl hmem))

/-- **A cascade stays within its reach.** At every moment of every history at which only built-in
functions can be called, setting a symbol changes no value but those of this symbol, of `%` and of what
the rules in reach assign to; it runs no rule out of reach and leaves its last result and its memories
as they were; and it changes no registration. This is so whatever room there is for nested runs. -/
theorem cascade_contained {config : Config} {ops : List Operation} {e : Engine}
    (h : Moves (history config ops) e) (hbuiltin : e.BuiltinsOnly) (name : String) (v : Value) :
    Contained name e ((Engine.set name v).run e).2 ∧
      ∀ levels, Contained name e (((runner levels).set name v).run e).2 := by
  have hstart : Moves (Engine.new config) e := (course_history config ops).moves.trans h
  have hcanonical : e.Canonical := (canonical_new config).moves hstart
  have hall : ∀ levels, Contained name e (((runner levels).set name v).run e).2 := by
    intro levels
    have hcourse : Course .free e (((runner levels).set name v).run e).2 :=
      (((courses_runner levels).agree hcanonical).set name v .rest).2
    have htold : e.Told := Moves.told hstart
    have htold' : (((runner levels).set name v).run e).2.Told :=
      Moves.told (hstart.trans hcourse.moves)
    have htraced : Traced e ⟨(· = name), fun _ => False, levels⟩ []
        (((runner levels).set name v).run e).2 := .of_set hbuiltin hcanonical rfl v
    exact htraced.contained htold htold'
  exact ⟨hall e.config.depths, hall⟩

/-- A rule that only reads a symbol assigns to nothing. -/
theorem targets_of_copy {id : RuleId} {r : Rule}
    (h : (history .standard [.define "copy" "a"]).rules.get? id = some r) : r.body.targets = [] := by
  have hrules : (history .standard [.define "copy" "a"]).rules =
      ⟨#[some ⟨"copy", "a", .var "a", none⟩]⟩ := rfl
  rw [hrules] at h
  have hslot : id.slot = 0 := by
    have hlt : id.slot < 1 := Rules.slot_lt h
    omega
  have hrule : r = ⟨"copy", "a", .var "a", none⟩ := by
    simpa [Rules.get?, hslot] using h.symm
  rw [hrule]
  rfl

/-- Where the only rule assigns to nothing, nothing else changes when a symbol does. -/
theorem copy_contained :
    Contained "a" (history .standard [.define "copy" "a"])
        ((Engine.set "a" (.int 1)).run (history .standard [.define "copy" "a"])).2 ∧
      ((Engine.set "a" (.int 1)).run (history .standard [.define "copy" "a"])).2.value? "b" =
        (history .standard [.define "copy" "a"]).value? "b" := by
  have hmoment : Moves (history .standard [.define "copy" "a"]) _ := .refl
  have hnew : (Engine.new .standard).BuiltinsOnly := fun _ _ => mem_functions_of_new
  have hbuiltin : (history .standard [.define "copy" "a"]).BuiltinsOnly := hnew
  have hcontained := (cascade_contained hmoment hbuiltin "a" (.int 1)).1
  refine ⟨hcontained, hcontained.values "b" ?_⟩
  rintro (hname | hlast | ⟨id, r, -, ⟨key, -, hr⟩, htarget⟩)
  · exact absurd hname (by decide)
  · exact absurd hlast (by decide)
  · rw [targets_of_copy hr] at htarget
    cases htarget

end Cascade
