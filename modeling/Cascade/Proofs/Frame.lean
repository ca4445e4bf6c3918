import Cascade.Engine.Operations

/-!
# What the operations on an engine leave alone

Subscribing and unsubscribing touch nothing but observers and the list of patterns, and no value of a
symbol; values change by storing only.

§1 values; §2 storing; §3 subscribing; §4 installing and uninstalling; §5 the start.
-/

namespace Cascade

/-! ## §1 Values -/

@[simp] theorem Symbol.observeAll_value (ids : List RuleId) (s : Symbol) :
    (s.observeAll ids).value = s.value := by
  induction ids generalizing s with
  | nil => rfl
  | cons id ids ih =>
    rw [observeAll, List.foldl_cons, ← observeAll, ih, observe_value]

namespace Engine

@[simp] theorem symbolOf_value (e : Engine) (name : String) :
    (e.symbolOf name).value = e.value? name := by
  unfold symbolOf value?
  cases e.symbols.get? name with
  | none => simp [Symbol.fresh]
  | some s => rfl

/-- The value under a name once a symbol has been put there. -/
theorem value?_insert (e : Engine) (name other : String) (s : Symbol) :
    ({ e with symbols := e.symbols.insert name s } : Engine).value? other =
      if other = name then s.value else e.value? other := by
  simp only [value?, Table.get?_insert]
  split <;> rfl

@[simp] theorem value?_touch (e : Engine) (name other : String) :
    (e.touch name).value? other = e.value? other := by
  rw [touch, value?_insert, symbolOf_value]
  split
  · next h => rw [h]
  · rfl

/-- Changing observers alone changes no value. -/
theorem value?_mapValues (e : Engine) (f : String → Symbol → Symbol)
    (h : ∀ name s, (f name s).value = s.value) (name : String) :
    ({ e with symbols := e.symbols.mapValues f } : Engine).value? name = e.value? name := by
  simp only [value?, Table.get?_mapValues]
  cases e.symbols.get? name with
  | none => rfl
  | some s => exact h name s

/-! ## §2 Storing -/

/-- An engine in which a symbol has just changed. -/
def changed (name : String) (v : Value) (e : Engine) : Engine :=
  { e with symbols := e.symbols.insert name { e.symbolOf name with value := some v } }.record
    (.changed name v)

/-- **Storing a value** that the symbol has makes it a symbol at most; any other value is a change. -/
theorem store_eq (name : String) (v : Value) (e : Engine) :
    e.store name v =
      if (e.symbolOf name).holds v then (false, e.touch name) else (true, e.changed name v) := by
  by_cases h : (e.symbolOf name).holds v = true
  · simp only [store, Symbol.replace, if_pos h]
  · simp only [store, Symbol.replace, if_neg h]
    rfl

theorem value?_changed (e : Engine) (name other : String) (v : Value) :
    (e.changed name v).value? other = if other = name then some v else e.value? other :=
  value?_insert e name other _

/-- Putting in a symbol with the observers that it has or would have changes no observers. -/
theorem observers_symbolOf_insert {e : Engine} {name : String} {s : Symbol}
    (hs : s.observers = (e.symbolOf name).observers) (other : String) :
    (({ e with symbols := e.symbols.insert name s } : Engine).symbolOf other).observers =
      (e.symbolOf other).observers := by
  rw [symbolOf, Table.get?_insert]
  split
  · next heq => rw [Option.getD_some, hs, heq]
  · rfl

theorem observers_symbolOf_touch (e : Engine) (name other : String) :
    ((e.touch name).symbolOf other).observers = (e.symbolOf other).observers :=
  observers_symbolOf_insert rfl other

theorem observers_symbolOf_changed (e : Engine) (name other : String) (v : Value) :
    ((e.changed name v).symbolOf other).observers = (e.symbolOf other).observers :=
  observers_symbolOf_insert (s := { e.symbolOf name with value := some v }) rfl other

/-! ## §3 Subscribing -/

theorem subscribe_frame (id : RuleId) (d : String) (e : Engine) :
    e.subscribe id d =
      { e with
        symbols := (e.subscribe id d).symbols
        wildcards := (e.subscribe id d).wildcards } := by
  unfold subscribe
  split <;> rfl

theorem subscribeAll_frame (id : RuleId) (ds : List String) (e : Engine) :
    e.subscribeAll id ds =
      { e with
        symbols := (e.subscribeAll id ds).symbols
        wildcards := (e.subscribeAll id ds).wildcards } := by
  induction ds generalizing e with
  | nil => rfl
  | cons d ds ih =>
    rw [subscribeAll, List.foldl_cons, ← subscribeAll, ih, subscribe_frame]

theorem unsubscribeAll_frame (id : RuleId) (ds : List String) (e : Engine) :
    e.unsubscribeAll id ds = { e with symbols := (e.unsubscribeAll id ds).symbols } := by
  induction ds generalizing e with
  | nil => rfl
  | cons d ds ih =>
    rw [unsubscribeAll, List.foldl_cons, ← unsubscribeAll, ih]
    rfl

theorem value?_subscribe (id : RuleId) (d : String) (e : Engine) (name : String) :
    (e.subscribe id d).value? name = e.value? name := by
  unfold subscribe
  split
  · refine value?_mapValues e _ (fun other s => ?_) name
    split
    · exact Symbol.observe_value s id
    · rfl
  · rw [value?_insert, Symbol.observe_value, symbolOf_value]
    split
    · next h => rw [h]
    · rfl

theorem value?_subscribeAll (id : RuleId) (ds : List String) (e : Engine) (name : String) :
    (e.subscribeAll id ds).value? name = e.value? name := by
  induction ds generalizing e with
  | nil => rfl
  | cons d ds ih =>
    rw [subscribeAll, List.foldl_cons, ← subscribeAll, ih, value?_subscribe]

theorem value?_unsubscribeAll (id : RuleId) (ds : List String) (e : Engine) (name : String) :
    (e.unsubscribeAll id ds).value? name = e.value? name := by
  induction ds generalizing e with
  | nil => rfl
  | cons d ds ih =>
    rw [unsubscribeAll, List.foldl_cons, ← unsubscribeAll, ih]
    refine value?_mapValues e _ (fun other s => ?_) name
    split
    · exact Symbol.unobserve_value s id
    · rfl

/-! ## §4 Installing and uninstalling -/

section install

variable (r : Rule) (e : Engine)

/-- The engine in which a rule has a slot and a key but is not subscribed yet. -/
def housing : Engine :=
  { e with rules := e.rules.add r, registry := e.registry.insert r.key e.rules.nextId }

theorem install_eq :
    (e.install r).2 =
      record (.defined e.rules.nextId)
        ((housing r e).subscribeAll e.rules.nextId r.dependencies) := rfl

@[simp] theorem install_config : (e.install r).2.config = e.config := by
  rw [install_eq, subscribeAll_frame]; rfl

@[simp] theorem install_depth : (e.install r).2.depth = e.depth := by
  rw [install_eq, subscribeAll_frame]; rfl

@[simp] theorem install_functions : (e.install r).2.functions = e.functions := by
  rw [install_eq, subscribeAll_frame]; rfl

@[simp] theorem install_triggers : (e.install r).2.triggers = e.triggers := by
  rw [install_eq, subscribeAll_frame]; rfl

@[simp] theorem install_memories : (e.install r).2.memories = e.memories := by
  rw [install_eq, subscribeAll_frame]; rfl

@[simp] theorem install_rules : (e.install r).2.rules = e.rules.add r := by
  rw [install_eq, subscribeAll_frame]; rfl

@[simp] theorem install_registry :
    (e.install r).2.registry = e.registry.insert r.key e.rules.nextId := by
  rw [install_eq, subscribeAll_frame]; rfl

@[simp] theorem install_journal :
    (e.install r).2.journal = .defined e.rules.nextId :: e.journal := by
  rw [install_eq, subscribeAll_frame]; rfl

@[simp] theorem value?_install (name : String) : (e.install r).2.value? name = e.value? name :=
  value?_subscribeAll e.rules.nextId r.dependencies (housing r e) name

end install

section uninstall

variable (key : String) (id : RuleId) (e : Engine)

@[simp] theorem uninstall_config : (e.uninstall key id).config = e.config := by
  unfold uninstall
  split
  · rfl
  · rw [unsubscribeAll_frame]; rfl

@[simp] theorem uninstall_depth : (e.uninstall key id).depth = e.depth := by
  unfold uninstall
  split
  · rfl
  · rw [unsubscribeAll_frame]; rfl

@[simp] theorem uninstall_functions : (e.uninstall key id).functions = e.functions := by
  unfold uninstall
  split
  · rfl
  · rw [unsubscribeAll_frame]; rfl

@[simp] theorem uninstall_triggers : (e.uninstall key id).triggers = e.triggers := by
  unfold uninstall
  split
  · rfl
  · rw [unsubscribeAll_frame]; rfl

@[simp] theorem uninstall_memories : (e.uninstall key id).memories = e.memories := by
  unfold uninstall
  split
  · rfl
  · rw [unsubscribeAll_frame]; rfl

@[simp] theorem uninstall_registry : (e.uninstall key id).registry = e.registry.erase key := by
  unfold uninstall
  split
  · rfl
  · rw [unsubscribeAll_frame]; rfl

@[simp] theorem uninstall_wildcards :
    (e.uninstall key id).wildcards = e.wildcards.filter (·.2 != id) := by
  unfold uninstall
  split
  · rfl
  · rw [unsubscribeAll_frame]; rfl

@[simp] theorem size_uninstall : (e.uninstall key id).rules.size = e.rules.size := by
  unfold uninstall
  split
  · rfl
  · rw [unsubscribeAll_frame]
    exact Rules.size_remove e.rules id

@[simp] theorem get?_uninstall (other : RuleId) :
    (e.uninstall key id).rules.get? other = if other = id then none else e.rules.get? other := by
  unfold uninstall
  split
  · next h =>
    split
    · next heq => rw [heq]; exact h
    · rfl
  · rw [unsubscribeAll_frame]
    exact Rules.get?_remove e.rules id other

@[simp] theorem value?_uninstall (name : String) :
    (e.uninstall key id).value? name = e.value? name := by
  unfold uninstall
  split
  · rfl
  · exact value?_unsubscribeAll id _ _ name

theorem uninstall_journal :
    (e.uninstall key id).journal = e.journal ∨
      (e.uninstall key id).journal = .removed id :: e.journal := by
  unfold uninstall
  split
  · exact Or.inl rfl
  · rw [unsubscribeAll_frame]
    exact Or.inr rfl

end uninstall

/-! ## §5 The start -/

theorem registerAll_eq (fs : List (String × Native)) (e : Engine) :
    e.registerAll fs = { e with functions := (e.registerAll fs).functions } := by
  induction fs generalizing e with
  | nil => rfl
  | cons f fs ih =>
    rw [registerAll, List.foldl_cons, ← registerAll, ih]
    rfl

/-- **A new engine** has settings and functions and nothing else. -/
theorem new_eq (config : Config) :
    Engine.new config = { bare config with functions := (Engine.new config).functions } := by
  unfold new
  split
  · rw [registerAll_eq]
  · rfl

theorem config_new (config : Config) : (Engine.new config).config = config := by
  rw [new_eq]
  rfl

theorem journal_new (config : Config) : (Engine.new config).journal = [] := by
  rw [new_eq]
  rfl

/-- A function among those registered, or one that was there before. -/
theorem mem_of_registerAll {fs : List (String × Native)} {e : Engine} {name : String}
    {f : Registered} (h : (e.registerAll fs).functions.get? name = some f) :
    (name, f.function) ∈ fs ∨ e.functions.get? name = some f := by
  induction fs generalizing e with
  | nil => exact Or.inr h
  | cons p fs ih =>
    rcases ih h with hlater | hhere
    · exact Or.inl (List.mem_cons_of_mem _ hlater)
    · have hget : (e.functions.insert p.1 ⟨p.2, 0⟩).get? name = some f := hhere
      rw [Table.get?_insert] at hget
      split at hget
      · next heq =>
        cases hget
        rw [heq]
        exact Or.inl (List.mem_cons_self ..)
      · exact Or.inr hget

/-- **The functions of a new engine are built in.** -/
theorem mem_functions_of_new {config : Config} {name : String} {f : Registered}
    (h : (Engine.new config).functions.get? name = some f) :
    (name, f.function) ∈ Builtin.functions := by
  unfold new at h
  split at h
  · rcases mem_of_registerAll h with hmem | hbare
    · exact hmem
    · cases hbare
  · cases h

end Engine

/-- The next identity has no rule yet. -/
theorem Rules.get?_nextId (rs : Rules) : rs.get? rs.nextId = none :=
  get?_of_size_le (Nat.le_refl _)

/-- A rule that is there has an identity that has been handed out. -/
theorem Rules.slot_lt {rs : Rules} {id : RuleId} {r : Rule} (h : rs.get? id = some r) :
    id.slot < rs.size := by
  refine Nat.lt_of_not_le fun hout => ?_
  rw [get?_of_size_le hout] at h
  cases h

/-- A rule that has just been read has its key and has not run. -/
theorem Rule.key_of_compile {key source : String} {r : Rule}
    (h : Rule.compile key source = .ok r) : r.key = key ∧ r.lastResult = none := by
  unfold compile at h
  split at h
  · cases h
  · cases h; exact ⟨rfl, rfl⟩

end Cascade
