import Cascade.Memory
import Cascade.Native.Builtin
import Cascade.Symbol
import Cascade.Trigger

/-!
# The state of the engine

The engine holds the symbols, the rules, and what connects them. A rule is subscribed to every symbol
that one of its dependencies covers. Names are symbols from the moment they are first spoken of, and a
symbol that comes to be later is subscribed by the rules with a matching pattern.

What happens is written to a journal: what the rules print and report, what goes wrong, the rules that
come and go, and the course of every cascade.

§1 settings; §2 the journal; §3 the state; §4 symbols; §5 functions; §6 memories and results.
-/

namespace Cascade

/-! ## §1 Settings -/

/-- **Settings of an engine.** -/
structure Config where
  /-- How many runs may nest in one cascade before further runs are refused; `none` is no limit. -/
  maxDepth : Option Nat
  /-- Are the built-in functions there? -/
  builtins : Bool
  /-- How many runs may nest where there is no limit, and how many calls of functions by functions,
  before the host is taken to be exhausted. -/
  room : Nat
  deriving DecidableEq, Repr, Inhabited

namespace Config

/-- **The standard settings.** -/
def standard : Config := ⟨some 64, true, 100000⟩

/-- How deep runs can nest at all. -/
def depths (c : Config) : Nat := c.maxDepth.getD c.room

end Config

/-! ## §2 The journal -/

/-- **Something that happened.** -/
inductive Event where
  /-- A line was printed. -/
  | printed (line : String)
  /-- A text was handed to the host. -/
  | reported (text : String)
  /-- A remark was logged. -/
  | noted (text : String)
  /-- A run that a change or a trigger had asked for failed. The key is empty if the rule is gone. -/
  | ruleFailed (key : String) (error : EvalError)
  /-- A line with a definition was rejected. -/
  | lineRejected (line : String) (error : DefineError)
  /-- A data line without a value was ignored. -/
  | lineIgnored (line : String)
  /-- A rule or the rule of a trigger was defined. -/
  | defined (id : RuleId)
  /-- A rule was removed. -/
  | removed (id : RuleId)
  /-- A symbol changed. -/
  | changed (name : String) (v : Value)
  /-- The evaluation of a rule's tree began. -/
  | began (id : RuleId)
  /-- The evaluation of a rule's tree was over, with or without a value. -/
  | ended (id : RuleId)
  /-- A run was refused because the cascade was too deep. -/
  | refused (id : RuleId)
  /-- A run found no room. -/
  | exhausted (id : RuleId)
  /-- A data line matched the trigger of a rule, which is about to run. -/
  | fired (id : RuleId)
  /-- The host or a native function asked for a run. -/
  | asked (id : RuleId)
  /-- A call of a function by a function found no room. -/
  | crowded (name : String)
  /-- An `edge_if` started a branch. -/
  | branched (node : NodeRef) (truth : Bool)
  /-- An `at` started its action. -/
  | acted (node : NodeRef) (watched : Value)
  deriving Inhabited

/-! ## §3 The state -/

/-- **An engine.** -/
structure Engine where
  config : Config
  symbols : Table Symbol
  rules : Rules
  /-- The rules with a key of their own. -/
  registry : Table RuleId
  /-- The patterns among the dependencies of those rules, in the order of subscription. -/
  wildcards : List (String × RuleId)
  functions : Table Registered
  triggers : List Trigger
  memories : Memories
  /-- How many runs are nested at the moment. -/
  depth : Nat
  /-- What has happened, the latest first. -/
  journal : List Event

namespace Engine

/-- Registers a function under a name, over the one there. -/
def register (name : String) (f : Native) (e : Engine) : Engine :=
  { e with functions := e.functions.insert name ⟨f, 0⟩ }

/-- Registers several functions. -/
def registerAll (fs : List (String × Native)) (e : Engine) : Engine :=
  fs.foldl (fun e f => e.register f.1 f.2) e

/-- An engine without functions. -/
def bare (config : Config) : Engine :=
  ⟨config, .empty, .empty, .empty, [], .empty, [], .empty, 0, []⟩

/-- **A new engine.** -/
def new (config : Config) : Engine :=
  if config.builtins then (bare config).registerAll Builtin.functions else bare config

/-- Writes to the journal. -/
def record (event : Event) (e : Engine) : Engine := { e with journal := event :: e.journal }

/-! ## §4 Symbols -/

/-- The rules with a pattern that covers a name, in the order of subscription. -/
def subscribers (e : Engine) (name : String) : List RuleId :=
  (e.wildcards.filter fun p => Glob.covers p.1 name).map Prod.snd

/-- **The symbol of a name**, as it is or as it comes to be when it is first spoken of. -/
def symbolOf (e : Engine) (name : String) : Symbol :=
  (e.symbols.get? name).getD (Symbol.fresh.observeAll (e.subscribers name))

/-- Makes a name a symbol if it is none yet. -/
def touch (name : String) (e : Engine) : Engine :=
  { e with symbols := e.symbols.insert name (e.symbolOf name) }

/-- The value of a symbol. -/
def value? (e : Engine) (name : String) : Option Value := (e.symbols.get? name).bind Symbol.value

/-- The rules that a symbol is observed by, in the order of subscription. -/
def observers (e : Engine) (name : String) : List RuleId :=
  match e.symbols.get? name with
  | none => []
  | some s => s.observers

/-- **Stores a value** under a name; says whether the symbol changed. No rule runs. -/
def store (name : String) (v : Value) (e : Engine) : Bool × Engine :=
  match (e.symbolOf name).replace v with
  | (_, false) => (false, e.touch name)
  | (s, true) => (true, { e with symbols := e.symbols.insert name s }.record (.changed name v))

/-- **The symbols that are set**, in the order of their names. -/
def bound (e : Engine) : List (String × Value) :=
  e.symbols.entries.filterMap fun p => p.2.value.map (p.1, ·)

/-- The set symbols that a pattern covers. -/
def boundBy (pattern : String) (e : Engine) : List (String × Value) :=
  e.bound.filter fun p => Glob.covers pattern p.1

/-- The values of the set symbols that a pattern covers, as a list value. -/
def valuesOf (pattern : String) (e : Engine) : Value := .list ((e.boundBy pattern).map Prod.snd)

/-! ## §5 Functions -/

/-- Counts a call of a function. -/
def countCall (name : String) (f : Registered) (e : Engine) : Engine :=
  { e with functions := e.functions.insert name { f with calls := f.calls + 1 } }

/-! ## §6 Memories and results -/

/-- An `edge_if` starts a branch and remembers the truth. -/
def branch (node : NodeRef) (truth : Bool) (e : Engine) : Engine :=
  { e with memories := e.memories.setTruth node truth }.record (.branched node truth)

/-- An `at` starts its action and remembers the value. -/
def act (node : NodeRef) (watched : Value) (e : Engine) : Engine :=
  { e with memories := e.memories.setSeen node watched }.record (.acted node watched)

/-- The rule registered under a key. -/
def ruleAt? (e : Engine) (key : String) : Option Rule :=
  (e.registry.get? key).bind e.rules.get?

/-- The key of a rule, empty if the rule is gone. -/
def keyOf (e : Engine) (id : RuleId) : String :=
  match e.rules.get? id with
  | none => ""
  | some r => r.key

/-- The limit that one more nested run would pass, if there is one. -/
def limitReached? (e : Engine) : Option Nat := e.config.maxDepth.filter (· ≤ e.depth)

/-- A run begins. -/
def enter (id : RuleId) (e : Engine) : Engine :=
  { e with depth := e.depth + 1 }.record (.began id)

/-- A run is over. -/
def leave (id : RuleId) (e : Engine) : Engine :=
  { e with depth := e.depth - 1 }.record (.ended id)

/-- Keeps the value of a run with its rule, unless the rule has been removed. -/
def keepResult (id : RuleId) (v : Value) (e : Engine) : Engine :=
  { e with rules := e.rules.update id fun r => { r with lastResult := some v } }

end Engine

end Cascade
