import Cascade.Engine

/-!
# Defining and removing

A rule is defined under a key, in place of the rule there, or as the action of a trigger. A definition
that is rejected leaves everything as it was, but that a trigger with a refused pattern uses up an
identity.

§1 subscribing and unsubscribing; §2 rules with keys; §3 triggers.
-/

namespace Cascade.Engine

/-! ## §1 Subscribing -/

/-- **Subscribes a rule to what one dependency covers.** A pattern covers the symbols there are, and is
kept for those that come to be later; a plain name becomes a symbol. -/
def subscribe (id : RuleId) (dependency : String) (e : Engine) : Engine :=
  if Glob.hasWildcard dependency then
    { e with
      symbols := e.symbols.mapValues fun name s =>
        if Glob.covers dependency name then s.observe id else s
      wildcards := e.wildcards ++ [(dependency, id)] }
  else
    { e with symbols := e.symbols.insert dependency ((e.symbolOf dependency).observe id) }

/-- Subscribes a rule to all its dependencies, in their order. -/
def subscribeAll (id : RuleId) (dependencies : List String) (e : Engine) : Engine :=
  dependencies.foldl (fun e dependency => e.subscribe id dependency) e

/-- **Unsubscribes a rule from what one dependency covers.** -/
def unsubscribe (id : RuleId) (dependency : String) (e : Engine) : Engine :=
  { e with
    symbols := e.symbols.mapValues fun name s =>
      if Glob.covers dependency name then s.unobserve id else s }

/-- Unsubscribes a rule from all its dependencies. -/
def unsubscribeAll (id : RuleId) (dependencies : List String) (e : Engine) : Engine :=
  dependencies.foldl (fun e dependency => e.unsubscribe id dependency) e

/-! ## §2 Rules with keys -/

/-- Puts a rule into the next slot and under its key, and subscribes it. -/
def install (r : Rule) (e : Engine) : RuleId × Engine :=
  (e.rules.nextId,
    record (.defined e.rules.nextId)
      ({ e with
        rules := e.rules.add r
        registry := e.registry.insert r.key e.rules.nextId }.subscribeAll e.rules.nextId
          r.dependencies))

/-- Takes the rule under a key out of its slot and unsubscribes it. -/
def uninstall (key : String) (id : RuleId) (e : Engine) : Engine :=
  match e.rules.get? id with
  | none =>
    { e with
      registry := e.registry.erase key
      wildcards := e.wildcards.filter (·.2 != id) }
  | some r =>
    record (.removed id)
      ({ e with
        registry := e.registry.erase key
        rules := e.rules.remove id
        wildcards := e.wildcards.filter (·.2 != id) }.unsubscribeAll id r.dependencies)

/-- Makes a key free. -/
def free (key : String) (e : Engine) : Engine :=
  match e.registry.get? key with
  | none => e
  | some id => e.uninstall key id

/-- **Defines a rule** under a key, in place of the one there. -/
def define (key source : String) (e : Engine) : Except DefineError RuleId × Engine :=
  if key = "" then (.error .emptyKey, e)
  else
    match Rule.compile key source with
    | .error error => (.error (.unreadable source error), e)
    | .ok r =>
      match (e.free key).install r with
      | (id, e) => (.ok id, e)

/-- **Removes the rule** under a key. -/
def remove (key : String) (e : Engine) : Except DefineError Unit × Engine :=
  match e.registry.get? key with
  | none => (.error (.unknownRule key), e)
  | some id => (.ok (), e.uninstall key id)

/-! ## §3 Triggers -/

/-- The key of the rule that a trigger runs. -/
def triggerKey (pattern : String) : String := "/" ++ pattern ++ "/"

/-- **Defines a trigger**: lines that the pattern matches run the rule. -/
def defineTrigger (pattern source : String) (e : Engine) : Except DefineError RuleId × Engine :=
  match Rule.compile (triggerKey pattern) source with
  | .error error => (.error (.unreadable source error), e)
  | .ok r =>
    match Pattern.compile pattern with
    | .error error =>
      (.error (.badPattern pattern error),
        { e with rules := (e.rules.add r).remove e.rules.nextId })
    | .ok p =>
      (.ok e.rules.nextId,
        record (.defined e.rules.nextId)
          { e with
            rules := e.rules.add r
            triggers := e.triggers ++ [⟨p, e.rules.nextId⟩] })

end Cascade.Engine
