import Cascade.Engine.Registry
import Cascade.Line

/-!
# Evaluation and cascades

Evaluating an expression may set symbols; setting a symbol to another value runs the rules that
observe it, one after the other, before the evaluation goes on; and these runs evaluate expressions.
The knot is cut at the run of a rule: everything here is written for a given way to run a rule, and
that way is then built for one more level of nesting at a time.

A run that fails is written to the journal, and the cascade goes on with the next rule.

§1 actions; §2 setting and notifying; §3 feeding lines; §4 native functions; §5 expressions; §6 running
a rule.
-/

namespace Cascade

/-! ## §1 Actions -/

/-- **An action of the engine.** -/
abbrev Act := StateM Engine

/-- **An evaluation**: an action that has a value or fails. What happened before a failure stays. -/
abbrev Eval := ExceptT EvalError Act

/-- **A way to run a rule.** -/
abbrev Runner := RuleId → Eval Value

/-- **A way to call a native function.** -/
abbrev Caller := String → List Value → Eval Value

/-- Writes to the journal. -/
def record (event : Event) : Act Unit := modify (Engine.record event)

/-- The outcome of an evaluation, without failing. -/
def outcome (x : Eval α) : Act (Except EvalError α) := x.run

namespace Runner

/-! ## §2 Setting and notifying -/

/-- **Runs a rule because of a change**; a failure goes to the journal. -/
def notify (run : Runner) (id : RuleId) : Act Unit := do
  match ← outcome (run id) with
  | .ok _ => return ()
  | .error error => modify fun e => e.record (.ruleFailed (e.keyOf id) error)

/-- **Sets a symbol.** If it changes, its name becomes the value of `%`, and the rules that observed it
at that moment are notified in the order of subscription. A change of `%` itself notifies nobody. -/
def set (run : Runner) (name : String) (v : Value) : Act Unit := do
  if ← modifyGet (Engine.store name v) then
    if name ≠ Symbol.lastChanged then
      let observers := (← get).observers name
      let _ ← modifyGet (Engine.store Symbol.lastChanged (.string name))
      observers.forM (notify run)

/-- **Runs the rule of a trigger** that a line has matched. -/
def fire (run : Runner) (id : RuleId) : Act Unit := do
  record (.fired id)
  notify run id

/-- Sets several symbols in turn. -/
def setAll (run : Runner) (bindings : List (String × Value)) : Act Unit :=
  bindings.forM fun p => set run p.1 p.2

/-! ## §3 Feeding lines -/

/-- **A data line**: the first trigger that matches acts on it; otherwise it sets its key. -/
def feedContent (run : Runner) (content : String) : Act Unit := do
  match Trigger.firstHit? (← get).triggers content with
  | some hit => do
    setAll run hit.bindings
    fire run hit.rule
  | none =>
    match Line.assignment? content with
    | some (name, text) => set run name (Value.readScalar text)
    | none => record (.lineIgnored content)

/-- **Feeds a line in which definitions are accepted**, and says whether one was rejected. -/
def tryFeed (run : Runner) (line : String) : Act (Except DefineError Unit) := do
  match Line.read line with
  | .blank => return .ok ()
  | .define key source => do
    let r ← modifyGet (Engine.define key source)
    return r.map fun _ => ()
  | .remove key => modifyGet (Engine.remove key)
  | .trigger pattern source => do
    let r ← modifyGet (Engine.defineTrigger pattern source)
    return r.map fun _ => ()
  | .brokenTrigger => return .error (.malformedTrigger (Line.content line))
  | .data => do
    feedContent run (Line.content line)
    return .ok ()

/-- **Feeds a line**; a rejected definition goes to the journal. -/
def feed (run : Runner) (line : String) : Act Unit := do
  match ← tryFeed run line with
  | .ok () => return ()
  | .error error => record (.lineRejected (Line.content line) error)

/-- **Feeds a line in which only data is accepted.** -/
def feedData (run : Runner) (line : String) : Act Unit :=
  match Line.read line with
  | .blank => pure ()
  | .data => feedContent run (Line.content line)
  | _ => record (.lineRejected (Line.content line) (.untrusted (Line.content line)))

/-! ## §4 Native functions -/

/-- **Runs a rule because the host or a native function asks for it.** -/
def ask (run : Runner) (id : RuleId) : Act (Except EvalError Value) := do
  record (.asked id)
  outcome (run id)

/-- **Does what a native function asks for**, calls of other functions being made as given. -/
def perform (run : Runner) (caller : Caller) : HostCall → Eval Value
  | .answer (.ok v) => return v
  | .answer (.error error) => throw error
  | .print line next => do
    record (.printed line)
    perform run caller next
  | .note text next => do
    record (.noted text)
    perform run caller next
  | .report text next => do
    record (.reported text)
    perform run caller next
  | .look next => do perform run caller (next (← get).bound)
  | .read name next => do
    modify (Engine.touch name)
    perform run caller (next ((← get).value? name))
  | .set name v next => do
    set run name v
    perform run caller next
  | .feed line next => do perform run caller (next (← tryFeed run line))
  | .submit line next => do
    feed run line
    perform run caller next
  | .feedData line next => do
    feedData run line
    perform run caller next
  | .define key source next => do
    perform run caller (next (← modifyGet (Engine.define key source)))
  | .remove key next => do perform run caller (next (← modifyGet (Engine.remove key)))
  | .defineTrigger pattern source next => do
    perform run caller (next (← modifyGet (Engine.defineTrigger pattern source)))
  | .run id next => do perform run caller (next (← ExceptT.lift (ask run id)))
  | .call name args next => do
    perform run caller (next (← ExceptT.lift (outcome (caller name args))))

/-- **Calls a native function**, which makes calls of its own as given. -/
def callWith (run : Runner) (caller : Caller) : Caller := fun name args => do
  match (← get).functions.get? name with
  | none => throw (.unknownFunction name)
  | some f => do
    modify (Engine.countCall name f)
    perform run caller (f.function (f.calls + 1) args)

/-- A call for which there is no room. -/
def noCall : Caller := fun name _ => do
  record (.crowded name)
  throw .roomExhausted

/-- **The way to call a function** where calls of functions by functions can nest so many levels
deep. -/
def caller (run : Runner) : Nat → Caller
  | 0 => callWith run noCall
  | room + 1 => callWith run (caller run room)

/-- **Calls a native function.** -/
def call (run : Runner) : Caller := fun name args => do
  caller run (← get).config.room name args

/-! ## §5 Expressions -/

/-- Reads a symbol, which becomes one by being read. -/
def readSymbol (name : String) : Eval Value := do
  modify (Engine.touch name)
  match (← get).value? name with
  | none => throw (.undefinedSymbol name)
  | some v => return v

mutual

/-- **Evaluates an expression.** The tree belongs to `owner`, and its remembering forms are numbered
from `n` on. -/
def eval (run : Runner) (owner : Owner) (n : Nat) : Expr → Eval Value
  | .const v => return v
  | .var name => readSymbol name
  | .glob pattern => return (← get).valuesOf pattern
  | .assign target value => do
    let v ← eval run owner n value
    set run target v
    return v
  | .binary op left right => do
    let l ← eval run owner n left
    let r ← eval run owner (n + left.memories) right
    op.apply l r
  | .negate inner => do
    let v ← eval run owner n inner
    Operator.negate v
  | .seq first second => do
    let _ ← eval run owner n first
    eval run owner (n + first.memories) second
  | .block stmts => evalBlock run owner n .neutral stmts
  | .ifThen test branch => do
    let v ← eval run owner n test
    if ← v.toBool then eval run owner (n + test.memories) branch else return .neutral
  | .ifThenElse test onTrue onFalse => do
    let v ← eval run owner n test
    if ← v.toBool then eval run owner (n + test.memories) onTrue
    else eval run owner (n + test.memories + onTrue.memories) onFalse
  | .edgeIf test onTrue onFalse => do
    let v ← eval run owner (n + 1) test
    let now ← v.toBool
    if now = (← get).memories.truth ⟨owner, n⟩ then return .neutral
    else
      modify (Engine.branch ⟨owner, n⟩ now)
      if now then eval run owner (n + 1 + test.memories) onTrue
      else eval run owner (n + 1 + test.memories + onTrue.memories) onFalse
  | .atChange watch action => do
    let v ← eval run owner (n + 1) watch
    if Value.sameOption ((← get).memories.seen ⟨owner, n⟩) (some v) then return .neutral
    else
      modify (Engine.act ⟨owner, n⟩ v)
      eval run owner (n + 1 + watch.memories) action
  | .call name args => do
    let vs ← evalAll run owner n args
    call run name vs

/-- Evaluates statements one after the other and gives the value of the last; without any it gives
`last`. -/
def evalBlock (run : Runner) (owner : Owner) (n : Nat) (last : Value) : List Expr → Eval Value
  | [] => return last
  | e :: es => do
    let v ← eval run owner n e
    evalBlock run owner (n + e.memories) v es

/-- Evaluates arguments from left to right. -/
def evalAll (run : Runner) (owner : Owner) (n : Nat) : List Expr → Eval (List Value)
  | [] => return []
  | e :: es => do
    let v ← eval run owner n e
    let vs ← evalAll run owner (n + e.memories) es
    return v :: vs

end

end Runner

/-! ## §6 Running a rule -/

/-- **Runs a rule once**, its tree being evaluated as given. A removed rule has the neutral value. A
run is refused where the cascade is too deep. -/
def runRule (body : RuleId → Expr → Eval Value) (id : RuleId) : Eval Value := do
  match (← get).rules.get? id with
  | none => return .neutral
  | some rule =>
    match (← get).limitReached? with
    | some limit => do
      record (.refused id)
      throw (.cascadeTooDeep limit)
    | none => do
      modify (Engine.enter id)
      let result ← ExceptT.lift (outcome (body id rule.body))
      modify (Engine.leave id)
      match result with
      | .error error => throw error
      | .ok v => do
        modify (Engine.keepResult id v)
        return v

/-- A tree for which there is no room. -/
def noRoom (id : RuleId) (_ : Expr) : Eval Value := do
  record (.exhausted id)
  throw .roomExhausted

/-- **The way to run a rule** where runs can nest so many levels deep. -/
def runner : Nat → Runner
  | 0 => runRule noRoom
  | room + 1 => runRule fun id body => (runner room).eval (.rule id) 0 body

end Cascade
