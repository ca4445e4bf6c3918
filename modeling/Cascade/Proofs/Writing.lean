import Cascade.Engine.Operations

/-!
# What can be written and called

What a cascade may come to can be told in part from its texts: the symbols that a tree assigns to and
the functions that it calls, the key of a line of data, the names that a pattern binds, and all that a
native function may ask for. Whatever sets a symbol is one of these.

§1 trees; §2 rules, patterns and lines; §3 native functions; §4 native functions that call no other.
-/

namespace Cascade

/-! ## §1 Trees -/

namespace Expr

mutual

/-- The symbols that a tree assigns to, in every branch. -/
def targets : Expr → List String
  | const _ | var _ | glob _ => []
  | assign target value => target :: targets value
  | binary _ left right => targets left ++ targets right
  | negate inner => targets inner
  | seq first second => targets first ++ targets second
  | block stmts => targetsAll stmts
  | ifThen test branch => targets test ++ targets branch
  | ifThenElse test onTrue onFalse => targets test ++ targets onTrue ++ targets onFalse
  | edgeIf test onTrue onFalse => targets test ++ targets onTrue ++ targets onFalse
  | atChange watch action => targets watch ++ targets action
  | call _ args => targetsAll args

/-- The symbols that a list of trees assigns to. -/
def targetsAll : List Expr → List String
  | [] => []
  | e :: es => targets e ++ targetsAll es

end

mutual

/-- The functions that a tree calls, in every branch. -/
def callees : Expr → List String
  | const _ | var _ | glob _ => []
  | assign _ value => callees value
  | binary _ left right => callees left ++ callees right
  | negate inner => callees inner
  | seq first second => callees first ++ callees second
  | block stmts => calleesAll stmts
  | ifThen test branch => callees test ++ callees branch
  | ifThenElse test onTrue onFalse => callees test ++ callees onTrue ++ callees onFalse
  | edgeIf test onTrue onFalse => callees test ++ callees onTrue ++ callees onFalse
  | atChange watch action => callees watch ++ callees action
  | call name args => name :: calleesAll args

/-- The functions that a list of trees calls. -/
def calleesAll : List Expr → List String
  | [] => []
  | e :: es => callees e ++ calleesAll es

end

end Expr

/-! ## §2 Rules, patterns and lines -/

section texts

variable (K : String → Prop)

/-- **A rule writes only certain symbols**: those are all that its tree assigns to. -/
def Rule.Writes (r : Rule) : Prop := ∀ name ∈ r.body.targets, K name

/-- A text can only be read as a rule that writes certain symbols. -/
def SourceWrites (source : String) : Prop :=
  ∀ {key r}, Rule.compile key source = .ok r → r.Writes K

/-- **A pattern binds only certain symbols**, whatever it captures. -/
def Pattern.Writes (p : Pattern) : Prop := ∀ c, ∀ b ∈ Trigger.bindings p c, K b.1

/-- A text can only be read as a pattern that binds certain symbols. -/
def PatternWrites (pattern : String) : Prop :=
  ∀ {p}, Pattern.compile pattern = .ok p → p.Writes K

/-- **A line writes only certain symbols**, at once or through the rule that it defines. -/
def Line.Writes (line : String) : Prop :=
  match Line.read line with
  | .data => ∀ {name text}, Line.assignment? (Line.content line) = some (name, text) → K name
  | .define _ source => SourceWrites K source
  | .trigger pattern source => PatternWrites K pattern ∧ SourceWrites K source
  | _ => True

end texts

/-! ## §3 Native functions -/

/-- **A call of a native function writes only certain symbols**, at once or through what it defines,
whatever it is answered. What the functions that it calls write is their own. -/
def HostCall.Writes (K : String → Prop) : HostCall → Prop
  | .answer _ => True
  | .print _ next | .note _ next | .report _ next => next.Writes K
  | .look next => ∀ symbols, (next symbols).Writes K
  | .read _ next => ∀ value, (next value).Writes K
  | .set name _ next => K name ∧ next.Writes K
  | .feed line next => Line.Writes K line ∧ ∀ answer, (next answer).Writes K
  | .submit line next | .feedData line next => Line.Writes K line ∧ next.Writes K
  | .define _ source next => SourceWrites K source ∧ ∀ answer, (next answer).Writes K
  | .remove _ next => ∀ answer, (next answer).Writes K
  | .defineTrigger pattern source next =>
    (PatternWrites K pattern ∧ SourceWrites K source) ∧ ∀ answer, (next answer).Writes K
  | .run _ next => ∀ answer, (next answer).Writes K
  | .call _ _ next => ∀ answer, (next answer).Writes K

/-- A native function that writes only certain symbols. -/
def Native.Writes (K : String → Prop) (f : Native) : Prop :=
  ∀ count args, HostCall.Writes K (f count args)

section

variable {K : String → Prop}

/-- What is quiet writes nothing. -/
theorem HostCall.writes_of_quiet {call : HostCall} (h : call.Quiet) : call.Writes K := by
  induction h with
  | answer result => trivial
  | print _ ih => exact ih
  | note _ ih => exact ih
  | report _ ih => exact ih
  | look _ ih => exact ih

/-! Where every symbol is allowed, there is nothing to ask of a text. -/

variable (hall : ∀ name, K name)

include hall

theorem sourceWrites_of_all (source : String) : SourceWrites K source := fun _ name _ => hall name

theorem patternWrites_of_all (pattern : String) : PatternWrites K pattern :=
  fun _ _ b _ => hall b.1

theorem Line.writes_of_all (line : String) : Line.Writes K line := by
  unfold Line.Writes
  split
  · exact fun _ => hall _
  · exact sourceWrites_of_all hall _
  · exact ⟨patternWrites_of_all hall _, sourceWrites_of_all hall _⟩
  · trivial

theorem HostCall.writes_of_all (call : HostCall) : call.Writes K := by
  induction call with
  | answer result => trivial
  | print _ _ ih | note _ _ ih | report _ _ ih => exact ih
  | look _ ih | read _ _ ih | remove _ _ ih | run _ _ ih | call _ _ _ ih => exact ih
  | set name _ _ ih => exact ⟨hall name, ih⟩
  | feed line _ ih | submit line _ ih | feedData line _ ih =>
    exact ⟨Line.writes_of_all hall line, ih⟩
  | define _ source _ ih => exact ⟨sourceWrites_of_all hall source, ih⟩
  | defineTrigger pattern source _ ih =>
    exact ⟨⟨patternWrites_of_all hall pattern, sourceWrites_of_all hall source⟩, ih⟩

theorem Native.writes_of_all (f : Native) : f.Writes K :=
  fun count args => HostCall.writes_of_all hall (f count args)

end

/-! ## §4 Native functions that call no other -/

/-- **A call of a native function that makes no calls itself.** -/
def HostCall.CallFree : HostCall → Prop
  | .answer _ => True
  | .print _ next | .note _ next | .report _ next => next.CallFree
  | .set _ _ next | .submit _ next | .feedData _ next => next.CallFree
  | .look next => ∀ symbols, (next symbols).CallFree
  | .read _ next => ∀ value, (next value).CallFree
  | .feed _ next => ∀ answer, (next answer).CallFree
  | .define _ _ next => ∀ answer, (next answer).CallFree
  | .remove _ next => ∀ answer, (next answer).CallFree
  | .defineTrigger _ _ next => ∀ answer, (next answer).CallFree
  | .run _ next => ∀ answer, (next answer).CallFree
  | .call _ _ _ => False

/-- A native function that calls no other. -/
def Native.CallFree (f : Native) : Prop := ∀ count args, HostCall.CallFree (f count args)

/-- No native function of the engine calls another. -/
def Engine.CallFree (e : Engine) : Prop :=
  ∀ name f, e.functions.get? name = some f → Native.CallFree f.function

theorem HostCall.callFree_of_quiet {call : HostCall} (h : call.Quiet) : call.CallFree := by
  induction h with
  | answer result => trivial
  | print _ ih => exact ih
  | note _ ih => exact ih
  | report _ ih => exact ih
  | look _ ih => exact ih

end Cascade
