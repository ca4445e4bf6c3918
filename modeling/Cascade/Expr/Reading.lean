import Cascade.Expr.Progress

/-!
# From a source to its tree

A rule body is read as a whole; an expression may also be read off the front of a source, what
follows it being left alone. Both give the readers the steps that `Expr.Progress` shows to suffice,
so that the only outcomes are a tree and an error.
-/

namespace Cascade

namespace Parse

/-- Steps that suffice for a number of tokens. -/
def steps (tokens : Nat) : Nat := 16 * tokens + 16

/-- A whole rule body: statements, then the end of the input. -/
def program (source : String) (n : Nat) : Parse Expr := do
  let e ← sequence source n
  expect source .endOfInput
  return e

theorem program_ne_starved (source : String) (ts : Tokens) :
    program source (steps ts.length) ts ≠ .starved := by
  have h : Takes (program source (steps ts.length)) 1 ts := by
    refine takes_bind ((reads source _).sequence ts (by simp only [steps]; omega))
      fun e r1 _ _ => ?_
    exact takes_bind (takes_expect source _ r1) fun _ _ _ _ => takes_pure _ _
  intro hs
  unfold Takes at h
  rw [hs] at h
  exact h

theorem expression_ne_starved (source : String) (ts : Tokens) :
    expression source (steps ts.length) ts ≠ .starved := by
  have h := (reads source (steps ts.length)).expression ts (by simp only [steps]; omega)
  intro hs
  unfold Takes at h
  rw [hs] at h
  exact h

end Parse

/-- The outcome of a reply that has steps enough. -/
def Reply.outcome : (r : Reply α) → r ≠ .starved → Except ParseError α
  | .ok a _, _ => .ok a
  | .fail e, _ => .error e
  | .starved, h => absurd rfl h

/-- **Reads a rule body.** -/
def Expr.read (source : String) : Except ParseError Expr :=
  let ts := Tokens.ofSource source
  Reply.outcome _ (Parse.program_ne_starved source ts)

/-- **Reads the expression at the front of a source.** One token after it is looked at. -/
def Expr.readFront (source : String) : Except ParseError Expr :=
  let ts := Tokens.ofSource source
  Reply.outcome _ (Parse.expression_ne_starved source ts)

end Cascade
