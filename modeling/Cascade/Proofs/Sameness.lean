import Cascade.Proofs.History

/-!
# Setting what is there already

A symbol is taken to have a value already if the two are structurally the same. That is so for every
value and itself, lists of any depth included, as long as there is no NaN in it: NaN is not the same as
itself. So setting a symbol to the value that it has leaves everything as it is, and a value with a NaN
in it is taken for another one each time, with all that follows from a change.

§1 doubles and values; §2 symbols; §3 engines.
-/

namespace Cascade

/-! ## §1 Doubles and values -/

/-- **A double equals itself unless it is NaN.** -/
theorem beq_self_eq_not_isNaN (x : Float) : (x == x) = !x.isNaN := by
  show (x.toModel.unpack.compare x.toModel.unpack == some .eq) = !x.toModel.unpack.isNaN
  cases x.toModel.unpack with
  | notANumber => rfl
  | zero sign => cases sign <;> rfl
  | infinity sign => cases sign <;> rfl
  | finite sign mantissa exponent hpos =>
    have hsame : (compare exponent exponent).then (compare mantissa mantissa) = .eq := by
      rw [Std.compare_self, Std.compare_self]
      rfl
    cases sign with
    | positive =>
      show (some ((compare exponent exponent).then (compare mantissa mantissa)) == some .eq) = true
      rw [hsame]
      rfl
    | negative =>
      show (some ((compare exponent exponent).then (compare mantissa mantissa)).swap == some .eq) =
        true
      rw [hsame]
      rfl

namespace Value

mutual

/-- **Is no NaN in the value**, however deep? -/
def nanFree : Value → Bool
  | .double x => !x.isNaN
  | .list items => nanFreeAll items
  | .int _ | .string _ | .bool _ => true

/-- Is no NaN in any of the values? -/
def nanFreeAll : List Value → Bool
  | [] => true
  | v :: vs => nanFree v && nanFreeAll vs

end

mutual

/-- **A value is the same as itself** just if there is no NaN in it. -/
theorem same_self : ∀ v : Value, same v v = nanFree v
  | .int n => by simp [same, nanFree]
  | .double x => by rw [same, nanFree, beq_self_eq_not_isNaN]
  | .string s => by simp [same, nanFree]
  | .bool b => by simp [same, nanFree]
  | .list items => by rw [same, nanFree, sameAll_self items]

theorem sameAll_self : ∀ vs : List Value, sameAll vs vs = nanFreeAll vs
  | [] => rfl
  | v :: vs => by rw [sameAll, nanFreeAll, same_self v, sameAll_self vs]

end

end Value

/-! ## §2 Symbols -/

/-- Putting in the entry that is there changes nothing. -/
theorem Table.insert_eq_self {t : Table α} {name : String} {a : α} (h : t.get? name = some a) :
    t.insert name a = t := by
  refine eq_of_get?_eq fun other => ?_
  rw [get?_insert]
  split
  · next heq => rw [heq, h]
  · rfl

namespace Engine

variable {e : Engine} {name : String} {v : Value}

/-- A symbol that is one stays as it is by being spoken of. -/
theorem touch_eq_self (hv : e.value? name = some v) : e.touch name = e := by
  obtain ⟨s, hs, -⟩ := Option.bind_eq_some_iff.mp hv
  have hsymbol : e.symbolOf name = s := by rw [symbolOf, hs, Option.getD_some]
  rw [touch, hsymbol, Table.insert_eq_self hs]

/-- **A symbol holds the value that it has** just if there is no NaN in it. -/
theorem holds_own_value (hv : e.value? name = some v) : (e.symbolOf name).holds v = v.nanFree := by
  rw [Symbol.holds, symbolOf_value, hv]
  exact v.same_self

end Engine

/-! ## §3 Engines -/

open Engine

/-- **Setting a symbol to the value that it has leaves everything as it was**, at every moment of every
history and however rules are run, just if there is no NaN in the value: no symbol changes, `%` does
not move, no rule runs and the journal stays as it is. A value with a NaN in it is another one each
time: the symbol changes, its name becomes the value of `%`, and a run of each rule that depends on it
is attempted in turn. -/
theorem set_again {config : Config} {ops : List Operation} {e : Engine}
    (h : Moves (history config ops) e) {name : String} {v : Value} (hv : e.value? name = some v)
    (run : Runner) :
    (run.set name v).run e =
      if v.nanFree then ((), e)
      else
        ((),
          ((e.changed name v).notified name).foldl run.attempt ((e.changed name v).mark name)) := by
  have hcanonical : e.Canonical := (canonical_history config ops).moves h
  rw [run_set run name v hcanonical, holds_own_value hv, touch_eq_self hv]

/-- The host sets a symbol by the engine's own way to run rules. -/
theorem run_set_operation (name : String) (v : Value) (e : Engine) :
    (Engine.set name v).run e = (e.runner.set name v).run e := rfl

/-- An engine with a rule that prints `x`, in which `x` has been set and then `b`. -/
def printing (v : Value) : Engine :=
  history .standard [.define "p" "print(x)", .set "x" v, .set "b" (.int 1)]

/-- A list with a negative zero and a list of infinities in it is not set again. -/
theorem zero_and_infinity_set_again :
    let v : Value := .list [.double (-0.0), .list [.double (1.0 / 0.0)]]
    (printing v).value? "x" = some v ∧ v.nanFree = true ∧
      (Engine.set "x" v).run (printing v) = ((), printing v) := by
  intro v
  have hv : (printing v).value? "x" = some v := by decide +kernel
  have hfree : v.nanFree = true := by decide
  have hmoment : Moves (history .standard [.define "p" "print(x)", .set "x" v, .set "b" (.int 1)])
    (printing v) := .refl
  have hset := set_again hmoment hv (printing v).runner
  rw [hfree, if_pos rfl] at hset
  exact ⟨hv, hfree, (run_set_operation "x" v (printing v)).trans hset⟩

/-- An engine in which a rule has divided zero by zero and put the result into `x`, which another rule
prints, and `b` has been set since. -/
def dividing : Engine :=
  history .standard [.define "p" "print(x)", .define "q" "x = a / a", .set "a" (.double 0.0),
    .set "b" (.int 1)]

/-- **NaN is set again**: though the symbol has the value already, `%` moves and the rule prints. -/
theorem nan_set_again :
    let e := ((Engine.set "x" (.double (0.0 / 0.0))).run dividing).2
    dividing.value? "x" = some (.double (0.0 / 0.0)) ∧ dividing.value? "%" = some (.string "b") ∧
      dividing.printed = ["NaN"] ∧ e.value? "%" = some (.string "x") ∧
      e.printed = ["NaN", "NaN"] := by
  decide +kernel

end Cascade
