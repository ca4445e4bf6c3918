import Cascade.Pattern.Node
import Cascade.Pattern.Room.Sets
import Cascade.Pattern.Room.Texts

/-!
# The room of a pattern

How much room the machines of a pattern tree take over the bytes of UTF-8. There are two of them: one
reads a line forward and marks where groups begin and end, the other reads backward and marks nothing.
Repetitions are written out. A pattern is refused if one of its machines takes too much.

§1 repetitions and choices; §2 trees; §3 machines.
-/

namespace Cascade.Pattern

namespace Room

/-! ## §1 Repetitions and choices -/

/-- **Writes a repetition** of a part. What may be left out has a branch before it; a loop has one
after it, and needs two if the part may match nothing, one for going round and one for passing by. -/
def repetition (part : Room → Option Room) (consumes : Bool) (least : Nat) (most : Option Nat)
    (r : Room) : Option Room :=
  match least, most with
  | 0, some 1 => do (← part (← r.add 1 8)).add 1 0
  | 0, none => if consumes then (r.add 1 8).bind part else do (← part r).add 3 16
  | least, none => do (← r.times part least).add 1 8
  | least, some most =>
    if least = most then r.times part least
    else do
      let r ← if least = 0 then r.add 1 0 else r.times part least
      (← r.add 1 0).times (fun r => (r.add 1 8).bind part) (most - least)

/-- What a branch of a choice needs beside itself, if so many branches came before it: with the second
one, the branching state and the state where the branches meet are written. -/
def branch (before : Nat) (r : Room) : Option Room :=
  match before with
  | 0 => some r
  | 1 => r.add 2 8
  | _ + 2 => r.add 0 4

/-! ## §2 Trees -/

/-- The bytes of the branches of a choice in the order of reading, if all branches are texts. -/
def textBranches? (direction : Direction) (n : Node) : Option (List (List UInt8)) :=
  n.branches.mapM fun
    | .text cs =>
      let bytes := cs.flatMap String.utf8EncodeChar
      some (match direction with
        | .forward => bytes
        | .backward => bytes.reverse)
    | _ => none

/-- **Writes a tree**, which may be a branch of a choice of which `before` branches are written. -/
def tree (direction : Direction) : Node → (before : Nat) → Room → Option Room
  | .empty, before, r => do (← r.add 1 0).branch before
  | .text cs, before, r => do (← r.add (String.ofList cs).utf8ByteSize 0).branch before
  | .chars s, before, r => do (← r.set direction s).branch before
  | .look _, before, r => do (← r.add 1 0).branch before
  | .group _ inner, before, r => do
    let r ← match direction with
      | .forward => do (← tree direction inner 0 (← r.add 1 0)).add 1 0
      | .backward => tree direction inner 0 r
    r.branch before
  | .cat a b, before, r => do
    let r ← match direction with
      | .forward => (tree direction a 0 r).bind (tree direction b 0)
      | .backward => (tree direction b 0 r).bind (tree direction a 0)
    r.branch before
  | .alt a b, 0, r =>
    match textBranches? direction (.alt a b) with
    | some texts => r.texts texts
    | none => (tree direction a 0 r).bind (tree direction b 1)
  | .alt a b, before + 1, r => do
    let r ← tree direction a 0 r
    tree direction b (before + 2) (← r.branch (before + 1))
  | .repeated inner least most _, before, r => do
    (← r.repetition (tree direction inner 0) inner.consumes least most).branch before

/-! ## §3 Machines -/

/-- **The room of a machine.** Unless every match is bound to the end where reading starts, a loop
that skips bytes stands in front. -/
def machine (direction : Direction) (n : Node) : Option Room := do
  let bound := match direction with
    | .forward => n.beginsWith .textStart
    | .backward => n.endsWith .textEnd
  let r ← if bound then Room.start.add 1 0 else Room.start.add 3 16
  (← tree direction (.group 0 n) 0 r).add 1 0

end Room

/-- **Is there room for a pattern?** -/
def Node.fits (n : Node) : Bool :=
  (Room.machine .forward n).isSome && (Room.machine .backward n).isSome

end Cascade.Pattern
