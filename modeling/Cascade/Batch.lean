import Cascade.Engine.Operations
import Cascade.Failure
import Cascade.Text.Lines

/-!
# Batches

A batch loads rule files and then feeds the lines of an input. Rule files are trusted and must be free
of error: the first rejected line ends the batch. The input is data, unless it is trusted; what is
rejected there goes to the journal.

§1 rule files; §2 the input; §3 the whole.
-/

namespace Cascade.Batch

/-! ## §1 Rule files -/

/-- Feeds the lines of a rule file, of which the first has the number `line`. -/
def loadLines (path : String) (line : Nat) : List String → Act (Except Failure Unit)
  | [] => return .ok ()
  | text :: rest => do
    match ← Engine.tryFeed text with
    | .error e => return .error (.rejected path line e)
    | .ok () => loadLines path (line + 1) rest

/-- **Loads a rule file**, given its content, if it can be read as text. -/
def loadFile (path : String) : Option String → Act (Except Failure Unit)
  | none => return .error .noText
  | some content => loadLines path 1 (Text.lines content)

/-- Loads rule files in turn. -/
def loadFiles (read : String → Option String) : List String → Act (Except Failure Unit)
  | [] => return .ok ()
  | path :: rest => do
    match ← loadFile path (read path) with
    | .error e => return .error e
    | .ok () => loadFiles read rest

/-! ## §2 The input -/

/-- **Feeds a line of the input**, if it can be read as text. -/
def feedLine (trusted : Bool) : Option String → Act (Except Failure Unit)
  | none => return .error .noText
  | some line => do
    if trusted then Engine.feed line else Engine.feedData line
    return .ok ()

/-- Feeds lines of the input in turn. -/
def feedLines (trusted : Bool) : List (Option String) → Act (Except Failure Unit)
  | [] => return .ok ()
  | line :: rest => do
    match ← feedLine trusted line with
    | .error e => return .error e
    | .ok () => feedLines trusted rest

/-! ## §3 The whole -/

/-- **Runs a batch**: files by name and content, and the bytes of the input. -/
def perform (paths : List String) (read : String → Option String) (trusted : Bool)
    (input : ByteArray) : Act (Except Failure Unit) := do
  match ← loadFiles read paths with
  | .error e => return .error e
  | .ok () => feedLines trusted (Text.byteLines input)

end Cascade.Batch
