import Cascade.CommandLine

/-!
# The program

The outer layer of the command line: it reads files and the standard input and prints. What a rule
prints appears as soon as the line that caused it has been fed.
-/

namespace Cascade.Program

/-- The content of a file, if it can be read as text. -/
def readFile (path : String) : IO (Option String) := do
  try
    return String.fromUTF8? (← IO.FS.readBinFile path)
  catch _ => return none

/-- Prints lines. -/
def putLines (lines : List String) : IO Unit := lines.forM IO.println

/-- Complains with lines. -/
def complain (lines : List String) : IO Unit := lines.forM IO.eprintln

/-- Performs an action, prints what it prints, and starts the journal afresh. -/
def advance (action : Act α) (e : Engine) : IO (α × Engine) := do
  let (a, e) := action.run e
  putLines e.printed
  (← IO.getStdout).flush
  return (a, e.clearJournal)

/-- The next line of a stream in bytes, and whether a line feed ended it; nothing at the end. -/
partial def readLine (input : IO.FS.Stream) (line : ByteArray) : IO (Option (ByteArray × Bool)) := do
  let byte ← input.read 1
  if byte.isEmpty then return if line.isEmpty then none else some (line, false)
  else if byte[0]! == 10 then return some (line, true)
  else readLine input (line ++ byte)

/-- Feeds what is left of a stream. -/
partial def feedStream (input : IO.FS.Stream) (trusted : Bool) (e : Engine) :
    IO (Except Failure Engine) := do
  match ← readLine input .empty with
  | none => return .ok e
  | some (line, ended) =>
    match ← advance (Batch.feedLine trusted (Text.decodeLine line.data.toList ended)) e with
    | (.error f, _) => return .error f
    | (.ok (), e) => feedStream input trusted e

/-- Loads rule files in turn. -/
def loadFiles (e : Engine) : List String → IO (Except Failure Engine)
  | [] => return .ok e
  | path :: rest => do
    match ← advance (Batch.loadFile path (← readFile path)) e with
    | (.error f, _) => return .error f
    | (.ok (), e) => loadFiles e rest

/-- Performs `run`, line by line. -/
def run (r : CommandLine.RunRequest) : IO UInt32 := do
  let input ← IO.getStdin
  let trusted := r.trusted || (← input.isTty)
  let loaded ← loadFiles (Engine.new r.config) r.rules
  let ended ← match loaded with
    | .error f => pure (.error f)
    | .ok e => feedStream input trusted e
  match ended with
  | .error f =>
    complain [f.message]
    return 1
  | .ok e =>
    putLines (CommandLine.closingLines r e)
    return 0

/-- **Performs what arguments ask for.** -/
def perform (args : List String) : IO UInt32 := do
  match CommandLine.read? args with
  | some (.run r) => run r
  | _ =>
    let report := CommandLine.perform args (fun _ => none) .empty
    putLines report.lines
    complain report.complaints
    return UInt32.ofNat report.exit

end Cascade.Program

/-- The entry of the program. -/
def main (args : List String) : IO UInt32 := Cascade.Program.perform args
