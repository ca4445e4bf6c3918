import Cascade.Batch
import Cascade.Check
import Cascade.CommandLine.Arguments
import Cascade.Snapshot

/-!
# The command line

Two commands do the work: `run` loads rule files and feeds the standard input line by line, `check`
reads or evaluates one expression.

    run [RULES]... [--max-depth N | --unlimited-depth] [--no-builtins] [--trust-stdin] [--dump] [--json]
    check EXPRESSION [-d|--data LINE]... [--syntax-only] [-p|--pretty]
    help [COMMAND]
    --version

Arguments that fit neither end in exit code 2, a command that fails in exit code 1.

§1 commands; §2 reading a command; §3 what a command prints; §4 the whole.
-/

namespace Cascade

namespace CommandLine

/-! ## §1 Commands -/

/-- **What `run` is to do.** -/
structure RunRequest where
  rules : List String
  config : Config
  trusted : Bool
  dump : Bool
  json : Bool
  deriving Inhabited

/-- **A command.** -/
inductive Command where
  | version
  | help
  | run (r : RunRequest)
  | check (r : Check.Request) (pretty : Bool)
  deriving Inhabited

/-! ## §2 Reading a command -/

/-- The options of `run`. -/
def runSwitches : List Switch :=
  [⟨"max-depth", none, true, false⟩, ⟨"unlimited-depth", none, false, false⟩,
    ⟨"no-builtins", none, false, false⟩, ⟨"trust-stdin", none, false, false⟩,
    ⟨"dump", none, false, false⟩, ⟨"json", none, false, false⟩]

/-- The options of `check`. -/
def checkSwitches : List Switch :=
  [⟨"data", some 'd', true, true⟩, ⟨"syntax-only", none, false, false⟩,
    ⟨"pretty", some 'p', false, false⟩]

/-- A depth: decimal digits, with a plus in front or not, within 64 bits. -/
def readDepth? (text : String) : Option Nat :=
  let digits := match text.toList with
    | '+' :: rest => rest
    | cs => cs
  if digits.isEmpty || !digits.all Unicode.isAsciiDigit then none
  else
    let n := digits.foldl (fun n c => 10 * n + (c.toNat - '0'.toNat)) 0
    if n < Numeral.twoTo 64 then some n else none

/-- The depth limit that the options ask for; the two options exclude each other. -/
def depthLimit? (a : Arguments) : Option (Option Nat) :=
  match a.valuesOf "max-depth", a.has "unlimited-depth" with
  | [], false => some Config.standard.maxDepth
  | [], true => some none
  | text :: _, false => (readDepth? text).map some
  | _ :: _, true => none

/-- The command that the arguments of `run` ask for. A file has a name. -/
def runCommand? (a : Arguments) : Option Command :=
  match depthLimit? a with
  | none => none
  | some limit =>
    if a.positional.any (·.isEmpty) then none
    else
      some (.run
        { rules := a.positional
          config :=
            { Config.standard with maxDepth := limit, builtins := !a.has "no-builtins" }
          trusted := a.has "trust-stdin"
          dump := a.has "dump"
          json := a.has "json" })

/-- The command that the arguments of `check` ask for. -/
def checkCommand? (a : Arguments) : Option Command :=
  match a.positional with
  | [expression] =>
    some (.check ⟨expression, a.valuesOf "data", a.has "syntax-only"⟩ (a.has "pretty"))
  | _ => none

/-- What `help` can be asked about: everything or one command. -/
def helpTopics : List (List String) := [[], ["run"], ["check"], ["help"]]

/-- **The command that arguments ask for**, if they are in order. -/
def read? : List String → Option Command
  | [] => none
  | "run" :: rest => (Arguments.read runSwitches rest).bind runCommand?
  | "check" :: rest => (Arguments.read checkSwitches rest).bind checkCommand?
  | "help" :: topics => if helpTopics.contains topics then some .help else none
  | first :: _ =>
    match shapeOf first with
    | .long body =>
      if body == "version".toList then some .version
      else if body == "help".toList then some .help
      else none
    | .letters ('V' :: _) => some .version
    | .letters ('h' :: _) => some .help
    | _ => none

/-! ## §3 What a command prints -/

/-- The text of `--version`. -/
def versionLine : String := "loglang 0.2.0"

/-- The text of `help`. -/
def usageLines : List String :=
  ["loglang - reactive rules over key/value telemetry lines", "",
    "Usage: loglang run [OPTIONS] [RULES]...", "       loglang check [OPTIONS] <EXPRESSION>"]

/-- What `check` prints for a finding. -/
def findingLines (pretty : Bool) : Check.Finding → List String
  | .described tree dependencies =>
    ["Syntax is valid", "tree: " ++ tree,
      "dependencies: " ++ ", ".intercalate dependencies]
  | .evaluated v =>
    [if pretty then (Json.ofValue v).indented else (Json.ofValue v).compact]

/-- What `run` prints when the input ends. -/
def closingLines (r : RunRequest) (e : Engine) : List String :=
  (if r.dump then e.dump else []) ++ (if r.json then [e.snapshot.indented] else [])

/-! ## §4 The whole -/

/-- **What a command comes to**: its exit code, the lines it prints and the lines it complains with. -/
structure Report where
  exit : Nat
  lines : List String
  complaints : List String
  deriving DecidableEq, Repr, Inhabited

/-- What a command comes to that fails. -/
def failed (lines : List String) (f : Failure) : Report := ⟨1, lines, [f.message]⟩

/-- **Performs `run`** on files by content and the bytes of the input. -/
def performRun (r : RunRequest) (file : String → Option String) (input : ByteArray) : Report :=
  match (Batch.perform r.rules file r.trusted input).run (Engine.new r.config) with
  | (.error f, e) => failed e.printed f
  | (.ok (), e) => ⟨0, e.printed ++ closingLines r e, []⟩

/-- **Performs `check`.** -/
def performCheck (r : Check.Request) (pretty : Bool) : Report :=
  match (Check.perform r).run (Engine.new .standard) with
  | (.error f, e) => failed e.printed f
  | (.ok finding, e) => ⟨0, e.printed ++ findingLines pretty finding, []⟩

/-- **Performs what arguments ask for.** -/
def perform (args : List String) (file : String → Option String) (input : ByteArray) : Report :=
  match read? args with
  | none => ⟨2, [], usageLines⟩
  | some .version => ⟨0, [versionLine], []⟩
  | some .help => ⟨0, usageLines, []⟩
  | some (.run r) => performRun r file input
  | some (.check r pretty) => performCheck r pretty

end CommandLine

end Cascade
