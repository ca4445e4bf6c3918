/-!
# Reading arguments

Arguments are options and positional arguments, in any order. An option is written `--name`, or with a
letter of its own `-n`. One that takes a value is written `--name value`, `--name=value`, `-n value`,
`-nvalue` or `-n=value`; letters without a value may be joined, as in `-ab`. After `--` everything is
positional, and so is a single hyphen. A value that begins with a hyphen must be attached to its
option.

§1 options; §2 what has been read; §3 reading.
-/

namespace Cascade.CommandLine

/-! ## §1 Options -/

/-- **An option that a command knows.** -/
structure Switch where
  name : String
  letter : Option Char
  takesValue : Bool
  /-- May the option be given more than once? -/
  repeatable : Bool
  deriving DecidableEq, Repr, Inhabited

/-! ## §2 What has been read -/

/-- **What arguments say**: the options given, with their values if they take one, and the positional
arguments, each in the order given. -/
structure Arguments where
  given : List (String × String)
  positional : List String
  deriving DecidableEq, Repr, Inhabited

namespace Arguments

/-- Is the option given? -/
def has (a : Arguments) (name : String) : Bool := a.given.any (·.1 == name)

/-- The values given for an option. -/
def valuesOf (a : Arguments) (name : String) : List String :=
  (a.given.filter (·.1 == name)).map Prod.snd

/-- Is every option that must not be repeated given at most once? -/
def unrepeated (a : Arguments) (switches : List Switch) : Bool :=
  switches.all fun s => s.repeatable || (a.valuesOf s.name).length ≤ 1

/-- One more option. -/
def give (a : Arguments) (name value : String) : Arguments :=
  { a with given := a.given ++ [(name, value)] }

/-- More positional arguments. -/
def place (a : Arguments) (texts : List String) : Arguments :=
  { a with positional := a.positional ++ texts }

end Arguments

/-! ## §3 Reading -/

/-- **How an argument begins.** -/
inductive Shape where
  | separator
  | long (body : List Char)
  | letters (body : List Char)
  | plain

/-- How a text begins; a single hyphen is plain. -/
def shapeOf (text : String) : Shape :=
  match text.toList with
  | ['-', '-'] => .separator
  | '-' :: '-' :: body => .long body
  | '-' :: c :: body => .letters (c :: body)
  | _ => .plain

/-- Is the text a value by itself, and not an option? -/
def isPlain (text : String) : Bool :=
  match shapeOf text with
  | .plain => true
  | _ => false

/-- What an option that takes a value leads to: a value attached, or the next argument wanted. -/
inductive Letters where
  | done (a : Arguments)
  | wants (name : String) (a : Arguments)

/-- The value attached to a letter, behind an equals sign or not. -/
def attached : List Char → String
  | '=' :: value => String.ofList value
  | value => String.ofList value

/-- Reads joined letters. -/
def readLetters (switches : List Switch) (a : Arguments) : List Char → Option Letters
  | [] => some (.done a)
  | c :: rest =>
    match switches.find? (·.letter == some c) with
    | none => none
    | some s =>
      if !s.takesValue then readLetters switches (a.give s.name "") rest
      else if rest.isEmpty then some (.wants s.name a)
      else some (.done (a.give s.name (attached rest)))

/-- Reads a long option. -/
def readLong (switches : List Switch) (a : Arguments) (body : List Char) : Option Letters :=
  let name := String.ofList (body.takeWhile (· != '='))
  match switches.find? (·.name == name), body.dropWhile (· != '=') with
  | none, _ => none
  | some s, [] => some (if s.takesValue then .wants s.name a else .done (a.give s.name ""))
  | some s, _ :: value =>
    if s.takesValue then some (.done (a.give s.name (String.ofList value))) else none

/-- Reads arguments one after the other; `wanted` is the option that waits for its value. -/
def readFrom (switches : List Switch) (wanted : Option String) (a : Arguments) :
    List String → Option Arguments
  | [] => if wanted.isNone then some a else none
  | text :: rest =>
    match wanted with
    | some name =>
      if isPlain text then readFrom switches none (a.give name text) rest else none
    | none =>
      match shapeOf text with
      | .separator => some (a.place rest)
      | .plain => readFrom switches none (a.place [text]) rest
      | .letters body =>
        match readLetters switches a body with
        | none => none
        | some (.done a) => readFrom switches none a rest
        | some (.wants name a) => readFrom switches (some name) a rest
      | .long body =>
        match readLong switches a body with
        | none => none
        | some (.done a) => readFrom switches none a rest
        | some (.wants name a) => readFrom switches (some name) a rest

/-- **Reads the arguments of a command**, if they are in order. -/
def Arguments.read (switches : List Switch) (texts : List String) : Option Arguments :=
  match readFrom switches none ⟨[], []⟩ texts with
  | none => none
  | some a => if a.unrepeated switches then some a else none

end Cascade.CommandLine
