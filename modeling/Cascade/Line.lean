import Cascade.Text.Trim

/-!
# The line protocol

A line is cleaned of its comment and of the blanks around it; what is left says what the line is for.

| line                  | meaning                                          |
|-----------------------|--------------------------------------------------|
| `key value`           | data: sets the symbol, unless a trigger matches  |
| `:key expression`     | defines a rule                                   |
| `:key`                | removes a rule                                   |
| `/pattern/expression` | defines a trigger                                |

§1 kinds of lines; §2 triggers; §3 reading a line.
-/

namespace Cascade

/-! ## §1 Kinds of lines -/

/-- **What a line is for.** -/
inductive Line where
  /-- Nothing is left of it. -/
  | blank
  | define (key source : String)
  | remove (key : String)
  | trigger (pattern source : String)
  /-- It begins like a trigger but has not the two parts of one. -/
  | brokenTrigger
  | data
  deriving DecidableEq, Repr, Inhabited

namespace Line

/-! ## §2 Triggers -/

/-- **Splits at the first slash that no backslash escapes.** The flag says that the character to come
is escaped. -/
def splitTrigger (escaped : Bool) : List Char → Option (List Char × List Char)
  | [] => none
  | c :: rest =>
    if escaped then (splitTrigger false rest).map fun p => (c :: p.1, p.2)
    else if c == '\\' then (splitTrigger true rest).map fun p => (c :: p.1, p.2)
    else if c == '/' then some ([], rest)
    else (splitTrigger false rest).map fun p => (c :: p.1, p.2)

/-- A trigger line without its first slash. -/
def readTrigger (body : List Char) : Line :=
  match splitTrigger false body with
  | none => .brokenTrigger
  | some (pattern, source) =>
    if pattern.isEmpty || (Text.trim source).isEmpty then .brokenTrigger
    else .trigger (String.ofList pattern) (String.ofList (Text.trim source))

/-! ## §3 Reading a line -/

/-- A definition line without its colon. -/
def readDefinition (body : List Char) : Line :=
  match Text.splitAtBlank body with
  | none => .remove (String.ofList body)
  | some (key, source) =>
    if (Text.trim source).isEmpty then .remove (String.ofList key)
    else .define (String.ofList key) (String.ofList (Text.trim source))

/-- What a cleaned line is for. -/
def classify : List Char → Line
  | [] => .blank
  | ':' :: body => readDefinition body
  | '/' :: body => readTrigger body
  | _ :: _ => .data

/-- **What a line is for.** -/
def read (line : String) : Line := classify (Text.clean line.toList)

/-- What is left of a line. -/
def content (line : String) : String := String.ofList (Text.clean line.toList)

/-- The key and the value of a data line, if it has both. -/
def assignment? (content : String) : Option (String × List Char) :=
  (Text.splitAtBlank content.toList).map fun p => (String.ofList p.1, Text.trim p.2)

end Line

end Cascade
