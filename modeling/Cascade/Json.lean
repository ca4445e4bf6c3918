import Cascade.Value

/-!
# JSON texts

The documents that snapshots and check results are written as. Objects keep their members in
ascending order of the names. Two layouts: compact, and indented by two spaces.

§1 the type and the value as a document; §2 strings; §3 the compact layout; §4 the indented layout.
-/

namespace Cascade

/-! ## §1 The type -/

/-- **A JSON document.** -/
inductive Json where
  | null
  | bool (b : Bool)
  | number (text : String)
  | string (s : String)
  | array (items : List Json)
  | object (members : List (String × Json))
  deriving Inhabited

namespace Json

mutual

/-- **A value as a document**; a double that is not finite is `null`. -/
def ofValue : Value → Json
  | .int n => .number (Value.displayInt n)
  | .double x =>
    match Numeral.jsonDouble? x with
    | some text => .number text
    | none => .null
  | .string s => .string s
  | .bool b => .bool b
  | .list items => .array (ofValues items)

/-- The items of a list as documents. -/
def ofValues : List Value → List Json
  | [] => []
  | v :: vs => ofValue v :: ofValues vs

end

/-- A value that may be missing; a missing one is `null`. -/
def ofValue? : Option Value → Json
  | none => .null
  | some v => ofValue v

/-! ## §2 Strings -/

/-- A hexadecimal digit in small letters. -/
def hexDigit (n : Nat) : Char :=
  if n < 10 then Char.ofNat ('0'.toNat + n) else Char.ofNat ('a'.toNat + n - 10)

/-- How a character is written inside a string: the two special characters and the controls are
escaped, everything else stands for itself. -/
def escapeChar (c : Char) : List Char :=
  if c == '"' then ['\\', '"']
  else if c == '\\' then ['\\', '\\']
  else if c.toNat = 8 then ['\\', 'b']
  else if c.toNat = 12 then ['\\', 'f']
  else if c == '\n' then ['\\', 'n']
  else if c == '\r' then ['\\', 'r']
  else if c == '\t' then ['\\', 't']
  else if c.toNat < 32 then
    ['\\', 'u', '0', '0', hexDigit (c.toNat / 16), hexDigit (c.toNat % 16)]
  else [c]

/-- A string in quotes. -/
def quoted (s : String) : String :=
  String.ofList ('"' :: (s.toList.flatMap escapeChar ++ ['"']))

/-! ## §3 The compact layout -/

mutual

/-- **The compact text of a document.** -/
def compact : Json → String
  | .null => "null"
  | .bool b => if b then "true" else "false"
  | .number text => text
  | .string s => quoted s
  | .array items => "[" ++ ",".intercalate (compactItems items) ++ "]"
  | .object members => "\x7b" ++ ",".intercalate (compactMembers members) ++ "\x7d"

def compactItems : List Json → List String
  | [] => []
  | j :: js => compact j :: compactItems js

def compactMembers : List (String × Json) → List String
  | [] => []
  | (name, j) :: rest => (quoted name ++ ":" ++ compact j) :: compactMembers rest

end

/-! ## §4 The indented layout -/

/-- The spaces in front of a line at a nesting depth. -/
def indent (depth : Nat) : String := String.ofList (List.replicate (2 * depth) ' ')

/-- Puts parts on lines of their own between two brackets; without parts the brackets touch. -/
def bracketed (opening closing : String) (depth : Nat) (parts : List String) : String :=
  if parts.isEmpty then opening ++ closing
  else
    opening ++ "\n" ++ ",\n".intercalate (parts.map fun p => indent (depth + 1) ++ p) ++ "\n" ++
      indent depth ++ closing

mutual

/-- The indented text of a document that stands at a nesting depth. -/
def indentedAt (depth : Nat) : Json → String
  | .null => "null"
  | .bool b => if b then "true" else "false"
  | .number text => text
  | .string s => quoted s
  | .array items => bracketed "[" "]" depth (indentedItems (depth + 1) items)
  | .object members => bracketed "\x7b" "\x7d" depth (indentedMembers (depth + 1) members)

def indentedItems (depth : Nat) : List Json → List String
  | [] => []
  | j :: js => indentedAt depth j :: indentedItems depth js

def indentedMembers (depth : Nat) : List (String × Json) → List String
  | [] => []
  | (name, j) :: rest =>
    (quoted name ++ ": " ++ indentedAt depth j) :: indentedMembers depth rest

end

/-- **The indented text of a document.** -/
def indented (j : Json) : String := indentedAt 0 j

end Json

end Cascade
