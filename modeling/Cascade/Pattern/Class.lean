import Cascade.Unicode.Age
import Cascade.Unicode.Break

/-!
# Named character classes

The classes that patterns write by name: the three letters `d`, `s` and `w`, the bracketed ASCII
names such as `[:alpha:]`, and the properties `\p` asks for: by a yes-or-no property, by general
category or script, or by another property and its value.

§1 the letter classes; §2 the ASCII names; §3 properties.
-/

namespace Cascade.Pattern

open Unicode (CodeSet)

/-! ## §1 Letter classes -/

/-- The digits, blanks and word characters of ASCII. -/
def asciiDigits : CodeSet := .range 48 57

def asciiBlanks : CodeSet := ⟨#[(9, 13), (32, 32)]⟩

def asciiWords : CodeSet := ⟨#[(48, 57), (65, 90), (95, 95), (97, 122)]⟩

/-- The class that a letter stands for, over all of Unicode or ASCII alone. -/
def letterClass? (unicode : Bool) (c : Char) : Option CodeSet :=
  match c with
  | 'd' => some (if unicode then Unicode.decimalDigits else asciiDigits)
  | 's' => some (if unicode then Unicode.blanks else asciiBlanks)
  | 'w' => some (if unicode then Unicode.wordCharacters else asciiWords)
  | _ => none

/-! ## §2 ASCII names -/

/-- The class of an ASCII name. -/
def asciiClass? (name : String) : Option CodeSet :=
  match name with
  | "alnum" => some ⟨#[(48, 57), (65, 90), (97, 122)]⟩
  | "alpha" => some ⟨#[(65, 90), (97, 122)]⟩
  | "ascii" => some ⟨#[(0, 127)]⟩
  | "blank" => some ⟨#[(9, 9), (32, 32)]⟩
  | "cntrl" => some ⟨#[(0, 31), (127, 127)]⟩
  | "digit" => some asciiDigits
  | "graph" => some ⟨#[(33, 126)]⟩
  | "lower" => some ⟨#[(97, 122)]⟩
  | "print" => some ⟨#[(32, 126)]⟩
  | "punct" => some ⟨#[(33, 47), (58, 64), (91, 96), (123, 126)]⟩
  | "space" => some asciiBlanks
  | "upper" => some ⟨#[(65, 90)]⟩
  | "word" => some asciiWords
  | "xdigit" => some ⟨#[(48, 57), (65, 70), (97, 102)]⟩
  | _ => none

/-! ## §3 Properties -/

/-- The general categories and their groups: names in small letters without separators, and the
categories meant. Surrogates are no characters, so no name leads to their category. -/
def categoryNames : List (List String × List String) :=
  [(["lu", "uppercaseletter"], ["Lu"]), (["ll", "lowercaseletter"], ["Ll"]),
    (["lt", "titlecaseletter"], ["Lt"]), (["lm", "modifierletter"], ["Lm"]),
    (["lo", "otherletter"], ["Lo"]), (["l", "letter"], ["Lu", "Ll", "Lt", "Lm", "Lo"]),
    (["lc", "casedletter"], ["Lu", "Ll", "Lt"]), (["mn", "nonspacingmark"], ["Mn"]),
    (["mc", "spacingmark"], ["Mc"]), (["me", "enclosingmark"], ["Me"]),
    (["m", "mark", "combiningmark"], ["Mn", "Mc", "Me"]),
    (["nd", "decimalnumber", "digit"], ["Nd"]), (["nl", "letternumber"], ["Nl"]),
    (["no", "othernumber"], ["No"]), (["n", "number"], ["Nd", "Nl", "No"]),
    (["pc", "connectorpunctuation"], ["Pc"]), (["pd", "dashpunctuation"], ["Pd"]),
    (["ps", "openpunctuation"], ["Ps"]), (["pe", "closepunctuation"], ["Pe"]),
    (["pi", "initialpunctuation"], ["Pi"]), (["pf", "finalpunctuation"], ["Pf"]),
    (["po", "otherpunctuation"], ["Po"]),
    (["p", "punctuation", "punct"], ["Pc", "Pd", "Ps", "Pe", "Pi", "Pf", "Po"]),
    (["sm", "mathsymbol"], ["Sm"]), (["sc", "currencysymbol"], ["Sc"]),
    (["sk", "modifiersymbol"], ["Sk"]), (["so", "othersymbol"], ["So"]),
    (["s", "symbol"], ["Sm", "Sc", "Sk", "So"]), (["zs", "spaceseparator"], ["Zs"]),
    (["zl", "lineseparator"], ["Zl"]), (["zp", "paragraphseparator"], ["Zp"]),
    (["z", "separator"], ["Zs", "Zl", "Zp"]), (["cc", "control", "cntrl"], ["Cc"]),
    (["cf", "format"], ["Cf"]), (["co", "privateuse"], ["Co"]), (["cn", "unassigned"], ["Cn"]),
    (["c", "other"], ["Cc", "Cf", "Cs", "Co", "Cn"])]

/-- **Names in normal form**: a leading `is` is dropped, then all blanks, hyphens, underscores and
characters beyond ASCII, and capitals become small. What is left of `isc` is not `c`, a category, but
the name itself. -/
def normalizeName (name : List Char) : String :=
  let led := (name.take 2).map Char.toLower == ['i', 's']
  let kept := ((if led then name.drop 2 else name).filter fun c =>
    c.toNat < 128 && c != ' ' && c != '_' && c != '-').map Char.toLower
  if led && kept == ['c'] then "isc" else String.ofList kept

/-- The general category of a normalised name. -/
def category? (name : String) : Option CodeSet :=
  match name with
  | "any" => some .all
  | "ascii" => some (.range 0 127)
  | "assigned" => some (Unicode.categoriesIn ["Cn"]).compl
  | _ => (categoryNames.find? (·.1.contains name)).map fun entry => Unicode.categoriesIn entry.2

/-- **The class of a name that stands by itself**: a yes-or-no property, a general category or a
script, in this order. -/
def loneProperty? (name : List Char) : Option CodeSet :=
  let name := normalizeName name
  ((Unicode.Property.named? name).map Unicode.Property.members <|> category? name) <|>
    Unicode.script? name

/-- The class of a property and its value. -/
def propertyValue? (property value : List Char) : Option CodeSet :=
  let value := normalizeName value
  match normalizeName property with
  | "gc" | "generalcategory" => category? value
  | "sc" | "script" => Unicode.script? value
  | "scx" | "scriptextensions" => Unicode.scriptUses? value
  | "age" => Unicode.assignedBy? value
  | "gcb" | "graphemeclusterbreak" =>
    (Unicode.GraphemeBreak.named? value).map Unicode.GraphemeBreak.members
  | "wb" | "wordbreak" => (Unicode.WordBreak.named? value).map Unicode.WordBreak.members
  | "sb" | "sentencebreak" =>
    (Unicode.SentenceBreak.named? value).map Unicode.SentenceBreak.members
  | _ => none

/-- Splits a text at the first place where a separator stands. -/
def splitAtText (separator : List Char) : List Char → Option (List Char × List Char)
  | [] => if separator.isEmpty then some ([], []) else none
  | c :: rest =>
    if separator.isPrefixOf (c :: rest) then some ([], (c :: rest).drop separator.length)
    else (splitAtText separator rest).map fun (front, back) => (c :: front, back)

/-- **The class that the text between the braces of `\p` names**; the flag says that the value was
asked for with `!=`, which turns the class round. -/
def bracedProperty? (text : List Char) : Option (CodeSet × Bool) :=
  match splitAtText ['!', '='] text with
  | some (property, value) => (propertyValue? property value).map (·, true)
  | none =>
    match splitAtText [':'] text with
    | some (property, value) => (propertyValue? property value).map (·, false)
    | none =>
      match splitAtText ['='] text with
      | some (property, value) => (propertyValue? property value).map (·, false)
      | none => (loneProperty? text).map (·, false)

end Cascade.Pattern
