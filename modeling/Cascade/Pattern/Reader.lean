import Cascade.Pattern.Node
import Cascade.Pattern.Class
import Cascade.Unicode.Folding

/-!
# Reading trigger patterns

The written form of patterns: literals and escapes, `.` and the anchors, bracketed classes with set
operations, groups with and without names, flags, alternatives, and repetitions with an optional `?`
that makes them reluctant. Look-around and references back to a group are refused, as is everything
that has no meaning.

Flags hold from where they are set to the end of the group they are set in. In verbose mode blanks
and comments between the parts of a pattern are skipped.

A reader that fails refuses the whole pattern; the reason is not kept.

§1 the state; §2 single characters; §3 numbers and names; §4 escapes; §5 bracketed classes; §6 groups
and repetitions; §7 whole patterns.
-/

namespace Cascade.Pattern

open Unicode (CodeSet isBlank isAsciiDigit isAlphabetic isAlphanumeric)

/-! ## §1 The state -/

/-- **The flags** in force. -/
structure Flags where
  caseBlind : Bool
  multiLine : Bool
  dotAll : Bool
  swapGreed : Bool
  unicode : Bool
  returns : Bool
  verbose : Bool
  deriving DecidableEq, Repr, Inhabited

/-- The flags a pattern begins with. -/
def Flags.initial : Flags := ⟨false, false, false, false, true, false, false⟩

/-- Sets or clears a flag by its letter. -/
def Flags.set? (f : Flags) (letter : Char) (on : Bool) : Option Flags :=
  match letter with
  | 'i' => some { f with caseBlind := on }
  | 'm' => some { f with multiLine := on }
  | 's' => some { f with dotAll := on }
  | 'U' => some { f with swapGreed := on }
  | 'u' => some { f with unicode := on }
  | 'R' => some { f with returns := on }
  | 'x' => some { f with verbose := on }
  | _ => none

/-- **The state of reading**: what is left of the pattern, the flags, how many groups have begun, and
the names given so far with the groups they name. -/
structure ReadState where
  rest : List Char
  flags : Flags
  groups : Nat
  names : List (Nat × String)
  deriving Inhabited

/-- A reader of patterns. -/
abbrev Read (α : Type) := StateT ReadState Option α

/-- Refuses the pattern. -/
def refuse : Read α := fun _ => none

/-- Refuses the pattern unless the condition holds. -/
def require (condition : Bool) : Read Unit := if condition then pure () else refuse

/-! ## §2 Single characters -/

/-- The next character, if there is one. -/
def peek? : Read (Option Char) := do return (← get).rest.head?

/-- The next character; there must be one. -/
def peekChar : Read Char := do
  match (← get).rest with
  | [] => refuse
  | c :: _ => return c

/-- Drops the next character. -/
def bump : Read Unit := modify fun s => { s with rest := s.rest.tail }

/-- Drops blanks and comments; `inComment` says where the text begins. -/
def dropVerbose (inComment : Bool) : List Char → List Char
  | [] => []
  | c :: rest =>
    if inComment then dropVerbose (c != '\n') rest
    else if c == '#' then dropVerbose true rest
    else if isBlank c then dropVerbose false rest
    else c :: rest

/-- Skips what verbose mode skips, if it is on. -/
def skipVerbose : Read Unit := modify fun s =>
  if s.flags.verbose then { s with rest := dropVerbose false s.rest } else s

/-- Drops the next character and skips after it. -/
def bumpSkip : Read Unit := do bump; skipVerbose

/-- Drops a text if it comes next. -/
def dropText (text : String) : Read Bool := do
  let s ← get
  if text.toList.isPrefixOf s.rest then
    set { s with rest := s.rest.drop text.length }
    return true
  return false

/-- The character after the next one. -/
def peekSecond : Read (Option Char) := do return (← get).rest.tail.head?

/-- The first character of a text that is neither blank nor the first `#`. A comment ends nothing
here: what stands in it counts, and so does a later `#`. -/
def firstShown (afterMark : Bool) : List Char → Option Char
  | [] => none
  | c :: rest =>
    if isBlank c then firstShown afterMark rest
    else if !afterMark && c == '#' then firstShown true rest
    else some c

/-- The character after a hyphen in a class, which tells whether the hyphen makes a range. In verbose
mode that is the first one shown, if any is. -/
def peekAfterHyphen : Read (Option Char) := do
  let s ← get
  let rest := s.rest.tail
  return if s.flags.verbose then firstShown false rest <|> rest.head? else rest.head?

/-- Takes characters of a class, skipping after each. -/
def takeSkipping (p : Char → Bool) : Nat → Read (List Char)
  | 0 => return []
  | fuel + 1 => do
    match ← peek? with
    | none => return []
    | some c =>
      if p c then
        bumpSkip
        return c :: (← takeSkipping p fuel)
      return []

/-! ## §3 Numbers and names -/

/-- A decimal number of 32 bits, with blanks around it. -/
def decimal : Read Nat := do
  modify fun s => { s with rest := s.rest.dropWhile isBlank }
  let ds ← takeSkipping isAsciiDigit (← get).rest.length
  modify fun s => { s with rest := s.rest.dropWhile isBlank }
  require !ds.isEmpty
  let n := ds.foldl (fun n c => 10 * n + (c.toNat - 48)) 0
  require (n < 4294967296)
  return n

/-- Value of a hexadecimal digit of either case. -/
def hexDigit? (c : Char) : Option Nat := CodeSet.hexValue? c.toUpper

/-- The character of a code point. -/
def charOf (n : Nat) : Read Char := do
  require (n < 0xD800 || (0xDFFF < n && n ≤ 0x10FFFF))
  return Char.ofNat n

/-- The characters of a group name. -/
def isGroupNameChar (first : Bool) (c : Char) : Bool :=
  if first then c == '_' || isAlphabetic c
  else c == '_' || c == '.' || c == '[' || c == ']' || isAlphanumeric c

/-- A group name up to its closing `>`; names are not given twice. -/
def groupName (index : Nat) : Read Unit := do
  let s ← get
  let name := s.rest.takeWhile (· != '>')
  require !name.isEmpty
  require (name.length < s.rest.length)
  require ((name.take 1).all (isGroupNameChar true))
  require ((name.drop 1).all (isGroupNameChar false))
  let text := String.ofList name
  require (!s.names.any fun (_, other) => other == text)
  set { s with rest := s.rest.drop (name.length + 1), names := (index, text) :: s.names }

/-! ## §4 Escapes -/

/-- **A primitive**: what one escape or one plain character stands for. A byte is a character below
256 written with two hexadecimal digits, which matters where Unicode is off. -/
inductive Primitive where
  | literal (c : Char) (byte : Bool)
  | set (s : CodeSet)
  | look (l : Look)
  deriving Inhabited

/-- The characters with a meaning of their own, which an escape takes away. -/
def isMeta (c : Char) : Bool := "\\.+*?()|[]\x7b\x7d^$#&-~".toList.contains c

/-- May a backslash stand before the character without changing it? Letters and digits are kept for
escapes, and so are the two angle brackets. -/
def isEscapable (c : Char) : Bool :=
  isMeta c || (c.toNat < 128 && !c.isAlphanum && c != '<' && c != '>')

/-- Hexadecimal digits, exactly so many, skipping between them. -/
def hexDigits : Nat → Nat → Read Nat
  | 0, n => return n
  | count + 1, n => do
    match hexDigit? (← peekChar) with
    | none => refuse
    | some d =>
      bumpSkip
      hexDigits count (16 * n + d)

/-- A character by its code: two, four or eight digits, or any number of them in braces. -/
def hexLiteral (letter : Char) : Read Primitive := do
  bumpSkip
  if (← peekChar) == '\x7b' then
    bumpSkip
    let ds ← takeSkipping (· != '\x7d') (← get).rest.length
    require ((← peek?) == some '\x7d')
    require !ds.isEmpty
    bumpSkip
    require (ds.all fun c => (hexDigit? c).isSome)
    let n := ds.foldl (fun n c => 16 * n + (hexDigit? c).getD 0) 0
    return .literal (← charOf n) false
  let count := if letter == 'x' then 2 else if letter == 'u' then 4 else 8
  let n ← hexDigits count 0
  return .literal (← charOf n) (letter == 'x')

/-- Refuses a class with characters beyond ASCII where Unicode is off, lest it match a part of a
character. -/
def requireAscii (s : CodeSet) : Read CodeSet := do
  require ((← get).flags.unicode || s.ranges.all fun (_, hi) => hi < 128)
  return s

/-- Closes a class under case where case is ignored, then turns it round if it is negated. -/
def finishClass (negated : Bool) (s : CodeSet) : Read CodeSet := do
  let flags := (← get).flags
  let s :=
    if !flags.caseBlind then s
    else if flags.unicode then s.closeUnderCase
    else
      let ascii := s.inter asciiLettersOnly
      let moved := ascii.ranges.toList.flatMap fun (lo, hi) =>
        if 97 ≤ lo then [(lo - 32, hi - 32)] else if hi ≤ 90 then [(lo + 32, hi + 32)] else []
      CodeSet.ofRanges (s.ranges.toList ++ moved)
  requireAscii (if negated then s.compl else s)
where
  asciiLettersOnly : CodeSet := ⟨#[(65, 90), (97, 122)]⟩

/-- A property class: one letter, or a name in braces. -/
def propertyClass (negated : Bool) : Read Primitive := do
  bumpSkip
  let c ← peekChar
  if c == '\x7b' then
    bumpSkip
    let text ← takeSkipping (· != '\x7d') (← get).rest.length
    require ((← peek?) == some '\x7d')
    bump
    require (← get).flags.unicode
    match bracedProperty? text with
    | none => refuse
    | some (s, turned) => return .set (← finishClass (negated != turned) s)
  require (c != '\\')
  bumpSkip
  require (← get).flags.unicode
  match loneProperty? [c] with
  | none => refuse
  | some s => return .set (← finishClass negated s)

/-- A letter class, in capitals turned round. -/
def letterClass (c : Char) : Read Primitive := do
  bump
  match letterClass? (← get).flags.unicode c.toLower with
  | none => refuse
  | some s => return .set (← requireAscii (if c.isUpper then s.compl else s))

/-- Where a word boundary is named in braces after `\b`; otherwise what the braces hold is left to the
reader of repetitions. -/
def namedBoundary (rule : WordRule) : Read Look := do
  let s ← get
  let isNameChar (c : Char) := c.isAlpha || c == '-'
  if (← peek?) == some '\x7b' then
    bumpSkip
    match ← peek? with
    | none => refuse
    | some c =>
      if isNameChar c then
        let name ← takeSkipping isNameChar (← get).rest.length
        require ((← peek?) == some '\x7d')
        bump
        match String.ofList name with
        | "start" => return .wordStart rule
        | "end" => return .wordEnd rule
        | "start-half" => return .notAfterWord rule
        | "end-half" => return .notBeforeWord rule
        | _ => refuse
      else
        set s
        return .boundary rule
  return .boundary rule

/-- **Reads an escape**, from its backslash on. -/
def escape : Read Primitive := do
  bump
  let c ← peekChar
  if isAsciiDigit c then refuse
  if c == 'x' || c == 'u' || c == 'U' then return ← hexLiteral c
  if c == 'p' || c == 'P' then return ← propertyClass (c == 'P')
  if "dswDSW".toList.contains c then return ← letterClass c
  bump
  let rule : WordRule := if (← get).flags.unicode then .unicode else .ascii
  if isEscapable c then return .literal c false
  match c with
  | 'a' => return .literal '\x07' false
  | 'f' => return .literal '\x0c' false
  | 't' => return .literal '\t' false
  | 'n' => return .literal '\n' false
  | 'r' => return .literal '\r' false
  | 'v' => return .literal '\x0b' false
  | 'A' => return .look .textStart
  | 'z' => return .look .textEnd
  | 'b' => return .look (← namedBoundary rule)
  | 'B' => return .look (.noBoundary rule)
  | '<' => return .look (.wordStart rule)
  | '>' => return .look (.wordEnd rule)
  | _ => refuse

/-! ## §5 Bracketed classes -/

/-- Nesting deeper than this is refused. -/
def deepest : Nat := 250

/-- One level of nesting more, unless that is one too many. -/
def deeper (depth : Nat) : Read Nat := do
  require (depth < deepest)
  return depth + 1

/-- The operations between the parts of a class. -/
inductive ClassOp where
  | inter
  | diff
  | symmDiff
  deriving DecidableEq, Repr

/-- **A part of a class and how deep its written form nests**: brackets, several items side by side,
and operations are a level each. -/
structure ClassPart where
  set : CodeSet
  depth : Nat
  deriving Inhabited

/-- **The items read so far** that stand side by side: their characters, how many they are, and how
deep the deepest of them nests. -/
structure ClassItems where
  set : CodeSet
  count : Nat
  depth : Nat
  deriving Inhabited

/-- No items. -/
def ClassItems.none : ClassItems := ⟨.empty, 0, 0⟩

/-- One item more. -/
def ClassItems.add (items : ClassItems) (set : CodeSet) (depth : Nat) : ClassItems :=
  ⟨items.set.union set, items.count + 1, max items.depth depth⟩

/-- Items as one part: several of them are a level, a single one is not. -/
def ClassItems.part (items : ClassItems) : Read ClassPart := do
  if items.count < 2 then return ⟨items.set, items.depth⟩
  return ⟨items.set, ← deeper items.depth⟩

/-- What stands to the left of an operation, joined with what stands to its right. Case is closed
over on both sides before. -/
def joinClass (left : Option (ClassOp × ClassPart)) (right : ClassPart) : Read ClassPart := do
  match left with
  | none => return right
  | some (op, left) =>
    let depth ← deeper (max left.depth right.depth)
    let a ← finishClass false left.set
    let b ← finishClass false right.set
    match op with
    | .inter => return ⟨a.inter b, depth⟩
    | .diff => return ⟨a.diff b, depth⟩
    | .symmDiff => return ⟨a.symmDiff b, depth⟩

/-- An ASCII name such as `[:alpha:]`, if one comes next; otherwise nothing is read. -/
def asciiName? : Read (Option CodeSet) := do
  let s ← get
  if ← dropText "[:" then
    let negated ← dropText "^"
    let name := (← get).rest.takeWhile (· != ':')
    modify fun s => { s with rest := s.rest.drop name.length }
    if ← dropText ":]" then
      match asciiClass? (String.ofList name) with
      | some c => return some (← finishClass negated c)
      | none => pure ()
  set s
  return none

/-- One item of a class: an escape or a plain character. -/
def classItem : Read Primitive := do
  if (← peekChar) == '\\' then escape
  else
    let c ← peekChar
    bump
    return .literal c false

/-- The literal that an end of a range must be. -/
def rangeEnd : Primitive → Read Nat
  | .literal c _ => do
    require ((← get).flags.unicode || c.toNat < 128)
    return c.toNat
  | _ => refuse

/-- An item of a class, or a range of characters. -/
def classRange : Read CodeSet := do
  let first ← classItem
  skipVerbose
  let c ← peekChar
  let second ← peekAfterHyphen
  if c != '-' || second == some ']' || second == some '-' then
    match first with
    | .literal _ _ => return .single (← rangeEnd first)
    | .set s => return s
    | .look _ => refuse
  bumpSkip
  require (← peek?).isSome
  let last ← classItem
  let lo ← rangeEnd first
  let hi ← rangeEnd last
  require (lo ≤ hi)
  return .range lo hi

/-- Hyphens at the front of a class are plain characters; each is an item. -/
def leadingHyphens (items : ClassItems) : Nat → Read ClassItems
  | 0 => return items
  | fuel + 1 => do
    if (← peekChar) == '-' then
      bumpSkip
      leadingHyphens (items.add (.single '-'.toNat) 0) fuel
    else return items

mutual

/-- A class from its opening bracket on. -/
def bracketClass : Nat → Read ClassPart
  | 0 => refuse
  | fuel + 1 => do
    bumpSkip
    let negated := (← peekChar) == '^'
    if negated then bumpSkip
    let items ← leadingHyphens .none (← get).rest.length
    if items.count == 0 && (← peekChar) == ']' then
      bumpSkip
      classBody negated none (items.add (.single ']'.toNat) 0) fuel
    else classBody negated none items fuel

/-- The items and operations of a class, up to its closing bracket. -/
def classBody (negated : Bool) (left : Option (ClassOp × ClassPart)) (items : ClassItems) :
    Nat → Read ClassPart
  | 0 => refuse
  | fuel + 1 => do
    skipVerbose
    let c ← peekChar
    let second ← peekSecond
    if c == '[' then
      match ← asciiName? with
      | some s => classBody negated left (items.add s 0) fuel
      | none =>
        let inner ← bracketClass fuel
        classBody negated left (items.add inner.set inner.depth) fuel
    else if c == ']' then
      bump
      let whole ← joinClass left (← items.part)
      return ⟨← finishClass negated whole.set, ← deeper whole.depth⟩
    else if (c == '&' || c == '-' || c == '~') && second == some c then
      bump
      bump
      let op := if c == '&' then .inter else if c == '-' then .diff else .symmDiff
      let joined ← joinClass left (← items.part)
      classBody negated (some (op, joined)) .none fuel
    else
      let s ← classRange
      classBody negated left (items.add s 0) fuel

end

/-! ## §6 Groups and repetitions -/

/-- A plain character as a tree. -/
def literalNode (c : Char) (byte : Bool) : Read Node := do
  let flags := (← get).flags
  require (flags.unicode || !byte || c.toNat < 128)
  if flags.unicode || c.toNat < 128 then
    return .ofSet (← finishClass false (.single c.toNat))
  return .text [c]

/-- A primitive as a tree. -/
def primitiveNode : Primitive → Read Node
  | .literal c byte => literalNode c byte
  | .set s => return .ofSet s
  | .look l => return .look l

/-- The dot: any character, without `dotAll` no line break. -/
def dotNode : Read Node := do
  let flags := (← get).flags
  require flags.unicode
  if flags.dotAll then return .chars .all
  let breaks : CodeSet := if flags.returns then ⟨#[(10, 10), (13, 13)]⟩ else .single 10
  return .chars breaks.compl

/-- The anchor at a start or an end. -/
def anchorNode (atStart : Bool) : Read Node := do
  let flags := (← get).flags
  return .look (
    match flags.multiLine, flags.returns, atStart with
    | false, _, true => .textStart
    | false, _, false => .textEnd
    | true, false, true => .lineStart
    | true, false, false => .lineEnd
    | true, true, true => .returnLineStart
    | true, true, false => .returnLineEnd)

/-- Flag letters up to `:` or `)`; no letter comes twice, there is at most one minus, and it has
letters after it. Gives the flags and how many items there were. -/
def flagItems (flags : Flags) (seen : List Char) (on : Bool) (pending : Bool) :
    Nat → Read (Flags × Nat)
  | 0 => refuse
  | fuel + 1 => do
    let c ← peekChar
    if c == ':' || c == ')' then
      require !pending
      return (flags, seen.length)
    require (!seen.contains c)
    bump
    if c == '-' then flagItems flags (c :: seen) false true fuel
    else
      match flags.set? c on with
      | none => refuse
      | some flags => flagItems flags (c :: seen) on false fuel

/-- **A tree and how deep its written form nests**: groups, repetitions, sequences, alternatives and
bracketed classes are a level each. -/
structure Nested where
  tree : Node
  depth : Nat
  deriving Inhabited

/-- One level more around a tree. -/
def Nested.around (inner : Nested) (tree : Node) : Read Nested :=
  return ⟨tree, ← deeper inner.depth⟩

/-- **What a part of a sequence is**: a tree that may be repeated, or flags being set. -/
inductive Part where
  | node (n : Nested)
  | flags
  deriving Inhabited

/-- The tree of a part. -/
def Part.nested : Part → Nested
  | .node n => n
  | .flags => ⟨.empty, 0⟩

/-- Several trees as one, a level around them; a single one stays as it is. -/
def together (join : List Node → Node) (trees : List Nested) : Read Nested :=
  match trees with
  | [] => return ⟨.empty, 0⟩
  | [n] => return n
  | _ =>
    let inner : Nested := ⟨join (trees.map Nested.tree), (trees.map Nested.depth).foldl max 0⟩
    inner.around inner.tree

/-- The parts of a sequence as one tree; the last part comes first. -/
def sequenceParts (parts : List Part) : Read Nested :=
  together .sequence (parts.reverse.map Part.nested)

/-- Takes the last part, which must be something to repeat. -/
def lastNode : List Part → Read (Nested × List Part)
  | .node n :: rest => return (n, rest)
  | _ => refuse

/-- Is the repetition marked as reluctant? -/
def reluctant : Read Bool := do
  if (← peek?) == some '?' then
    bump
    return true
  return false

/-- A repetition of the last part. -/
def repeatLast (parts : List Part) (least : Nat) (most : Option Nat) (lazy : Bool) :
    Read (List Part) := do
  let (n, rest) ← lastNode parts
  let greedy := lazy == (← get).flags.swapGreed
  return .node (← n.around (n.tree.repeating least most greedy)) :: rest

/-- The counts in the braces of a repetition: exactly, at least, or between. -/
def counts : Read (Nat × Option Nat) := do
  bumpSkip
  require (← peek?).isSome
  let least ← decimal
  let most ← (do
    if (← peekChar) == ',' then
      bumpSkip
      if (← peekChar) == '\x7d' then return none
      return some (← decimal)
    return some least)
  require ((← peek?) == some '\x7d')
  bumpSkip
  return (least, most)

/-- What stands after the opening parenthesis of a group. -/
inductive GroupKind where
  | capture (index : Nat)
  | plain (flags : Flags)
  | setFlags (flags : Flags)

/-- A new group. -/
def newGroup : Read Nat := do
  let index := (← get).groups + 1
  modify fun s => { s with groups := index }
  return index

/-- Reads what kind of group begins, from its opening parenthesis on. -/
def groupKind : Read GroupKind := do
  bumpSkip
  if ← dropText "?=" then refuse
  if ← dropText "?!" then refuse
  if ← dropText "?<=" then refuse
  if ← dropText "?<!" then refuse
  let long ← dropText "?P<"
  let named ← if long then pure true else dropText "?<"
  if named then
    let index ← newGroup
    groupName index
    return .capture index
  if ← dropText "?" then
    let s ← get
    let (flags, items) ← flagItems s.flags [] true false (s.rest.length + 1)
    let closing ← peekChar
    bump
    if closing == ')' then
      require (items != 0)
      return .setFlags flags
    return .plain flags
  return .capture (← newGroup)

/-- Sets the flags in force. -/
def setFlags (flags : Flags) : Read Unit := modify fun s => { s with flags }

mutual

/-- Alternatives, up to a closing parenthesis or the end; `branches` holds those read, the last
first. -/
def alternatives (branches : List Nested) : Nat → Read Nested
  | 0 => refuse
  | fuel + 1 => do
    let branches := (← sequenceOf [] fuel) :: branches
    if (← peek?) == some '|' then
      bump
      alternatives branches fuel
    else together .choice branches.reverse

/-- Parts in sequence; `parts` holds those read, the last first. -/
def sequenceOf (parts : List Part) : Nat → Read Nested
  | 0 => refuse
  | fuel + 1 => do
    skipVerbose
    match ← peek? with
    | none => sequenceParts parts
    | some c =>
      if c == '|' || c == ')' then sequenceParts parts
      else if c == '(' then
        let outer := (← get).flags
        match ← groupKind with
        | .setFlags flags =>
          setFlags flags
          sequenceOf (.flags :: parts) fuel
        | .plain flags =>
          setFlags flags
          let n ← groupBody outer fuel
          sequenceOf (.node (← n.around n.tree) :: parts) fuel
        | .capture index =>
          let n ← groupBody outer fuel
          sequenceOf (.node (← n.around (.group index n.tree)) :: parts) fuel
      else if c == '[' then
        let part ← bracketClass ((← get).rest.length + 1)
        sequenceOf (.node ⟨.ofSet part.set, part.depth⟩ :: parts) fuel
      else if c == '?' || c == '*' || c == '+' then
        bump
        let lazy ← reluctant
        let least := if c == '+' then 1 else 0
        let most := if c == '?' then some 1 else none
        sequenceOf (← repeatLast parts least most lazy) fuel
      else if c == '\x7b' then
        let _ ← lastNode parts
        let (least, most) ← counts
        let lazy ← reluctant
        require (most.all fun most => least ≤ most)
        sequenceOf (← repeatLast parts least most lazy) fuel
      else if c == '\\' then
        sequenceOf (.node ⟨← primitiveNode (← escape), 0⟩ :: parts) fuel
      else
        bump
        let n ← (
          if c == '.' then dotNode
          else if c == '^' then anchorNode true
          else if c == '$' then anchorNode false
          else literalNode c false)
        sequenceOf (.node ⟨n, 0⟩ :: parts) fuel

/-- The inside of a group and its closing parenthesis; the flags from outside hold again after it. -/
def groupBody (outer : Flags) : Nat → Read Nested
  | 0 => refuse
  | fuel + 1 => do
    let n ← alternatives [] fuel
    require ((← peek?) == some ')')
    bump
    setFlags outer
    return n

end

/-! ## §7 Whole patterns -/

/-- **A pattern as read**: its tree, how many groups it has beside group 0, and the names of groups
in ascending order of the groups. -/
structure Reading where
  tree : Node
  groups : Nat
  names : List (Nat × String)
  deriving Inhabited

/-- **Reads a pattern**; nothing if it is refused. -/
def read (pattern : String) : Option Reading :=
  let text := pattern.toList
  match alternatives [] (3 * text.length + 4) ⟨text, .initial, 0, []⟩ with
  | some (n, s) =>
    if s.rest.isEmpty then some ⟨n.tree, s.groups, s.names.reverse⟩ else none
  | none => none

end Cascade.Pattern
