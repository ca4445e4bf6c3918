import Cascade.Unicode.Alphabetic

/-!
# The tree of a trigger pattern

A pattern is built from sets of characters, assertions about a place in the text, groups, sequence,
alternatives and repetition. Flags and classes are resolved while the pattern is read, so the tree
knows nothing of them.

§1 assertions; §2 the tree; §3 what its shape tells about its matches; §4 normal forms.
-/

namespace Cascade.Pattern

/-! ## §1 Assertions -/

/-- What a word boundary counts as a word: by the Unicode rule or by the ASCII rule. -/
inductive WordRule where
  | unicode
  | ascii
  deriving DecidableEq, Repr

/-- Does the rule count the character as part of a word? -/
def WordRule.counts (rule : WordRule) (c : Char) : Bool :=
  match rule with
  | .unicode => Unicode.isWordCharacter c
  | .ascii => Unicode.isAsciiLetter c || Unicode.isAsciiDigit c || c == '_'

/-- **An assertion** about the place between two characters. -/
inductive Look where
  | textStart
  | textEnd
  | lineStart
  | lineEnd
  /-- Line starts and ends where a carriage return counts as a line break. -/
  | returnLineStart
  | returnLineEnd
  | boundary (rule : WordRule)
  | noBoundary (rule : WordRule)
  | wordStart (rule : WordRule)
  | wordEnd (rule : WordRule)
  | notAfterWord (rule : WordRule)
  | notBeforeWord (rule : WordRule)
  deriving DecidableEq, Repr

/-- **Does the assertion hold** between these two characters? A missing one is an end of the text. -/
def Look.holds (look : Look) (before after : Option Char) : Bool :=
  match look with
  | .textStart => before.isNone
  | .textEnd => after.isNone
  | .lineStart => before.isNone || before == some '\n'
  | .lineEnd => after.isNone || after == some '\n'
  | .returnLineStart =>
    before.isNone || before == some '\n' || (before == some '\r' && after != some '\n')
  | .returnLineEnd =>
    after.isNone || after == some '\r' || (after == some '\n' && before != some '\r')
  | .boundary rule => before.any rule.counts != after.any rule.counts
  | .noBoundary rule => before.any rule.counts == after.any rule.counts
  | .wordStart rule => !before.any rule.counts && after.any rule.counts
  | .wordEnd rule => before.any rule.counts && !after.any rule.counts
  | .notAfterWord rule => !before.any rule.counts
  | .notBeforeWord rule => !after.any rule.counts

/-! ## §2 The tree -/

/-- **A pattern tree.** A sequence or a choice of several trees leans to the right: its first tree,
and then the rest. -/
inductive Node where
  | empty
  /-- One or more characters, each as it is. -/
  | text (cs : List Char)
  | chars (set : Unicode.CodeSet)
  | look (l : Look)
  | group (index : Nat) (inner : Node)
  | cat (first second : Node)
  | alt (first second : Node)
  /-- At least `least` times, and at most `most` if that is given; as often as possible if greedy. -/
  | repeated (inner : Node) (least : Nat) (most : Option Nat) (greedy : Bool)
  deriving Inhabited, DecidableEq

namespace Node

/-! ## §3 What the shape of a tree tells -/

/-- The length of a shortest match in characters, if there can be one. -/
def shortest? : Node → Option Nat
  | empty => some 0
  | text cs => some cs.length
  | chars set => if set.ranges.isEmpty then none else some 1
  | look _ => some 0
  | group _ inner => inner.shortest?
  | cat a b => a.shortest?.bind fun n => b.shortest?.map (n + ·)
  | alt a b => a.shortest?.bind fun n => b.shortest?.map (min n ·)
  | repeated inner least _ _ => inner.shortest?.map (least * ·)

/-- Does every match take a character? -/
def consumes (n : Node) : Bool := n.shortest?.any (0 < ·)

/-- Can the tree match nothing but the empty text? -/
def onlyEmpty : Node → Bool
  | empty => true
  | text cs => cs.isEmpty
  | chars _ => false
  | look _ => true
  | group _ inner => inner.onlyEmpty
  | cat a b => a.onlyEmpty && b.onlyEmpty
  | alt a b => a.onlyEmpty && b.onlyEmpty
  | repeated inner _ most _ => inner.onlyEmpty || most == some 0

/-- Does every match begin with this assertion? -/
def beginsWith (l : Look) : Node → Bool
  | empty => false
  | text _ => false
  | chars _ => false
  | look l' => l' == l
  | group _ inner => inner.beginsWith l
  | cat a b => a.beginsWith l || (a.onlyEmpty && b.beginsWith l)
  | alt a b => a.beginsWith l && b.beginsWith l
  | repeated inner least _ _ => 0 < least && inner.beginsWith l

/-- Does every match end with this assertion? -/
def endsWith (l : Look) : Node → Bool
  | empty => false
  | text _ => false
  | chars _ => false
  | look l' => l' == l
  | group _ inner => inner.endsWith l
  | cat a b => b.endsWith l || (b.onlyEmpty && a.endsWith l)
  | alt a b => a.endsWith l && b.endsWith l
  | repeated inner least _ _ => 0 < least && inner.endsWith l

/-! ## §4 Normal forms

Trees are built so that equal ways of writing a pattern give one tree: texts next to one another are
one text, a set of one character is a text, sequences and choices are flat, a choice of characters is
a set, and what all branches of a choice begin with stands before it. -/

/-- A set of characters; one of a single character is a text. -/
def ofSet (set : Unicode.CodeSet) : Node :=
  match set.ranges.toList with
  | [(lo, hi)] => if lo = hi then text [Char.ofNat lo] else chars set
  | _ => chars set

/-- **Repetition in normal form.** What matches only the empty text need not be repeated more than
once; no repetition is the empty tree, and one is the tree itself. -/
def repeating (inner : Node) (least : Nat) (most : Option Nat) (greedy : Bool) : Node :=
  let (least, most) :=
    if inner.onlyEmpty then (min least 1, some (min (most.getD 1) 1)) else (least, most)
  if most = some 0 then empty
  else if least = 1 ∧ most = some 1 then inner
  else repeated inner least most greedy

/-- The trees that a sequence is made of. -/
def steps : Node → List Node
  | empty => []
  | cat a b => a :: b.steps
  | n => [n]

/-- Makes one text of texts next to one another. -/
def joinTexts : List Node → List Node
  | [] => []
  | text cs :: rest =>
    match joinTexts rest with
    | text ds :: rest => text (cs ++ ds) :: rest
    | rest => text cs :: rest
  | n :: rest => n :: joinTexts rest

/-- Trees one after the other, as they are. -/
def catOf : List Node → Node
  | [] => empty
  | [n] => n
  | n :: rest => cat n (catOf rest)

/-- **The trees one after the other**, in normal form. -/
def sequence (trees : List Node) : Node := catOf (joinTexts (trees.flatMap steps))

/-- The trees that a choice is made of. -/
def branches : Node → List Node
  | alt a b => a :: b.branches
  | n => [n]

/-- The trees as alternatives, as they are. -/
def altOf : List Node → Node
  | [] => chars .empty
  | [n] => n
  | n :: rest => alt n (altOf rest)

/-- The set of a tree that is a single character. -/
def singleSet? : Node → Option Unicode.CodeSet
  | text [c] => some (.single c.toNat)
  | _ => none

/-- The set of a tree that is a set. -/
def set? : Node → Option Unicode.CodeSet
  | chars set => some set
  | _ => none

/-- Alternatives in normal form, but for what they begin with: a choice of single characters, or of
sets, is a set. -/
def choiceOf (trees : List Node) : Node :=
  let trees := trees.flatMap branches
  match trees.mapM singleSet? <|> trees.mapM set? with
  | some sets => ofSet (.unions sets)
  | none => altOf trees

/-- The longest list that two lists begin with. -/
def commonPrefix : List Node → List Node → List Node
  | a :: as, b :: bs => if a = b then a :: commonPrefix as bs else []
  | _, _ => []

/-- What all of several sequences begin with. -/
def sharedSteps : List (List Node) → List Node
  | [] => []
  | steps :: rest => rest.foldl commonPrefix steps

/-- **The trees as alternatives**, the first preferred, in normal form. Branches that are sequences
of several trees are taken together as far as they begin alike. -/
def choice (trees : List Node) : Node :=
  match choiceOf trees with
  | alt a b =>
    let all := (alt a b).branches.map steps
    let shared := if all.all (1 < ·.length) then sharedSteps all else []
    if shared.isEmpty then alt a b
    else
      sequence (shared ++ [choiceOf (all.map fun steps => catOf (steps.drop shared.length))])
  | n => n

end Node

end Cascade.Pattern
