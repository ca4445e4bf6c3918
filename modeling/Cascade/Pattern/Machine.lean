import Cascade.Pattern.Node

/-!
# Matching

A pattern tree is turned into a machine of small instructions, and the machine is run over a text
with all its threads at once, a list of them in order of preference. Two threads never stand at one
instruction, so a run takes time in the length of the text times the size of the machine, whatever
the pattern.

The match found is the leftmost one, and among those the preferred one: of alternatives the first, of
greedy repetitions the longest, of reluctant ones the shortest.

§1 instructions; §2 from tree to machine; §3 following the instructions that read nothing; §4 the
run over a text.
-/

namespace Cascade.Pattern

/-! ## §1 Instructions -/

/-- **An instruction.** -/
inductive Instr where
  /-- Reads one character of the set. -/
  | chars (set : Unicode.CodeSet) (next : Nat)
  | look (l : Look) (next : Nat)
  /-- Stores the offset in a slot. -/
  | mark (slot : Nat) (next : Nat)
  /-- Goes on at both, preferring the first. -/
  | fork (first second : Nat)
  | accept
  deriving Inhabited

/-- The instructions of a machine, each at its place. -/
abbrev Code := Array Instr

/-! ## §2 From tree to machine -/

/-- Appends an instruction and gives its place. -/
def emit (i : Instr) (code : Code) : Nat × Code := (code.size, code.push i)

/-- A fork between going on inside a repetition and leaving it. -/
def forkOf (greedy : Bool) (inside leaving : Nat) : Instr :=
  if greedy then .fork inside leaving else .fork leaving inside

/-- Writes `count` copies one after the other, the last leading to `next`. -/
def copies (write : Nat → Code → Nat × Code) : Nat → Nat → Code → Nat × Code
  | 0, next, code => (next, code)
  | count + 1, next, code =>
    let (start, code) := write next code
    copies write count start code

/-- Writes `count` copies of which each may be the first to be left out; then all after it are. -/
def optionalCopies (write : Nat → Code → Nat × Code) (greedy : Bool) (leaving : Nat) :
    Nat → Nat → Code → Nat × Code
  | 0, next, code => (next, code)
  | count + 1, next, code =>
    let (start, code) := write next code
    let (start, code) := emit (forkOf greedy start leaving) code
    optionalCopies write greedy leaving count start code

/-- Writes the instructions that read a text, one for each character. -/
def writeText : List Char → Nat → Code → Nat × Code
  | [], next, code => (next, code)
  | c :: cs, next, code =>
    let (start, code) := writeText cs next code
    emit (.chars (.single c.toNat) start) code

/-- Writes a loop that is passed at least once, and gives its start and the place of its fork. -/
def loop (write : Nat → Code → Nat × Code) (greedy : Bool) (next : Nat) (code : Code) :
    Nat × Nat × Code :=
  let (back, code) := emit .accept code
  let (start, code) := write back code
  (start, back, code.setIfInBounds back (forkOf greedy start next))

/-- **Writes the machine of a tree** in front of the instruction at `next`; gives its start. A loop
that may match the empty text is entered through a fork of its own, so that the preferred way is
followed first. -/
def write : Node → Nat → Code → Nat × Code
  | .empty, next, code => (next, code)
  | .text cs, next, code => writeText cs next code
  | .chars set, next, code => emit (.chars set next) code
  | .look l, next, code => emit (.look l next) code
  | .group index inner, next, code =>
    let (start, code) := emit (.mark (2 * index + 1) next) code
    let (start, code) := write inner start code
    emit (.mark (2 * index) start) code
  | .cat a b, next, code =>
    let (start, code) := write b next code
    write a start code
  | .alt a b, next, code =>
    let (first, code) := write a next code
    let (second, code) := write b next code
    emit (.fork first second) code
  | .repeated inner least (some most) greedy, next, code =>
    let (start, code) := optionalCopies (write inner) greedy next (most - least) next code
    copies (write inner) least start code
  | .repeated inner least none greedy, next, code =>
    match loop (write inner) greedy next code with
    | (start, back, code) =>
      if least = 0 then
        if inner.consumes then (back, code) else emit (forkOf greedy start next) code
      else copies (write inner) (least - 1) start code

/-- **A machine**: its instructions and where it starts. -/
structure Machine where
  code : Code
  start : Nat
  deriving Inhabited

/-- The machine of a tree, which is group 0 as a whole. -/
def Machine.ofNode (n : Node) : Machine :=
  let (accept, code) := emit .accept #[]
  let (start, code) := write (.group 0 n) accept code
  ⟨code, start⟩

/-! ## §3 Following instructions that read nothing -/

/-- The offsets stored so far, two slots for each group. -/
abbrev Slots := Array (Option Nat)

/-- **Threads at one place of the text**: the instructions already met, and the threads that wait for
a character or have accepted, the last preferred first. -/
structure Threads where
  met : Array Bool
  waiting : List (Nat × Slots)

/-- No threads. -/
def Threads.none (size : Nat) : Threads := ⟨Array.replicate size false, []⟩

/-- **A place in a text**: its offset and the characters around it. -/
structure Place where
  offset : Nat
  before : Option Char
  after : Option Char

/-- Follows a thread to the instructions where it waits. Each instruction is met once, by the
preferred thread, so the number of instructions bounds the depth. -/
def follow (code : Code) (place : Place) : Nat → Nat → Slots → Threads → Threads
  | 0, _, _, threads => threads
  | fuel + 1, pc, slots, threads =>
    if threads.met.getD pc true then threads
    else
      let threads := { threads with met := threads.met.setIfInBounds pc true }
      match code.getD pc .accept with
      | .fork first second =>
        follow code place fuel second slots (follow code place fuel first slots threads)
      | .look l next =>
        if l.holds place.before place.after then follow code place fuel next slots threads
        else threads
      | .mark slot next =>
        follow code place fuel next (slots.setIfInBounds slot (some place.offset)) threads
      | .chars _ _ => { threads with waiting := (pc, slots) :: threads.waiting }
      | .accept => { threads with waiting := (pc, slots) :: threads.waiting }

/-! ## §4 The run -/

/-- Lets the threads read a character, in order of preference, up to the first that has accepted;
that one's slots are the match, and no thread after it matters. -/
def stepThreads (code : Code) (c : Option Char) (place : Place) :
    List (Nat × Slots) → Threads → Option Slots → Threads × Option Slots
  | [], threads, best => (threads, best)
  | (pc, slots) :: rest, threads, best =>
    match code.getD pc .accept with
    | .accept => (threads, some slots)
    | .chars set next =>
      let threads :=
        if c.any fun c => set.contains c.toNat then
          follow code place (code.size + 1) next slots threads
        else threads
      stepThreads code c place rest threads best
    | _ => stepThreads code c place rest threads best

/-- Runs over the rest of a text. As long as nothing has matched, a new thread starts at every place,
after all the others. -/
def runOver (m : Machine) (slots : Slots) (offset : Nat) (before : Option Char) (threads : Threads)
    (best : Option Slots) : List Char → Option Slots
  | [] =>
    let place : Place := ⟨offset, before, none⟩
    let threads :=
      if best.isNone then follow m.code place (m.code.size + 1) m.start slots threads else threads
    (stepThreads m.code none place threads.waiting.reverse (Threads.none m.code.size) best).2
  | c :: rest =>
    let place : Place := ⟨offset, before, some c⟩
    let threads :=
      if best.isNone then follow m.code place (m.code.size + 1) m.start slots threads else threads
    let after : Place := ⟨offset + 1, some c, rest.head?⟩
    match stepThreads m.code (some c) after threads.waiting.reverse (Threads.none m.code.size) best
      with
    | (next, best) =>
      if next.waiting.isEmpty && best.isSome then best
      else runOver m slots (offset + 1) (some c) next best rest

/-- **The match of a machine** in a text: the slots of its groups. -/
def Machine.run (m : Machine) (groups : Nat) (text : List Char) : Option Slots :=
  runOver m (Array.replicate (2 * groups) none) 0 none (Threads.none m.code.size) none text

end Cascade.Pattern
