import Cascade.Batch
import Cascade.Proofs.Lines

/-!
# Rule files and trusted input are one channel

A batch feeds the lines of its rule files in turn and ends with the first that is rejected; a trusted
input may be rejected as it likes. Apart from that the two are the same: lines that no rule file would
be refused for have the same effect, event by event, when they come at the head of the input.

Files are given by the text that is read from them. What counts of a line is what is left of it when
it has been cleaned, so it does not matter how the lines are put into the input, with a carriage return
or without one.

§1 lines in their place; §2 accepted and rejected lines; §3 loading; §4 feeding; §5 one channel.
-/

namespace Cascade

/-! ## §1 Lines in their place -/

/-- **A line of a rule file**: the file, its number there, counted from 1, and its text. -/
structure PlacedLine where
  path : String
  number : Nat
  text : String

/-- **The lines of rule files**, one file after the other, given what is in the files. -/
def fileLines (content : String → String) (paths : List String) : List String :=
  paths.flatMap fun path => Text.lines (content path)

namespace PlacedLine

/-- Lines of a file, of which the first has the number `first`. -/
def numbered (path : String) (first : Nat) (ls : List String) : List PlacedLine :=
  (ls.zipIdx first).map fun p => ⟨path, p.2, p.1⟩

/-- The lines of rule files in their places. -/
def ofFiles (content : String → String) (paths : List String) : List PlacedLine :=
  paths.flatMap fun path => numbered path 1 (Text.lines (content path))

theorem map_text_numbered (path : String) (first : Nat) (ls : List String) :
    (numbered path first ls).map text = ls := by
  induction ls generalizing first with
  | nil => rfl
  | cons l ls ih => exact congrArg (l :: ·) (ih (first + 1))

theorem map_text_ofFiles (content : String → String) (paths : List String) :
    (ofFiles content paths).map text = fileLines content paths := by
  rw [ofFiles, fileLines, List.map_flatMap]
  exact congrArg (List.flatMap · paths) (funext fun path => map_text_numbered path 1 _)

end PlacedLine

/-! ## §2 Accepted and rejected lines -/

namespace Engine

/-- **Lines that are accepted**, one after the other, and the engine that they lead to. -/
inductive Accepts : Engine → List String → Engine → Prop
  | nil {e : Engine} : Accepts e [] e
  | cons {e next last : Engine} {text : String} {rest : List String} :
      (tryFeed text).run e = (.ok (), next) → Accepts next rest last → Accepts e (text :: rest) last

/-- **The first line that is rejected**: those before it are accepted. -/
def Rejects (e : Engine) (ls : List PlacedLine) (line : PlacedLine) (error : DefineError)
    (last : Engine) : Prop :=
  ∃ before after mid, ls = before ++ line :: after ∧ Accepts e (before.map PlacedLine.text) mid ∧
    (tryFeed line.text).run mid = (.error error, last)

theorem Rejects.head {e last : Engine} {line : PlacedLine} {rest : List PlacedLine}
    {error : DefineError} (h : (tryFeed line.text).run e = (.error error, last)) :
    Rejects e (line :: rest) line error last := ⟨[], rest, e, rfl, .nil, h⟩

theorem Rejects.tail {e next last : Engine} {first line : PlacedLine} {rest : List PlacedLine}
    {error : DefineError} (hfirst : (tryFeed first.text).run e = (.ok (), next))
    (h : Rejects next rest line error last) : Rejects e (first :: rest) line error last := by
  obtain ⟨before, after, mid, rfl, haccepts, hreject⟩ := h
  exact ⟨first :: before, after, mid, rfl, .cons hfirst haccepts, hreject⟩

/-- The first rejected line is the first line, or the first is accepted and it comes later. -/
theorem rejects_cons {e last : Engine} {first line : PlacedLine} {rest : List PlacedLine}
    {error : DefineError} (h : Rejects e (first :: rest) line error last) :
    (first = line ∧ (tryFeed first.text).run e = (.error error, last)) ∨
      ∃ next, (tryFeed first.text).run e = (.ok (), next) ∧ Rejects next rest line error last := by
  obtain ⟨before, after, mid, hsplit, haccepts, hreject⟩ := h
  cases before with
  | nil =>
    obtain ⟨rfl, rfl⟩ := List.cons.inj hsplit
    cases haccepts
    exact .inl ⟨rfl, hreject⟩
  | cons l before =>
    obtain ⟨rfl, rfl⟩ := List.cons.inj hsplit
    cases haccepts with
    | cons hfirst haccepts => exact .inr ⟨_, hfirst, before, after, mid, rfl, haccepts, hreject⟩

end Engine

namespace Batch

open Engine

/-! ## §3 Loading -/

/-- Feeds placed lines in turn, up to the first that is rejected. -/
def load : List PlacedLine → Act (Except Failure Unit)
  | [] => return .ok ()
  | line :: rest => do
    match ← Engine.tryFeed line.text with
    | .error e => return .error (.rejected line.path line.number e)
    | .ok () => load rest

theorem run_load_cons (line : PlacedLine) (rest : List PlacedLine) (e : Engine) :
    (load (line :: rest)).run e =
      match (Engine.tryFeed line.text).run e with
      | (.error error, last) => (.error (.rejected line.path line.number error), last)
      | (.ok (), next) => (load rest).run next := by
  rw [load, StateT.run_bind]
  show (match (Engine.tryFeed line.text).run e with | (r, next) => _) = _
  rcases (Engine.tryFeed line.text).run e with ⟨_ | _, _⟩ <;> rfl

theorem run_load_append (ls ls' : List PlacedLine) (e : Engine) :
    (load (ls ++ ls')).run e =
      match (load ls).run e with
      | (.error f, last) => (.error f, last)
      | (.ok (), next) => (load ls').run next := by
  induction ls generalizing e with
  | nil => rfl
  | cons line ls ih =>
    rw [List.cons_append, run_load_cons, run_load_cons]
    rcases (Engine.tryFeed line.text).run e with ⟨_ | _, next⟩
    · rfl
    · exact ih next

/-- **Loading ends well** with all lines accepted. -/
theorem run_load_ok_iff {ls : List PlacedLine} {e last : Engine} :
    (load ls).run e = (.ok (), last) ↔ Accepts e (ls.map PlacedLine.text) last := by
  induction ls generalizing e with
  | nil =>
    constructor
    · intro h
      cases h
      exact .nil
    · rintro ⟨⟩
      rfl
  | cons line ls ih =>
    rw [run_load_cons]
    constructor
    · intro h
      cases hfirst : (Engine.tryFeed line.text).run e with
      | mk r next =>
        rw [hfirst] at h
        cases r with
        | error error => cases h
        | ok _ => exact .cons hfirst (ih.mp h)
    · rintro (_ | ⟨hfirst, hrest⟩)
      rw [hfirst]
      exact ih.mpr hrest

/-- **Loading fails** with the first line that is rejected, in its place. -/
theorem run_load_error_iff {ls : List PlacedLine} {e last : Engine} {f : Failure} :
    (load ls).run e = (.error f, last) ↔
      ∃ line error, Rejects e ls line error last ∧ f = .rejected line.path line.number error := by
  induction ls generalizing e with
  | nil =>
    constructor
    · nofun
    · rintro ⟨line, error, ⟨before, after, mid, hsplit, -⟩, -⟩
      cases before <;> cases hsplit
  | cons line ls ih =>
    rw [run_load_cons]
    cases hfirst : (Engine.tryFeed line.text).run e with
    | mk r next =>
      cases r with
      | error error =>
        constructor
        · intro h
          cases h
          exact ⟨line, error, .head hfirst, rfl⟩
        · rintro ⟨line', error', hrejects, rfl⟩
          obtain ⟨rfl, hreject⟩ | ⟨_, hok, -⟩ := rejects_cons hrejects
          · rw [hfirst] at hreject
            cases hreject
            rfl
          · rw [hfirst] at hok
            cases hok
      | ok _ =>
        refine (ih (e := next)).trans ⟨?_, ?_⟩
        · rintro ⟨line', error, hrejects, rfl⟩
          exact ⟨line', error, hrejects.tail hfirst, rfl⟩
        · rintro ⟨line', error, hrejects, rfl⟩
          obtain ⟨rfl, hreject⟩ | ⟨_, hok, hrejects⟩ := rejects_cons hrejects
          · rw [hfirst] at hreject
            cases hreject
          · rw [hfirst] at hok
            cases hok
            exact ⟨line', error, hrejects, rfl⟩

theorem loadLines_eq (path : String) (ls : List String) (first : Nat) :
    loadLines path first ls = load (PlacedLine.numbered path first ls) := by
  induction ls generalizing first with
  | nil => rfl
  | cons text ls ih =>
    rw [loadLines, ih (first + 1)]
    rfl

theorem run_loadFiles_cons (read : String → Option String) (path : String) (rest : List String)
    (e : Engine) :
    (loadFiles read (path :: rest)).run e =
      match (loadFile path (read path)).run e with
      | (.error f, last) => (.error f, last)
      | (.ok (), next) => (loadFiles read rest).run next := by
  rw [loadFiles, StateT.run_bind]
  show (match (loadFile path (read path)).run e with | (r, next) => _) = _
  rcases (loadFile path (read path)).run e with ⟨_ | _, _⟩ <;> rfl

/-- **Rule files are loaded line by line**, whatever file a line is in. -/
theorem run_loadFiles {read : String → Option String} {content : String → String}
    {paths : List String} (hread : ∀ path ∈ paths, read path = some (content path)) (e : Engine) :
    (loadFiles read paths).run e = (load (PlacedLine.ofFiles content paths)).run e := by
  induction paths generalizing e with
  | nil => rfl
  | cons path paths ih =>
    obtain ⟨hpath, hpaths⟩ := List.forall_mem_cons.mp hread
    rw [PlacedLine.ofFiles, List.flatMap_cons, run_load_append, run_loadFiles_cons, hpath, loadFile,
      loadLines_eq]
    split
    · rfl
    · exact ih hpaths _

/-! ## §4 Feeding -/

/-- Feeds lines in turn. -/
def feedAll (ls : List String) : Act Unit := ls.forM Engine.feed

theorem run_feedAll_cons (l : String) (ls : List String) (e : Engine) :
    (feedAll (l :: ls)).run e = (feedAll ls).run ((Engine.feed l).run e).2 := rfl

theorem run_feedAll_append (ls ls' : List String) (e : Engine) :
    (feedAll (ls ++ ls')).run e = (feedAll ls').run ((feedAll ls).run e).2 := by
  induction ls generalizing e with
  | nil => rfl
  | cons l ls ih => rw [List.cons_append, run_feedAll_cons, run_feedAll_cons, ih]

/-- A trusted input that can be read is fed to its end. -/
theorem run_feedLines_trusted (ls : List String) (e : Engine) :
    (feedLines true (ls.map some)).run e = (.ok (), ((feedAll ls).run e).2) := by
  induction ls generalizing e with
  | nil => rfl
  | cons l ls ih => exact ih ((Engine.feed l).run e).2

/-- What cannot be read as text is the only failure of the input. -/
theorem run_feedLines_failure {trusted : Bool} {ls : List (Option String)} {e last : Engine}
    {f : Failure} (h : (feedLines trusted ls).run e = (.error f, last)) : f = .noText := by
  induction ls generalizing e with
  | nil => cases h
  | cons l ls ih =>
    cases l with
    | none =>
      cases h
      rfl
    | some l =>
      cases trusted with
      | false => exact ih (e := ((Engine.feedData l).run e).2) h
      | true => exact ih (e := ((Engine.feed l).run e).2) h

/-- A line that is accepted is fed without more ado. -/
theorem run_feed_of_accepted {l : String} {e next : Engine}
    (h : (Engine.tryFeed l).run e = (.ok (), next)) : (Engine.feed l).run e = ((), next) := by
  have htry : (e.runner.tryFeed l).run e = (.ok (), next) := h
  show (e.runner.feed l).run e = _
  rw [Runner.feed, StateT.run_bind, htry]
  rfl

theorem run_feedAll_of_accepts {ls : List String} {e last : Engine} (h : Accepts e ls last) :
    (feedAll ls).run e = ((), last) := by
  induction h with
  | nil => rfl
  | cons hfirst _ ih => rw [run_feedAll_cons, run_feed_of_accepted hfirst, ih]

/-- **What is fed is what is left of a line.** -/
theorem feed_congr {l l' : String} (h : Line.content l = Line.content l') :
    Engine.feed l = Engine.feed l' := by
  have hread : Line.read l = Line.read l' := by
    have hclean := congrArg String.toList h
    rw [Line.content, Line.content, String.toList_ofList, String.toList_ofList] at hclean
    rw [Line.read, Line.read, hclean]
  have htry (run : Runner) : run.tryFeed l = run.tryFeed l' := by
    rw [Runner.tryFeed, Runner.tryFeed, hread, h]
  have hfeed (run : Runner) : run.feed l = run.feed l' := by
    rw [Runner.feed, Runner.feed, htry, h]
  rw [Engine.feed, Engine.feed]
  simp only [hfeed]

theorem feedAll_congr {ls ls' : List String}
    (h : ls.map Line.content = ls'.map Line.content) : feedAll ls = feedAll ls' := by
  induction ls generalizing ls' with
  | nil => rw [List.map_eq_nil_iff.mp h.symm]
  | cons l ls ih =>
    cases ls' with
    | nil => cases h
    | cons l' ls' =>
      obtain ⟨hl, hrest⟩ := List.cons.inj h
      show (do Engine.feed l; feedAll ls) = do Engine.feed l'; feedAll ls'
      rw [feed_congr hl, ih hrest]

/-! ## §5 One channel -/

theorem run_perform (paths : List String) (read : String → Option String) (trusted : Bool)
    (input : ByteArray) (e : Engine) :
    (perform paths read trusted input).run e =
      match (loadFiles read paths).run e with
      | (.error f, last) => (.error f, last)
      | (.ok (), next) => (feedLines trusted (Text.byteLines input)).run next := by
  rw [perform, StateT.run_bind]
  show (match (loadFiles read paths).run e with | (r, next) => _) = _
  rcases (loadFiles read paths).run e with ⟨_ | _, _⟩ <;> rfl

/-- A batch fails by a rejected line where loading its rule files does. -/
theorem run_perform_rejected_iff {paths : List String} {read : String → Option String}
    {trusted : Bool} {input : ByteArray} {e last : Engine} {path : String} {number : Nat}
    {error : DefineError} :
    (perform paths read trusted input).run e = (.error (.rejected path number error), last) ↔
      (loadFiles read paths).run e = (.error (.rejected path number error), last) := by
  rw [run_perform]
  split
  · next heq => rw [heq]
  · next heq =>
    rw [heq]
    constructor
    · intro h
      cases run_feedLines_failure h
    · nofun

/-- A trusted input without rule files is fed line by line. -/
theorem run_perform_trusted (read : String → Option String) (input : String) (e : Engine) :
    (perform [] read true input.toUTF8).run e =
      (.ok (), ((feedAll (Text.lines input)).run e).2) := by
  rw [run_perform, Text.byteLines_toUTF8]
  exact run_feedLines_trusted _ e

/-- **Rule files whose lines are all accepted** do what these lines do in a trusted input. -/
theorem run_perform_of_accepts {paths : List String} {read : String → Option String}
    {content : String → String} (hread : ∀ path ∈ paths, read path = some (content path))
    {e next : Engine}
    (h : Accepts e (fileLines content paths) next) {input joined : String}
    (hjoined : (Text.lines joined).map Line.content =
      (fileLines content paths ++ Text.lines input).map Line.content) :
    (perform paths read true input.toUTF8).run e = (perform [] read true joined.toUTF8).run e := by
  have hload : (loadFiles read paths).run e = (.ok (), next) := by
    rw [run_loadFiles hread, run_load_ok_iff, PlacedLine.map_text_ofFiles]
    exact h
  rw [run_perform_trusted, feedAll_congr hjoined, run_feedAll_append, run_feedAll_of_accepts h,
    run_perform, hload, Text.byteLines_toUTF8]
  exact run_feedLines_trusted _ next

/-- The lines of files and of an input, written one after the other, are left the same. -/
theorem content_lines_unlines (content : String → String) (paths : List String) (input : String) :
    (Text.lines (Text.unlines (fileLines content paths ++ Text.lines input))).map Line.content =
      (fileLines content paths ++ Text.lines input).map Line.content := by
  rw [Text.lines_unlines, List.map_map]
  · exact List.map_congr_left fun l _ => Line.content_dropReturn l
  · intro l hl
    rcases List.mem_append.mp hl with hl | hl
    · obtain ⟨path, -, hl⟩ := List.mem_flatMap.mp hl
      exact Text.not_mem_lines hl
    · exact Text.not_mem_lines hl

/-- **Rule files and trusted input are one channel.** A batch fails with a rejected line exactly where
the line of that number in that file is rejected after all lines before it, in that file and in the
earlier ones, have been accepted. If none is rejected, the batch comes to its end, with the very engine
in which it ends without rule files when their lines stand before those of the input: whatever text it
is that has these lines, up to what cleaning takes from them, and one such text has them one after the
other, each with a line feed. -/
theorem rule_files_are_trusted_input {read : String → Option String} {content : String → String}
    {paths : List String} (hread : ∀ path ∈ paths, read path = some (content path))
    (config : Config) :
    (∀ trusted input path number error last,
      (perform paths read trusted input).run (Engine.new config) =
          (.error (.rejected path number error), last) ↔
        ∃ text, Rejects (Engine.new config) (PlacedLine.ofFiles content paths) ⟨path, number, text⟩
          error last) ∧
    ((∀ line error last,
        ¬ Rejects (Engine.new config) (PlacedLine.ofFiles content paths) line error last) →
      ∀ input : String,
        (∃ last, (perform paths read true input.toUTF8).run (Engine.new config) = (.ok (), last)) ∧
        (perform paths read true input.toUTF8).run (Engine.new config) =
          (perform [] read true
            (Text.unlines (fileLines content paths ++ Text.lines input)).toUTF8).run
            (Engine.new config) ∧
        ∀ joined : String,
          (Text.lines joined).map Line.content =
            (fileLines content paths ++ Text.lines input).map Line.content →
          (perform paths read true input.toUTF8).run (Engine.new config) =
            (perform [] read true joined.toUTF8).run (Engine.new config)) := by
  constructor
  · intro trusted input path number error last
    rw [run_perform_rejected_iff, run_loadFiles hread, run_load_error_iff]
    constructor
    · rintro ⟨⟨path', number', text⟩, error', h, heq⟩
      cases heq
      exact ⟨text, h⟩
    · rintro ⟨text, h⟩
      exact ⟨_, error, h, rfl⟩
  · intro hnone input
    have haccepts : ∃ next, Accepts (Engine.new config) (fileLines content paths) next := by
      cases hload : (load (PlacedLine.ofFiles content paths)).run (Engine.new config) with
      | mk r next =>
        cases r with
        | error f =>
          obtain ⟨line, error, hrejects, -⟩ := run_load_error_iff.mp hload
          exact absurd hrejects (hnone line error next)
        | ok _ => exact ⟨next, PlacedLine.map_text_ofFiles content paths ▸ run_load_ok_iff.mp hload⟩
    obtain ⟨next, haccepts⟩ := haccepts
    have hsame := run_perform_of_accepts hread haccepts (content_lines_unlines content paths input)
    exact ⟨⟨_, hsame.trans (run_perform_trusted read _ _)⟩, hsame,
      fun joined hjoined => run_perform_of_accepts hread haccepts hjoined⟩

/-- Two rule files: one with a carriage return and a rule, one whose third line removes a rule that is
not there. -/
def twoFiles (path : String) : String :=
  if path = "a" then "x 1\r\n:copy x" else "y 2\n# note\n:gone"

/-- The second file is refused for its third line; the first one does what its lines do in the input. -/
theorem gone_rejected_copy_fed :
    (∃ last, (perform ["b"] (some ∘ twoFiles) true "x 2".toUTF8).run (Engine.new .standard) =
      (.error (.rejected "b" 3 (.unknownRule "gone")), last)) ∧
    (perform ["a"] (some ∘ twoFiles) true "x 2".toUTF8).run (Engine.new .standard) =
      (perform [] (some ∘ twoFiles) true "x 1\n:copy x\nx 2".toUTF8).run
        (Engine.new .standard) := by
  have hread (paths : List String) :
      ∀ path ∈ paths, (some ∘ twoFiles) path = some (twoFiles path) := fun _ _ => rfl
  constructor
  · have hbefore : Accepts (Engine.new .standard) ["y 2", "# note"] _ :=
      .cons (by rfl) (.cons (by rfl) .nil)
    exact ⟨_, ((rule_files_are_trusted_input (hread ["b"]) .standard).1 true _ "b" 3 _ _).mpr
      ⟨":gone", [⟨"b", 1, "y 2"⟩, ⟨"b", 2, "# note"⟩], [], _, by rfl, hbefore, by rfl⟩⟩
  · have haccepted : ((load (PlacedLine.ofFiles twoFiles ["a"])).run
        (Engine.new .standard)).1.isOk = true := by decide +kernel
    refine ((rule_files_are_trusted_input (hread ["a"]) .standard).2 ?_ "x 2").2.2 _ (by decide)
    intro line error last h
    rw [run_load_error_iff.mpr ⟨line, error, h, rfl⟩] at haccepted
    cases haccepted

end Batch

end Cascade
