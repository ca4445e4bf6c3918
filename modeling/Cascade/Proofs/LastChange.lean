import Cascade.Proofs.Notification
import Cascade.Proofs.Sparing

/-!
# The last change

A change of a symbol is followed at once by a change of `%` to its name, unless `%` has that value
already. Nothing takes this back: cascades that nest, evaluations that fail and runs that are refused
only change more symbols. So `%` can be told from what has happened so far, and as long as nobody sets
`%` by its own name it is the name of the symbol that changed last.

The argument is about journals: the values are those that the changes have given, and every change of
another symbol is marked.

§1 values told by a journal; §2 the moments of a run; §3 changes are marked; §4 journals that name the
last change; §5 the name of the last change.
-/

namespace Cascade

/-! ## §1 Values told by a journal -/

namespace Event

/-- The value that an event gives to a symbol. -/
def given? (name : String) : Event → Option Value
  | .changed other v => if other = name then some v else none
  | _ => none

/-- The symbol, other than `%`, that an event tells the change of. -/
def change? : Event → Option String
  | .changed name _ => if name = Symbol.lastChanged then none else some name
  | _ => none

/-- Only changes give values. -/
theorem given?_eq_none {event : Event} (h : ∀ name v, event ≠ .changed name v) (name : String) :
    event.given? name = none := by
  cases event with
  | changed other v => exact absurd rfl (h other v)
  | _ => rfl

theorem change?_eq_none {event : Event} (h : ∀ name v, event ≠ .changed name v) :
    event.change? = none := by
  cases event with
  | changed other v => exact absurd rfl (h other v)
  | _ => rfl

theorem not_changed {event : Event}
    (h : event.isQuiet = true ∨ event.isReport = true ∨ event.isHitch = true) (name : String)
    (v : Value) : event ≠ .changed name v := by
  rintro rfl
  rcases h with h | h | h <;> cases h

end Event

/-- The value that a journal gives to a symbol, the last one it was given. -/
def valueTold (name : String) (journal : List Event) : Option Value :=
  journal.findSome? (Event.given? name)

/-- **The symbol that changed last**, `%` apart. -/
def lastChange? (journal : List Event) : Option String := journal.findSome? Event.change?

theorem valueTold_cons_changed (name other : String) (v : Value) (journal : List Event) :
    valueTold name (.changed other v :: journal) =
      if other = name then some v else valueTold name journal := by
  unfold valueTold
  rw [List.findSome?_cons, Event.given?]
  by_cases h : other = name
  · simp [h]
  · simp [h]

theorem valueTold_cons_of_ne {event : Event} (h : ∀ name v, event ≠ .changed name v)
    (name : String) (journal : List Event) :
    valueTold name (event :: journal) = valueTold name journal := by
  unfold valueTold
  rw [List.findSome?_cons, Event.given?_eq_none h]

theorem lastChange?_cons_changed (name : String) (v : Value) (journal : List Event) :
    lastChange? (.changed name v :: journal) =
      if name = Symbol.lastChanged then lastChange? journal else some name := by
  unfold lastChange?
  rw [List.findSome?_cons, Event.change?]
  by_cases h : name = Symbol.lastChanged
  · simp [h]
  · simp [h]

theorem lastChange?_cons_of_ne {event : Event} (h : ∀ name v, event ≠ .changed name v)
    (journal : List Event) : lastChange? (event :: journal) = lastChange? journal := by
  unfold lastChange?
  rw [List.findSome?_cons, Event.change?_eq_none h]

namespace Engine

/-- **The values are those that the journal tells.** -/
def Told (e : Engine) : Prop := ∀ name, e.value? name = valueTold name e.journal

variable {e e' : Engine}

/-- An event that is not a change gives no value. -/
theorem Told.of_other (h : e.Told) {event : Event} (hvalue : ∀ name, e'.value? name = e.value? name)
    (hjournal : e'.journal = event :: e.journal) (hevent : ∀ name v, event ≠ .changed name v) :
    e'.Told := by
  intro name
  rw [hvalue, hjournal, valueTold_cons_of_ne hevent, h name]

theorem Told.of_same (h : e.Told) (hvalue : ∀ name, e'.value? name = e.value? name)
    (hjournal : e'.journal = e.journal) : e'.Told := by
  intro name
  rw [hvalue, hjournal, h name]

/-- **Every move is told.** -/
theorem Told.move (h : e.Told) (hmove : Move e e') : e'.Told := by
  cases hmove with
  | step hstep =>
    rcases hstep.journal with hsame | ⟨event, hquiet, hother⟩
    · exact h.of_same hstep.value? hsame
    · exact h.of_other hstep.value? hother (Event.not_changed (.inl hquiet))
  | register => exact h.of_same (fun _ => rfl) rfl
  | change name v =>
    intro other
    show (e.changed name v).value? other = valueTold other (.changed name v :: e.journal)
    rw [value?_changed, valueTold_cons_changed, h other]
    by_cases heq : other = name
    · rw [if_pos heq, if_pos heq.symm]
    · rw [if_neg heq, if_neg (Ne.symm heq)]
  | report hreport =>
    exact h.of_other (fun _ => rfl) rfl (Event.not_changed (.inr (.inl hreport)))
  | hitch hhitch =>
    exact h.of_other (fun _ => rfl) rfl (Event.not_changed (.inr (.inr hhitch)))
  | enter => exact h.of_other (fun _ => rfl) rfl nofun
  | leave => exact h.of_other (fun _ => rfl) rfl nofun
  | keepResult => exact h.of_same (fun _ => rfl) rfl

theorem told_new (config : Config) : (Engine.new config).Told := by
  intro name
  rw [journal_new, new_eq]
  rfl

/-- **At every moment of every run the values are those that have been told.** -/
theorem Moves.told {config : Config} (h : Moves (Engine.new config) e) : e.Told :=
  h.keeps (fun h hmove => h.move hmove) (told_new config)

/-! ## §2 The moments of a run -/

/-- **A run passes through all that its journal tells**: there is a moment with each journal on the
way. -/
theorem Moves.exists_moment (h : Moves e e') {journal : List Event} (hfrom : e.journal <:+ journal)
    (hto : journal <:+ e'.journal) : ∃ m, Moves e m ∧ Moves m e' ∧ m.journal = journal := by
  induction h with
  | refl => exact ⟨e, .refl, .refl, hfrom.eq_of_length_le hto.length_le⟩
  | @tail b d hmoves hmove ih =>
    by_cases hbefore : journal <:+ b.journal
    · obtain ⟨m, hm, hrest, hjournal⟩ := ih hbefore
      exact ⟨m, hm, hrest.tail hmove, hjournal⟩
    · -- what the last move has written is in the journal, so it is the moment after that move
      refine ⟨d, hmoves.tail hmove, .refl, ?_⟩
      rcases hmove.journal with hsame | ⟨event, hevent⟩
      · rw [hsame] at hto
        exact absurd hto hbefore
      · rw [hevent] at hto ⊢
        rcases List.suffix_cons_iff.mp hto with heq | hsuffix
        · exact heq.symm
        · exact absurd hsuffix hbefore

/-! ## §3 Changes are marked -/

/-- **Every change is marked**: after a change of a symbol other than `%` the symbol `%` has its name,
or takes it at once. -/
def Marked (journal : List Event) : Prop :=
  ∀ name v before, .changed name v :: before <:+ journal → name ≠ Symbol.lastChanged →
    valueTold Symbol.lastChanged (.changed name v :: before) = some (.string name) ∨
      .changed Symbol.lastChanged (.string name) :: .changed name v :: before <:+ journal

/-- A symbol that holds a text has that text for its value. -/
theorem value?_of_holds_string {name text : String}
    (h : (e.symbolOf name).holds (.string text) = true) : e.value? name = some (.string text) := by
  rw [Symbol.holds, symbolOf_value] at h
  cases hvalue : e.value? name with
  | none => rw [hvalue] at h; cases h
  | some w =>
    rw [hvalue] at h
    cases w with
    | string other =>
      have heq : other = text := by simpa [Value.sameOption, Value.same] using h
      rw [heq]
    | _ => cases h

/-- **On every run every change is marked.** -/
theorem marked_history (config : Config) (ops : List Operation) :
    Marked (history config ops).journal := by
  intro name v before hsuffix hname
  have hall := (course_history config ops).allServed
  obtain ⟨m, m', hm, hjournal, hserve, hrest⟩ := hall.served hsuffix (by
    rw [journal_new]
    exact Nat.zero_le _)
  have hlater : (m.mark name).journal <:+ (history config ops).journal :=
    Moves.journal (hserve.moves.trans hrest)
  rw [mark, if_neg hname, store_eq] at hlater
  split at hlater
  · next hholds =>
    left
    rw [← hjournal, ← hm.told Symbol.lastChanged]
    exact value?_of_holds_string hholds
  · right
    rw [← hjournal]
    exact hlater

end Engine

/-! ## §4 Journals that name the last change -/

/-- **The journal gives `%` the name of the last change.** -/
def NamesLast (journal : List Event) : Prop :=
  valueTold Symbol.lastChanged journal = (lastChange? journal).map .string

/-- Two events at the same place of a journal are one. -/
theorem eq_of_cons_suffix {journal before : List Event} {a b : Event}
    (ha : a :: before <:+ journal) (hb : b :: before <:+ journal) : a = b := by
  have hsuffix : a :: before <:+ b :: before := List.suffix_of_suffix_length_le ha hb (by simp)
  have heq := hsuffix.eq_of_length (by simp)
  exact (List.cons.inj heq).1

/-- **Wherever no change of `%` comes next, it has the name of the last change**, if changes are marked
and `%` is not written by itself. -/
theorem namesLast_of_marked {journal : List Event} (hmarked : Engine.Marked journal)
    (hunwritten : Unwritten journal) (before : List Event) (hbefore : before <:+ journal)
    (hnext : ∀ w, ¬ .changed Symbol.lastChanged w :: before <:+ journal) : NamesLast before := by
  induction before with
  | nil => rfl
  | cons event rest ih =>
    have hrest : rest <:+ journal := (List.suffix_cons event rest).trans hbefore
    by_cases hchange : ∃ name v, event = .changed name v
    · obtain ⟨name, v, rfl⟩ := hchange
      unfold NamesLast
      by_cases hname : name = Symbol.lastChanged
      · -- a change of `%` marks the change right before it
        subst hname
        obtain ⟨other, w, older, rfl, hother, rfl⟩ := hunwritten _ _ hbefore
        rw [valueTold_cons_changed, lastChange?_cons_changed, lastChange?_cons_changed, if_pos rfl,
          if_pos rfl, if_neg hother]
        rfl
      · rw [lastChange?_cons_changed, if_neg hname]
        rcases hmarked _ _ _ hbefore hname with hvalue | hmark
        · exact hvalue
        · exact absurd hmark (hnext _)
    · have hevent : ∀ name v, event ≠ .changed name v := fun name v heq => hchange ⟨name, v, heq⟩
      unfold NamesLast
      rw [valueTold_cons_of_ne hevent, lastChange?_cons_of_ne hevent]
      exact ih hrest fun w hw => hevent _ _ (eq_of_cons_suffix hbefore hw)

/-- Where `%` is not written by itself, something else has changed if anything has. -/
theorem lastChange?_eq_none {journal : List Event} (hunwritten : Unwritten journal) :
    lastChange? journal = none ↔ ∀ name v, .changed name v ∉ journal := by
  unfold lastChange?
  rw [List.findSome?_eq_none_iff]
  constructor
  · intro hnone name v hmem
    have hlast : name = Symbol.lastChanged := by
      have hevent := hnone _ hmem
      simpa [Event.change?] using hevent
    subst hlast
    obtain ⟨after, before, hsplit⟩ := List.append_of_mem hmem
    have hsuffix : .changed Symbol.lastChanged v :: before <:+ journal := ⟨after, hsplit.symm⟩
    obtain ⟨other, w, rest, rfl, hother, -⟩ := hunwritten _ _ hsuffix
    have hevent := hnone (.changed other w) (hsuffix.subset (by simp))
    simp [Event.change?, hother] at hevent
  · intro hno event hmem
    exact Event.change?_eq_none fun name v heq => hno name v (heq ▸ hmem)

/-! ## §5 The name of the last change -/

namespace Engine

/-- **`%` names the symbol that changed last**, and is unset as long as nothing has changed. -/
structure TellsLast (e : Engine) : Prop where
  value : e.value? Symbol.lastChanged = (lastChange? e.journal).map .string
  unset : e.value? Symbol.lastChanged = none ↔ ∀ name v, .changed name v ∉ e.journal

theorem TellsLast.of_namesLast {config : Config} {e : Engine} (h : Moves (Engine.new config) e)
    (hunwritten : Unwritten e.journal) (hnames : NamesLast e.journal) : e.TellsLast := by
  have hvalue : e.value? Symbol.lastChanged = (lastChange? e.journal).map .string :=
    (h.told Symbol.lastChanged).trans hnames
  refine ⟨hvalue, ?_⟩
  rw [hvalue, Option.map_eq_none_iff]
  exact lastChange?_eq_none hunwritten

/-- **A set that takes effect writes `%` by itself just if it is a set of `%`.** -/
theorem unwritten_mark_iff {e : Engine} (htells : e.TellsLast) (hunwritten : Unwritten e.journal)
    {name : String} {v : Value} (hholds : (e.symbolOf name).holds v = false) :
    Unwritten ((e.changed name v).mark name).journal ↔ name ≠ Symbol.lastChanged := by
  constructor
  · rintro hwritten rfl
    rw [mark, if_pos rfl] at hwritten
    obtain ⟨other, w, rest, hjournal, hother, rfl⟩ := hwritten _ _ List.suffix_rfl
    -- the value would have to be the one that is there
    have hvalue : e.value? Symbol.lastChanged = some (.string other) := by
      rw [htells.value, hjournal, lastChange?_cons_changed, if_neg hother]
      rfl
    rw [Symbol.holds, symbolOf_value, hvalue] at hholds
    simp [Value.sameOption, Value.same] at hholds
  · exact fun hname => unwritten_mark hunwritten hname v

theorem run_readSymbol (name : String) (e : Engine) :
    ((Runner.readSymbol name).run.run e).2 = e.touch name := by
  unfold Runner.readSymbol
  rw [run_modify, run_look]
  split <;> rfl

end Engine

open Engine

/-- **`%` names the last change.** On every run on which no operation writes `%`, or on which it has
not in fact been written by itself: when an operation is over, when the evaluation of a rule's tree
begins, and at every other moment but those between a change and its mark, `%` has the name of the
symbol that changed last in the whole run so far, and is unset just as long as nothing has changed.
Setting a symbol to the value it has and reading one leave `%` alone; a set that takes effect writes `%`
by itself just if it is a set of `%`. -/
theorem last_change_told {config : Config} {ops : List Operation}
    (hspared : (∀ o ∈ ops, o.Writes Symbol.Ordinary) ∨ Unwritten (history config ops).journal) :
    (∀ {before after}, ops = before ++ after → (history config before).TellsLast) ∧
    (∀ {id before}, .began id :: before <:+ (history config ops).journal →
      (∃ m, Moves (Engine.new config) m ∧ Moves m (history config ops) ∧
        m.journal = .began id :: before) ∧
      ∀ {m}, Moves (Engine.new config) m → m.journal = .began id :: before → m.TellsLast) ∧
    (∀ {m}, Moves (Engine.new config) m → m.journal <:+ (history config ops).journal →
      (∀ w, ¬ .changed Symbol.lastChanged w :: m.journal <:+ (history config ops).journal) →
      m.TellsLast) ∧
    ∀ {m}, Moves (Engine.new config) m →
      (∀ (levels : Nat) {name v}, (m.symbolOf name).holds v = true →
        (((runner levels).set name v).run m).2.value? Symbol.lastChanged =
          m.value? Symbol.lastChanged) ∧
      (∀ name, ((Runner.readSymbol name).run.run m).2.value? Symbol.lastChanged =
        m.value? Symbol.lastChanged) ∧
      (m.TellsLast → Unwritten m.journal → ∀ {name v}, (m.symbolOf name).holds v = false →
        (Unwritten ((m.changed name v).mark name).journal ↔ name ≠ Symbol.lastChanged)) := by
  have hunwritten : Unwritten (history config ops).journal := hspared.elim unwritten_of_writes id
  have hmarked := marked_history config ops
  have hmoment : ∀ {m}, Moves (Engine.new config) m →
      m.journal <:+ (history config ops).journal →
      (∀ w, ¬ .changed Symbol.lastChanged w :: m.journal <:+ (history config ops).journal) →
      m.TellsLast := by
    intro m hm hjournal hnext
    refine .of_namesLast hm (hunwritten.mono hjournal) ?_
    exact namesLast_of_marked hmarked hunwritten m.journal hjournal hnext
  refine ⟨fun {before after} hops => ?_, fun {id before} hbegan => ⟨?_, fun hm hjournal => ?_⟩,
    hmoment, fun {m} hm => ⟨fun levels name v hholds => ?_, fun name => ?_, ?_⟩⟩
  · -- what has happened so far is a history of its own, in which nothing comes next
    have hjournal : (history config before).journal <:+ (history config ops).journal := by
      have hafter : history config ops = (history config before).after after := by
        rw [hops, history, history, Engine.after, Engine.after, Engine.after, List.foldl_append]
      rw [hafter]
      exact Moves.journal (course_after (canonical_history config before) after).moves
    have hm : Moves (Engine.new config) (history config before) :=
      (course_history config before).moves
    refine .of_namesLast hm (hunwritten.mono hjournal) ?_
    refine namesLast_of_marked (marked_history config before) (hunwritten.mono hjournal) _
      List.suffix_rfl fun w hw => ?_
    have hlength := hw.length_le
    rw [List.length_cons] at hlength
    omega
  · refine Moves.exists_moment (course_history config ops).moves ?_ hbegan
    rw [journal_new]
    exact List.nil_suffix
  · refine hmoment hm (hjournal ▸ hbegan) fun w hw => ?_
    -- what comes next is no mark, since no change came right before
    obtain ⟨name, v, rest, hchanged, -⟩ := hunwritten _ _ hw
    rw [hjournal] at hchanged
    cases hchanged
  · rw [run_set_eq, if_pos hholds]
    exact value?_touch m name Symbol.lastChanged
  · rw [run_readSymbol]
    exact value?_touch m name Symbol.lastChanged
  · intro htells hunwritten name v hholds
    exact unwritten_mark_iff htells hunwritten hholds

/-- A rule that only looks at a symbol changes nothing, so the symbol set last is the last change. -/
theorem last_change_told_of_two :
    (history .standard [.define "copy" "a", .set "a" (.int 1), .set "b" (.int 2)]).TellsLast ∧
      (history .standard [.define "copy" "a", .set "a" (.int 1), .set "b" (.int 2)]).value?
        Symbol.lastChanged = some (.string "b") := by
  have hsource : SourceWrites Symbol.Ordinary "a" := by
    intro key r hread
    have hcopy : Rule.compile key "a" = .ok ⟨key, "a", .var "a", none⟩ := rfl
    rw [hcopy] at hread
    cases hread
    exact fun name hname => nomatch hname
  have hwrites : ∀ o ∈ [Operation.define "copy" "a", .set "a" (.int 1), .set "b" (.int 2)],
      o.Writes Symbol.Ordinary := by
    intro o ho
    simp only [List.mem_cons, List.not_mem_nil, or_false] at ho
    rcases ho with rfl | rfl | rfl
    · exact hsource
    · show "a" ≠ Symbol.lastChanged
      decide
    · show "b" ≠ Symbol.lastChanged
      decide
  exact ⟨(last_change_told (.inl hwrites)).1 (List.append_nil _).symm, rfl⟩

end Cascade
