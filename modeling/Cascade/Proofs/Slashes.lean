import Cascade.Line
import Mathlib.Data.List.Induction

/-!
# Where the line of a trigger splits

Between its two slashes the line of a trigger has a pattern, and in a pattern a slash may stand behind a
backslash. The splitter goes over the characters once with a flag in hand. What the flag stands for can
be said of the text alone: a backslash takes the character after it, and the flag is up just if the text
read so far ends in a backslash that has taken none. So the place of the cut can be told without the
splitter, it is the only one of its kind, and every pattern can be written so that it is cut where it ends.

§1 escapes; §2 open slashes and the cut; §3 the splitter; §4 writing a pattern; §5 places in a text; §6 the law;
§7 the line of a trigger.
-/

namespace Cascade.Line

/-! ## §1 Escapes -/

/-- **A text that does not end inside an escape**: read from the left, each backslash takes the
character after it, whatever that is, and there is one. -/
inductive Whole : List Char → Prop
  | nil : Whole []
  | plain {c : Char} {rest : List Char} : c ≠ '\\' → Whole rest → Whole (c :: rest)
  | escape (c : Char) {rest : List Char} : Whole rest → Whole ('\\' :: c :: rest)

variable {before text front back rest : List Char} {c : Char}

theorem not_whole_backslash : ¬ Whole ['\\'] := by
  rintro (_ | ⟨hc, -⟩)
  exact hc rfl

theorem whole_plain (hc : c ≠ '\\') : Whole (c :: rest) ↔ Whole rest := by
  constructor
  · rintro (_ | ⟨-, h⟩ | ⟨_, -⟩)
    · exact h
    · exact absurd rfl hc
  · exact .plain hc

theorem whole_escape (c : Char) : Whole ('\\' :: c :: rest) ↔ Whole rest := by
  constructor
  · rintro (_ | ⟨hc, -⟩ | ⟨_, h⟩)
    · exact absurd rfl hc
    · exact h
  · exact .escape c

/-- Behind a whole text the reading starts afresh. -/
theorem Whole.append_iff (h : Whole front) : Whole (front ++ back) ↔ Whole back := by
  induction h with
  | nil => rfl
  | plain hc _ ih => rw [List.cons_append, whole_plain hc, ih]
  | escape c _ ih => rw [List.cons_append, List.cons_append, whole_escape, ih]

/-- **A text that ends inside an escape ends in the backslash that opened it.** -/
theorem whole_or_open (text : List Char) :
    Whole text ∨ ∃ front, text = front ++ ['\\'] ∧ Whole front := by
  induction text using List.reverseRec with
  | nil => exact .inl .nil
  | append_singleton text c ih =>
    rcases ih with h | ⟨front, rfl, h⟩
    · by_cases hc : c = '\\'
      · subst hc
        exact .inr ⟨text, rfl, h⟩
      · exact .inl (h.append_iff.mpr (.plain hc .nil))
    · left
      rw [List.append_assoc, h.append_iff]
      exact .escape c .nil

/-- **One more character** leaves a text whole, or makes it whole, unless it is a backslash that opens
an escape. -/
theorem whole_concat : Whole (text ++ [c]) ↔ (Whole text → c ≠ '\\') := by
  constructor
  · rintro hall htext rfl
    exact not_whole_backslash (htext.append_iff.mp hall)
  · intro hc
    rcases whole_or_open text with htext | ⟨front, rfl, hfront⟩
    · exact htext.append_iff.mpr (.plain (hc htext) .nil)
    · rw [List.append_assoc, hfront.append_iff]
      exact .escape c .nil

/-- **A text is whole just if it ends in an even number of backslashes**: they take one another in
pairs, whatever stands before them. -/
theorem whole_iff_even (text : List Char) :
    Whole text ↔ (text.reverse.takeWhile (· == '\\')).length % 2 = 0 := by
  induction text using List.reverseRec with
  | nil => exact iff_of_true .nil rfl
  | append_singleton text c ih =>
    rw [whole_concat, List.reverse_concat, List.takeWhile_cons]
    by_cases hc : c = '\\'
    · subst hc
      rw [if_pos (beq_self_eq_true _), List.length_cons, ih]
      simp only [ne_eq, not_true_eq_false, imp_false]
      omega
    · rw [if_neg (by simpa using hc)]
      exact iff_of_true (fun _ => hc) rfl

instance : DecidablePred Whole := fun text => decidable_of_iff _ (whole_iff_even text).symm

/-! ## §2 Open slashes and the cut -/

/-- **A slash that no backslash escapes** stands in a text that follows another one. -/
def OpenAfter (before text : List Char) : Prop :=
  ∃ front back, text = front ++ '/' :: back ∧ Whole (before ++ front)

theorem not_openAfter_nil : ¬ OpenAfter before [] := by
  rintro ⟨front, back, htext, -⟩
  exact List.append_ne_nil_of_right_ne_nil front (List.cons_ne_nil _ _) htext.symm

/-- The open slash is the first character, or it is among the others. -/
theorem openAfter_cons :
    OpenAfter before (c :: text) ↔ c = '/' ∧ Whole before ∨ OpenAfter (before ++ [c]) text := by
  constructor
  · rintro ⟨front, back, htext, hfront⟩
    rcases List.cons_eq_append_iff.mp htext with ⟨rfl, hcons⟩ | ⟨front, rfl, hcons⟩
    · exact .inl ⟨(List.cons.inj hcons).1.symm, by rwa [List.append_nil] at hfront⟩
    · exact .inr ⟨front, back, hcons, by rwa [List.append_assoc]⟩
  · rintro (⟨rfl, hbefore⟩ | ⟨front, back, rfl, hfront⟩)
    · exact ⟨[], text, rfl, by rwa [List.append_nil]⟩
    · exact ⟨c :: front, back, rfl, by rwa [List.append_assoc] at hfront⟩

theorem Whole.openAfter_iff (h : Whole before) : OpenAfter before text ↔ OpenAfter [] text := by
  unfold OpenAfter
  simp only [h.append_iff, List.nil_append]

theorem openAfter_plain (hc : c ≠ '\\') :
    OpenAfter [] (c :: text) ↔ c = '/' ∨ OpenAfter [] text := by
  have hwhole : Whole ([] ++ [c]) := .plain hc .nil
  rw [openAfter_cons, hwhole.openAfter_iff]
  simp only [Whole.nil, and_true]

/-- What a backslash takes is not open. -/
theorem openAfter_escape (c : Char) : OpenAfter [] ('\\' :: c :: text) ↔ OpenAfter [] text := by
  have hwhole : Whole ([] ++ ['\\'] ++ [c]) := .escape c .nil
  have hfirst : ¬ ('\\' = '/' ∧ Whole []) := fun h => absurd h.1 (by decide)
  have hsecond : ¬ (c = '/' ∧ Whole ([] ++ ['\\'])) := fun h => not_whole_backslash h.2
  rw [openAfter_cons, or_iff_right hfirst, openAfter_cons, or_iff_right hsecond,
    hwhole.openAfter_iff]

variable {pattern source : List Char}

/-- **A text that follows another one is cut** at a slash, which is open, behind a pattern in which no
slash is open. -/
def CutAfter (before text pattern source : List Char) : Prop :=
  text = pattern ++ '/' :: source ∧ Whole (before ++ pattern) ∧ ¬ OpenAfter before pattern

theorem not_cutAfter_nil : ¬ CutAfter before [] pattern source := by
  rintro ⟨htext, -⟩
  exact List.append_ne_nil_of_right_ne_nil pattern (List.cons_ne_nil _ _) htext.symm

/-- If the first character is an open slash, the cut is there and nowhere else. -/
theorem cutAfter_of_open (hopen : c = '/' ∧ Whole before) :
    CutAfter before (c :: rest) pattern source ↔ [] = pattern ∧ rest = source := by
  obtain ⟨rfl, hbefore⟩ := hopen
  constructor
  · rintro ⟨htext, -, hclosed⟩
    cases pattern with
    | nil => exact ⟨rfl, (List.cons.inj htext).2⟩
    | cons d more =>
      obtain ⟨rfl, -⟩ := List.cons.inj htext
      exact absurd (openAfter_cons.mpr (.inl ⟨rfl, hbefore⟩)) hclosed
  · rintro ⟨rfl, rfl⟩
    exact ⟨rfl, by rwa [List.append_nil], not_openAfter_nil⟩

/-- If it is not, it belongs to the pattern, and the cut is among the others. -/
theorem cutAfter_of_not_open (hopen : ¬ (c = '/' ∧ Whole before)) :
    CutAfter before (c :: rest) pattern source ↔
      ∃ more, CutAfter (before ++ [c]) rest more source ∧ c :: more = pattern := by
  constructor
  · rintro ⟨htext, hwhole, hclosed⟩
    cases pattern with
    | nil =>
      rw [List.append_nil] at hwhole
      exact absurd ⟨(List.cons.inj htext).1, hwhole⟩ hopen
    | cons d more =>
      obtain ⟨rfl, hrest⟩ := List.cons.inj htext
      rw [openAfter_cons, or_iff_right hopen] at hclosed
      exact ⟨more, ⟨hrest, by rwa [List.append_assoc], hclosed⟩, rfl⟩
  · rintro ⟨more, ⟨rfl, hwhole, hclosed⟩, rfl⟩
    refine ⟨rfl, by rwa [List.append_assoc] at hwhole, ?_⟩
    rwa [openAfter_cons, or_iff_right hopen]

/-! ## §3 The splitter -/

/-- **What the splitter's flag stands for**: the text read so far ends inside an escape. -/
def Tells (escaped : Bool) (before : List Char) : Prop := escaped = true ↔ ¬ Whole before

theorem tells_nil : Tells false [] := iff_of_false Bool.false_ne_true (not_not_intro .nil)

variable {escaped : Bool}

/-- **One character more**, and the flag is up if a backslash has opened an escape. -/
theorem Tells.concat (h : Tells escaped before) (c : Char) :
    Tells (!escaped && c == '\\') (before ++ [c]) := by
  unfold Tells at *
  rw [whole_concat, Bool.and_eq_true, Bool.not_eq_true', ← Bool.not_eq_true, h, beq_iff_eq]
  tauto

/-- The splitter stops at open slashes. -/
theorem Tells.stops_iff (h : Tells escaped before) :
    (!escaped && c == '/') = true ↔ c = '/' ∧ Whole before := by
  unfold Tells at h
  rw [Bool.and_eq_true, Bool.not_eq_true', ← Bool.not_eq_true, h, not_not, beq_iff_eq, and_comm]

/-- **A step of the splitter**: it stops at a slash when the flag is down, and else goes on. -/
theorem splitTrigger_cons (escaped : Bool) (c : Char) (rest : List Char) :
    splitTrigger escaped (c :: rest) =
      if !escaped && c == '/' then some ([], rest)
      else (splitTrigger (!escaped && c == '\\') rest).map fun p => (c :: p.1, p.2) := by
  rw [splitTrigger]
  cases escaped with
  | true => rfl
  | false =>
    by_cases hc : c = '\\'
    · subst hc
      rfl
    · simp [beq_eq_false_iff_ne.mpr hc]

/-- **What the splitter finds**, wherever it starts: the cut at the first open slash. -/
theorem Tells.splitTrigger_eq_some_iff (h : Tells escaped before) :
    splitTrigger escaped text = some (pattern, source) ↔ CutAfter before text pattern source := by
  -- each character moves from the text to what was read before it, and `Tells.concat` carries the flag
  induction text generalizing escaped before pattern with
  | nil => exact iff_of_false (Option.some_ne_none _).symm not_cutAfter_nil
  | cons c rest ih =>
    rw [splitTrigger_cons]
    by_cases hstop : c = '/' ∧ Whole before
    · rw [if_pos (h.stops_iff.mpr hstop), cutAfter_of_open hstop, Option.some_inj, Prod.mk.injEq]
    · rw [if_neg (mt h.stops_iff.mp hstop), cutAfter_of_not_open hstop, Option.map_eq_some_iff]
      constructor
      · rintro ⟨⟨more, source⟩, hmore, heq⟩
        cases heq
        exact ⟨more, (ih (h.concat c)).mp hmore, rfl⟩
      · rintro ⟨more, hmore, rfl⟩
        exact ⟨(more, source), (ih (h.concat c)).mpr hmore, rfl⟩

/-- **The splitter finds nothing** just if there is no open slash. -/
theorem Tells.splitTrigger_eq_none_iff (h : Tells escaped before) :
    splitTrigger escaped text = none ↔ ¬ OpenAfter before text := by
  induction text generalizing escaped before with
  | nil => exact iff_of_true rfl not_openAfter_nil
  | cons c rest ih =>
    rw [splitTrigger_cons, openAfter_cons]
    by_cases hstop : c = '/' ∧ Whole before
    · rw [if_pos (h.stops_iff.mpr hstop)]
      exact iff_of_false (Option.some_ne_none _) (not_not_intro (.inl hstop))
    · rw [if_neg (mt h.stops_iff.mp hstop), or_iff_right hstop, Option.map_eq_none_iff,
        ih (h.concat c)]

/-! ## §4 Writing a pattern -/

/-- **Writes a backslash in front of every open slash.** What a backslash takes is left as it is. -/
def escapeSlashes : List Char → List Char
  | '\\' :: c :: rest => '\\' :: c :: escapeSlashes rest
  | '/' :: rest => '\\' :: '/' :: escapeSlashes rest
  | c :: rest => c :: escapeSlashes rest
  | [] => []

theorem escapeSlashes_plain (hc : c ≠ '\\') (hslash : c ≠ '/') :
    escapeSlashes (c :: rest) = c :: escapeSlashes rest := by
  rw [escapeSlashes]
  · exact fun _ _ h _ => hc h
  · exact hslash

/-- **What is written so** is whole if it was before, and has no open slash. -/
theorem Whole.written (h : Whole text) :
    Whole (escapeSlashes text) ∧ ¬ OpenAfter [] (escapeSlashes text) := by
  induction h with
  | nil => exact ⟨.nil, not_openAfter_nil⟩
  | @plain c rest hc _ ih =>
    by_cases hslash : c = '/'
    · subst hslash
      rw [escapeSlashes, whole_escape, openAfter_escape]
      exact ih
    · rw [escapeSlashes_plain hc hslash, whole_plain hc, openAfter_plain hc, or_iff_right hslash]
      exact ih
  | escape c _ ih =>
    rw [escapeSlashes, whole_escape, openAfter_escape]
    exact ih

/-- **Behind a whole text** the writing starts afresh. -/
theorem Whole.escapeSlashes_append (h : Whole front) (back : List Char) :
    escapeSlashes (front ++ back) = escapeSlashes front ++ escapeSlashes back := by
  induction h with
  | nil => rfl
  | @plain c rest hc _ ih =>
    by_cases hslash : c = '/'
    · subst hslash
      rw [List.cons_append, escapeSlashes, escapeSlashes, ih]
      rfl
    · rw [List.cons_append, escapeSlashes_plain hc hslash, escapeSlashes_plain hc hslash, ih]
      rfl
  | escape c _ ih =>
    rw [List.cons_append, List.cons_append, escapeSlashes, escapeSlashes, ih]
    rfl

/-- **A text without open slashes** is written as it is. -/
theorem Whole.escapeSlashes_eq_self (h : Whole text) (hopen : ¬ OpenAfter [] text) :
    escapeSlashes text = text := by
  induction h with
  | nil => rfl
  | plain hc _ ih =>
    rw [openAfter_plain hc, not_or] at hopen
    rw [escapeSlashes_plain hc hopen.1, ih hopen.2]
  | escape c _ ih =>
    rw [openAfter_escape] at hopen
    rw [escapeSlashes, ih hopen]

/-! ## §5 Places in a text -/

/-- **At a place in a text stands an open slash**: the text up to there does not end inside an
escape. -/
def IsOpenSlash {text : String} (place : text.Pos) : Prop :=
  ∃ h : place ≠ text.endPos, place.get h = '/' ∧ Whole (text.sliceTo place).copy.toList

theorem slash_eq_singleton : "/" = String.singleton '/' := rfl

theorem toList_slash_append (text : String) : ("/" ++ text).toList = '/' :: text.toList := by
  rw [slash_eq_singleton, String.toList_append, String.toList_singleton, List.singleton_append]

/-- A slash is one place wide. -/
theorem splits_behind_slash {text left right : String} {place : text.Pos}
    (h : place.Splits left ("/" ++ right)) (hne : place ≠ text.endPos) :
    (place.next hne).Splits (left ++ "/") right := by
  rw [slash_eq_singleton] at *
  exact h.next

theorem isOpenSlash_iff {text : String} {place : text.Pos} :
    IsOpenSlash place ↔ ∃ left right, place.Splits left ("/" ++ right) ∧ Whole left.toList := by
  constructor
  · rintro ⟨h, hslash, hwhole⟩
    have hsplits := place.splits_next_right h
    rw [hslash] at hsplits
    exact ⟨_, _, hsplits, hwhole⟩
  · rintro ⟨left, right, hsplits, hwhole⟩
    rw [slash_eq_singleton] at hsplits
    refine ⟨hsplits.ne_endPos_of_singleton, hsplits.next.get_eq_of_singleton, ?_⟩
    rwa [hsplits.copy_sliceTo_eq]

/-- The places of open slashes are where the list of characters has them. -/
theorem exists_isOpenSlash_iff (text : String) :
    (∃ place : text.Pos, IsOpenSlash place) ↔ OpenAfter [] text.toList := by
  constructor
  · rintro ⟨place, h⟩
    obtain ⟨left, right, hsplits, hwhole⟩ := isOpenSlash_iff.mp h
    refine ⟨left.toList, right.toList, ?_, hwhole⟩
    rw [← toList_slash_append, ← String.toList_append, ← hsplits.eq_append]
  · rintro ⟨front, back, htext, hfront⟩
    have hsplit : text = .ofList front ++ ("/" ++ .ofList back) := by
      rw [← String.toList_inj, String.toList_append, toList_slash_append, String.toList_ofList,
        String.toList_ofList, htext]
    refine ⟨.ofEqAppend hsplit, isOpenSlash_iff.mpr ⟨_, _, String.Pos.splits_ofEqAppend hsplit, ?_⟩⟩
    rwa [String.toList_ofList]

/-! ## §6 The law -/

/-- **A text is split into a pattern and a source** if they are what stands on either side of a slash,
and no slash in the pattern is open, nor does an escape run from its end to that slash. -/
structure IsSplit (body pattern source : String) : Prop where
  parts : body = pattern ++ "/" ++ source
  closed : ∀ place : pattern.Pos, ¬ IsOpenSlash place
  whole : Whole pattern.toList

theorem splitTrigger_toList_iff {body pattern source : String} :
    splitTrigger false body.toList = some (pattern.toList, source.toList) ↔
      IsSplit body pattern source := by
  rw [tells_nil.splitTrigger_eq_some_iff, CutAfter, ← exists_isOpenSlash_iff, not_exists, List.nil_append,
    ← toList_slash_append, ← String.toList_append, String.toList_inj, ← String.append_assoc]
  constructor
  · rintro ⟨hparts, hwhole, hclosed⟩
    exact ⟨hparts, hclosed, hwhole⟩
  · rintro ⟨hparts, hclosed, hwhole⟩
    exact ⟨hparts, hwhole, hclosed⟩

variable {body pattern source : String}

/-- A text is split in one way at most: the splitter would have to find both. -/
theorem IsSplit.unique {left right : String} (h : IsSplit body pattern source)
    (h' : IsSplit body left right) : left = pattern ∧ right = source := by
  have heq := (splitTrigger_toList_iff.mpr h').symm.trans (splitTrigger_toList_iff.mpr h)
  obtain ⟨hleft, hright⟩ := Prod.mk.inj (Option.some.inj heq)
  exact ⟨String.toList_inj.mp hleft, String.toList_inj.mp hright⟩

/-- **The first open slash** of a text splits it. An open slash in the pattern would be one of the text,
further to the front. -/
theorem isSplit_of_first {slash : body.Pos} (hslash : IsOpenSlash slash)
    (hfirst : ∀ earlier < slash, ¬ IsOpenSlash earlier)
    (hsplits : slash.Splits pattern ("/" ++ source)) : IsSplit body pattern source where
  parts := by rw [String.append_assoc, ← hsplits.eq_append]
  whole := by
    obtain ⟨-, -, hwhole⟩ := hslash
    rwa [hsplits.copy_sliceTo_eq] at hwhole
  closed := by
    intro place hplace
    obtain ⟨left, right, hinner, hleft⟩ := isOpenSlash_iff.mp hplace
    have hbody : body = left ++ ("/" ++ (right ++ ("/" ++ source))) := by
      rw [hsplits.eq_append, hinner.eq_append]
      simp only [String.append_assoc]
    have hearlier := String.Pos.splits_ofEqAppend hbody
    have hne : "/" ++ right ≠ "" := by
      rw [ne_eq, ← String.toList_inj, toList_slash_append]
      exact List.cons_ne_nil _ _
    refine hfirst _ ?_ (isOpenSlash_iff.mpr ⟨_, _, hearlier, hleft⟩)
    refine (hearlier.lt_iff_exists_eq_append hsplits).mpr ⟨"/" ++ right, hne, hinner.eq_append, ?_⟩
    rw [String.append_assoc]

/-- **A text is split at its first open slash.** An earlier one would be in the pattern. -/
theorem IsSplit.first (h : IsSplit body pattern source) {slash : body.Pos}
    (hsplits : slash.Splits pattern ("/" ++ source)) :
    ∀ earlier < slash, ¬ IsOpenSlash earlier := by
  intro earlier hlt hearlier
  obtain ⟨left, right, houter, hleft⟩ := isOpenSlash_iff.mp hearlier
  obtain ⟨between, hne, rfl, hrest⟩ := (houter.lt_iff_exists_eq_append hsplits).mp hlt
  have hbetween : '/' :: right.toList = between.toList ++ '/' :: source.toList := by
    rw [← toList_slash_append, ← toList_slash_append, ← String.toList_append, hrest]
  have hopen : OpenAfter [] (left ++ between).toList := by
    rcases List.cons_eq_append_iff.mp hbetween with ⟨hnil, -⟩ | ⟨more, hmore, -⟩
    · exact absurd (String.toList_eq_nil_iff.mp hnil) hne
    · exact ⟨left.toList, more, by rw [String.toList_append, hmore], hleft⟩
  obtain ⟨place, hplace⟩ := (exists_isOpenSlash_iff _).mpr hopen
  exact h.closed place hplace

/-- **The cut by places**: the pattern ends where the first open slash stands, and the source begins one
byte further on. -/
theorem isSplit_iff_first :
    IsSplit body pattern source ↔
      ∃ (slash : body.Pos) (h : slash ≠ body.endPos), IsOpenSlash slash ∧
        (∀ earlier < slash, ¬ IsOpenSlash earlier) ∧
        (body.sliceTo slash).copy = pattern ∧ (body.sliceFrom (slash.next h)).copy = source ∧
        (slash.next h).offset.byteIdx = slash.offset.byteIdx + 1 := by
  constructor
  · intro h
    have hbody : body = pattern ++ ("/" ++ source) := by rw [h.parts, String.append_assoc]
    have hsplits := String.Pos.splits_ofEqAppend hbody
    have hslash := isOpenSlash_iff.mpr ⟨_, _, hsplits, h.whole⟩
    obtain ⟨hne, hget, -⟩ := id hslash
    have hbehind := splits_behind_slash hsplits hne
    refine ⟨_, hne, hslash, h.first hsplits, hsplits.copy_sliceTo_eq, hbehind.copy_sliceFrom_eq, ?_⟩
    rw [String.Pos.byteIdx_offset_next, hget]
    rfl
  · rintro ⟨slash, hne, hslash, hfirst, rfl, rfl, -⟩
    obtain ⟨_, hget, -⟩ := id hslash
    have hsplits := slash.splits_next_right hne
    rw [hget] at hsplits
    exact isSplit_of_first hslash hfirst hsplits

/-- **The line of a trigger splits at its first open slash.** The splitter finds a pattern and a source
just if they are all of the text but a slash between them, the pattern has no open slash, and no escape
runs from its end to that slash; it finds nothing just if there is no open slash in the text. A text has
one such pattern and source at most. Every pattern that does not end inside an escape can be given a
form, by a backslash in front of each of its open slashes and nowhere else, in which it is found again,
whatever the source. And the text is cut at the first place where an open slash stands, one byte wide. -/
theorem splits_at_first_open_slash (body pattern source : String) :
    (splitTrigger false body.toList = some (pattern.toList, source.toList) ↔
        IsSplit body pattern source) ∧
      (splitTrigger false body.toList = none ↔ ∀ place : body.Pos, ¬ IsOpenSlash place) ∧
      (∀ left right, IsSplit body pattern source → IsSplit body left right →
        left = pattern ∧ right = source) ∧
      (Whole pattern.toList →
        splitTrigger false (escapeSlashes pattern.toList ++ '/' :: source.toList) =
          some (escapeSlashes pattern.toList, source.toList)) ∧
      (Whole pattern.toList → (∀ place : pattern.Pos, ¬ IsOpenSlash place) →
        escapeSlashes pattern.toList = pattern.toList) ∧
      (Whole pattern.toList → escapeSlashes (pattern.toList ++ '/' :: source.toList) =
        escapeSlashes pattern.toList ++ '\\' :: '/' :: escapeSlashes source.toList) ∧
      (IsSplit body pattern source ↔
        ∃ (slash : body.Pos) (h : slash ≠ body.endPos), IsOpenSlash slash ∧
          (∀ earlier < slash, ¬ IsOpenSlash earlier) ∧
          (body.sliceTo slash).copy = pattern ∧ (body.sliceFrom (slash.next h)).copy = source ∧
          (slash.next h).offset.byteIdx = slash.offset.byteIdx + 1) := by
  refine ⟨splitTrigger_toList_iff, ?_, fun _ _ => IsSplit.unique, ?_, ?_, ?_, isSplit_iff_first⟩
  · rw [tells_nil.splitTrigger_eq_none_iff, ← exists_isOpenSlash_iff, not_exists]
  · intro hwhole
    obtain ⟨hwritten, hclosed⟩ := hwhole.written
    exact tells_nil.splitTrigger_eq_some_iff.mpr ⟨rfl, hwritten, hclosed⟩
  · intro hwhole hclosed
    exact hwhole.escapeSlashes_eq_self (by rwa [← exists_isOpenSlash_iff, not_exists])
  · intro hwhole
    rw [hwhole.escapeSlashes_append, escapeSlashes]

/-- Backslashes in runs of three and two before a slash, one slash open and one not. -/
theorem runs_of_backslashes_split :
    (Whole "é/\\/\\\\".toList ∧
        splitTrigger false (escapeSlashes "é/\\/\\\\".toList ++ '/' :: "x = \"/\"".toList) =
          some (escapeSlashes "é/\\/\\\\".toList, "x = \"/\"".toList)) ∧
      IsSplit "\\\\\\/é\\\\/a/b" "\\\\\\/é\\\\" "a/b" ∧
      (∀ left right, IsSplit "\\\\\\/é\\\\/a/b" left right →
        left = "\\\\\\/é\\\\" ∧ right = "a/b") ∧
      escapeSlashes "\\\\\\/é\\\\".toList = "\\\\\\/é\\\\".toList := by
  have hsplit : IsSplit "\\\\\\/é\\\\/a/b" "\\\\\\/é\\\\" "a/b" :=
    (splits_at_first_open_slash _ _ _).1.mp (by decide)
  obtain ⟨-, -, hunique, -, hself, -⟩ :=
    splits_at_first_open_slash "\\\\\\/é\\\\/a/b" "\\\\\\/é\\\\" "a/b"
  refine ⟨⟨by decide, ?_⟩, hsplit, ?_, hself hsplit.whole hsplit.closed⟩
  · exact (splits_at_first_open_slash "" _ _).2.2.2.1 (by decide)
  · exact fun left right h => hunique left right hsplit h

/-! ## §7 The line of a trigger -/

open Text (trim)

/-- **What the line of a trigger is read as**, without its first slash: a trigger if it splits into a
pattern and a source of which neither is empty, blanks not counted in the source; and else it is broken. -/
theorem readTrigger_cases (body : String) :
    (∃ pattern source, IsSplit body pattern source ∧ pattern ≠ "" ∧ trim source.toList ≠ [] ∧
        readTrigger body.toList = .trigger pattern (.ofList (trim source.toList))) ∨
      (∀ pattern source, IsSplit body pattern source → pattern = "" ∨ trim source.toList = []) ∧
        readTrigger body.toList = .brokenTrigger := by
  unfold readTrigger
  split
  · next hnone =>
    refine .inr ⟨fun pattern source h => ?_, rfl⟩
    rw [splitTrigger_toList_iff.mpr h] at hnone
    cases hnone
  · next left right hsome =>
    have hsplit : IsSplit body (.ofList left) (.ofList right) := by
      rw [← splitTrigger_toList_iff, String.toList_ofList, String.toList_ofList, hsome]
    split
    · next hempty =>
      refine .inr ⟨fun pattern source h => ?_, rfl⟩
      obtain ⟨rfl, rfl⟩ := hsplit.unique h
      rw [← String.toList_eq_nil_iff, String.toList_ofList, String.toList_ofList]
      simpa only [Bool.or_eq_true, List.isEmpty_iff] using hempty
    · next hfull =>
      rw [Bool.or_eq_true, List.isEmpty_iff, List.isEmpty_iff, not_or] at hfull
      refine .inl ⟨.ofList left, .ofList right, hsplit, ?_, ?_, ?_⟩
      · rw [ne_eq, ← String.toList_eq_nil_iff, String.toList_ofList]
        exact hfull.1
      · rw [String.toList_ofList]
        exact hfull.2
      · rw [String.toList_ofList]

end Cascade.Line
