import Cascade.Trigger
import Mathlib.Data.List.Nodup

/-!
# The first trigger that matches

A line goes to the first trigger whose pattern matches it. What it binds comes from two passes over
the match: one over the groups by their numbers, one over the names of the pattern, each of which is
looked up among the names. The passes agree, since the names of a pattern tell its groups apart.

§1 groups and names; §2 the pass over the numbers; §3 the pass over the names; §4 the names that are
bound; §5 the law.
-/

namespace Cascade

/-! ## §1 Groups and names -/

namespace Pattern

/-- **A pattern matches a line** if it captures something there. -/
def Matches (p : Pattern) (line : String) : Prop := ∃ c, p.captures? line = some c

/-- The text of a group, if it took part; group 0 is the whole. -/
def Captures.text? (c : Captures) (group : Nat) : Option String :=
  ((some c.whole :: c.groups)[group]?).join

/-- The names of the groups from 0 on; not every group has one. -/
def captureNames (p : Pattern) : List (Option String) :=
  (List.range (p.groups + 1)).map fun group => p.names.lookup group

/-- The text that was captured under a name, which is looked up among the names. -/
def textNamed? (p : Pattern) (c : Captures) (name : String) : Option String :=
  (p.names.find? (·.2 == name)).bind fun entry => c.text? entry.1

variable {names : List (Nat × String)}

/-- A number below those of all names has none. -/
theorem lookup_of_lt {group : Nat} (h : ∀ entry ∈ names, group < entry.1) :
    names.lookup group = none := by
  rw [List.lookup_eq_none_iff]
  intro entry hentry
  have := h entry hentry
  simp
  omega

/-- A number above that of the first name has it in common with no name but the others. -/
theorem lookup_cons_of_lt {entry : Nat × String} {group : Nat} (h : entry.1 < group) :
    (entry :: names).lookup group = names.lookup group := by
  have hne : (group == entry.1) = false := by
    simp
    omega
  rw [List.lookup_cons, hne]

/-- Names that come in the order of their groups are found group by group. -/
theorem lookup_range' {first count : Nat} (hsorted : names.Pairwise fun a b => a.1 < b.1)
    (hin : ∀ entry ∈ names, first ≤ entry.1 ∧ entry.1 < first + count) :
    (List.range' first count).filterMap (fun group => names.lookup group) = names.map Prod.snd := by
  induction count generalizing first names with
  | zero =>
    cases names with
    | nil => rfl
    | cons entry rest =>
      have := hin entry List.mem_cons_self
      omega
  | succ count ih =>
    rw [List.range'_succ, List.filterMap_cons]
    cases names with
    | nil => exact ih .nil nofun
    | cons entry rest =>
      obtain ⟨hfirst, hrest⟩ := List.pairwise_cons.mp hsorted
      obtain ⟨hentry, hin'⟩ := List.forall_mem_cons.mp hin
      -- the first number has the first name, or it has none
      by_cases hgroup : entry.1 = first
      · have hbehind : ∀ group ∈ List.range' (first + 1) count,
            (entry :: rest).lookup group = rest.lookup group := by
          intro group hmem
          have := (List.mem_range'_1.mp hmem).1
          exact lookup_cons_of_lt (by omega)
        have hname : (entry :: rest).lookup first = some entry.2 := by
          rw [← hgroup, List.lookup_cons, beq_self_eq_true]
        rw [hname, List.filterMap_congr hbehind]
        refine congrArg (entry.2 :: ·) (ih hrest fun other hother => ?_)
        have := hfirst other hother
        have := hin' other hother
        omega
      · have habove : ∀ other ∈ entry :: rest, first < other.1 := by
          refine List.forall_mem_cons.mpr ⟨by omega, fun other hother => ?_⟩
          have := hfirst other hother
          omega
        rw [lookup_of_lt habove]
        refine ih hsorted fun other hother => ?_
        have := habove other hother
        have := hin other hother
        omega

/-- **The names in the order of the groups** are the names of the pattern. -/
theorem captureNames_eq (p : Pattern) : p.captureNames.filterMap id = p.names.map Prod.snd := by
  rw [captureNames, List.filterMap_map, List.range_eq_range']
  refine lookup_range' (p.names_ok.1.imp And.left) fun entry hentry => ?_
  have := (p.names_ok.2 entry hentry).1
  omega

/-- A name that differs from the others is found. -/
theorem find?_name {entry : Nat × String} (h : names.Pairwise fun a b => a.2 ≠ b.2)
    (hentry : entry ∈ names) : names.find? (·.2 == entry.2) = some entry := by
  induction names with
  | nil => cases hentry
  | cons first rest ih =>
    obtain ⟨hfirst, hrest⟩ := List.pairwise_cons.mp h
    obtain rfl | hmem := List.mem_cons.mp hentry
    · exact List.find?_cons_of_pos (beq_self_eq_true _)
    · rw [List.find?_cons_of_neg (by simpa using hfirst entry hmem)]
      exact ih hrest hmem

/-- **What a name looks up is the text of its group.** -/
theorem textNamed?_of_mem (p : Pattern) (c : Captures) {entry : Nat × String}
    (h : entry ∈ p.names) : p.textNamed? c entry.2 = c.text? entry.1 := by
  rw [textNamed?, find?_name (p.names_ok.1.imp And.right) h]
  rfl

/-- A group that has a name has an entry. -/
theorem mem_names_of_captureNames {p : Pattern} {group : Nat} {name : String}
    (h : p.captureNames[group]? = some (some name)) : (group, name) ∈ p.names := by
  rw [captureNames, List.getElem?_map] at h
  obtain ⟨i, hi, hlookup⟩ := Option.map_eq_some_iff.mp h
  obtain ⟨hlt, rfl⟩ := List.getElem?_eq_some_iff.mp hi
  rw [List.getElem_range] at hlookup
  obtain ⟨front, back, hsplit, -⟩ := List.lookup_eq_some_iff.mp hlookup
  rw [hsplit]
  simp

end Pattern

namespace Trigger

open Pattern (Captures)

variable {p : Pattern} {c : Captures} {line : String}

/-! ## §2 The pass over the numbers -/

/-- The bindings of groups by number, group by group. -/
theorem positional_eq (first : Nat) (groups : List (Option String)) :
    positional first groups = (List.range groups.length).filterMap fun i =>
      (groups[i]?).join.map fun text => (positionalName (first + i), reading text) := by
  induction groups generalizing first with
  | nil => rfl
  | cons group rest ih =>
    rw [List.length_cons, List.range_succ_eq_map, List.filterMap_cons, List.filterMap_map]
    have hrest : positional (first + 1) rest = (List.range rest.length).filterMap
        ((fun i => ((group :: rest)[i]?).join.map fun text =>
          (positionalName (first + i), reading text)) ∘ Nat.succ) := by
      rw [ih]
      refine List.filterMap_congr fun i _ => ?_
      simp [Nat.add_assoc, Nat.add_comm 1]
    rw [← hrest]
    cases group with
    | none => rfl
    | some text => rfl

/-! ## §3 The pass over the names -/

/-- The bindings of groups by name, entry by entry. -/
theorem named_eq (groups : List (Option String)) (names : List (Nat × String)) :
    named groups names = names.filterMap fun entry =>
      (groups[entry.1]?).join.map fun text => (entry.2, reading text) := by
  induction names with
  | nil => rfl
  | cons entry rest ih =>
    rw [named, List.filterMap_cons, ih]
    cases (groups[entry.1]?).join with
    | none => rfl
    | some text => rfl

/-- **The groups that have names are bound name by name**, each name being looked up. -/
theorem named_eq_lookup (p : Pattern) (c : Captures) :
    named (some c.whole :: c.groups) p.names = (p.captureNames.filterMap id).filterMap fun name =>
      (p.textNamed? c name).map fun text => (name, reading text) := by
  rw [named_eq, p.captureNames_eq, List.filterMap_map]
  refine List.filterMap_congr fun entry hentry => ?_
  rw [Function.comp_apply, p.textNamed?_of_mem c hentry]
  rfl

/-! ## §4 The names that are bound -/

theorem positionalName_inj {i j : Nat} (h : positionalName i = positionalName j) : i = j := by
  have hrepr : i.repr = j.repr := (String.append_right_inj _).mp h
  rw [Nat.repr_eq_ofList_toDigits, Nat.repr_eq_ofList_toDigits, String.ofList_inj] at hrepr
  have hvalue := congrArg (Nat.ofDigitChars 10 · 0) hrepr
  simpa only [Nat.ofDigitChars_toDigits (by decide : 1 < 10) (Nat.le_refl 10)] using hvalue

theorem head?_positionalName (i : Nat) : (positionalName i).toList.head? = some '.' := by
  have hpoint : ".".toList = ['.'] := rfl
  rw [positionalName, String.toList_append, hpoint]
  rfl

/-- The names of groups by number, as far as these took part. -/
theorem names_positional (first : Nat) (groups : List (Option String)) :
    ((positional first groups).map Prod.fst).Sublist
      ((List.range' first groups.length).map positionalName) := by
  induction groups generalizing first with
  | nil => exact .slnil
  | cons group rest ih =>
    rw [List.length_cons, List.range'_succ, List.map_cons]
    cases group with
    | none => exact (ih (first + 1)).cons _
    | some text => exact (ih (first + 1)).cons_cons _

/-- The names of groups by name, as far as these took part. -/
theorem names_named (groups : List (Option String)) (names : List (Nat × String)) :
    ((named groups names).map Prod.fst).Sublist (names.map Prod.snd) := by
  induction names with
  | nil => exact .slnil
  | cons entry rest ih =>
    rw [named, List.map_cons]
    cases (groups[entry.1]?).join with
    | none => exact ih.cons _
    | some text => exact ih.cons_cons _

/-- A name of a pattern is not one that stands for a group by number. -/
theorem ne_positionalName {entry : Nat × String} (h : entry ∈ p.names) (i : Nat) :
    entry.2 ≠ positionalName i := by
  intro heq
  refine (p.names_ok.2 entry h).2 ?_
  rw [heq, head?_positionalName]

/-- **No name is bound twice.** -/
theorem nodup_bindings (p : Pattern) (c : Captures) : ((bindings p c).map Prod.fst).Nodup := by
  have hpositional := names_positional 0 (some c.whole :: c.groups)
  have hnamed := names_named (some c.whole :: c.groups) p.names
  rw [bindings, List.map_append]
  refine List.Nodup.append ?_ ?_ ?_
  · refine hpositional.nodup (List.Nodup.map (fun i j => positionalName_inj) List.nodup_range')
  · exact hnamed.nodup (List.pairwise_map.mpr (p.names_ok.1.imp And.right))
  · intro name hnumber hname
    obtain ⟨i, -, rfl⟩ := List.mem_map.mp (hpositional.subset hnumber)
    obtain ⟨entry, hentry, heq⟩ := List.mem_map.mp (hnamed.subset hname)
    exact ne_positionalName hentry i heq

/-- What is bound by number is what a group has captured. -/
theorem mem_bindings_positional {i : Nat} {v : Value} :
    (positionalName i, v) ∈ bindings p c ↔ ∃ text, c.text? i = some text ∧ reading text = v := by
  rw [bindings, positional_eq, named_eq, List.mem_append, List.mem_filterMap, List.mem_filterMap]
  constructor
  · rintro (⟨j, -, hj⟩ | ⟨entry, hentry, hbound⟩)
    · obtain ⟨text, htext, heq⟩ := Option.map_eq_some_iff.mp hj
      obtain ⟨hname, hv⟩ := Prod.mk.inj heq
      rw [Nat.zero_add] at hname
      cases positionalName_inj hname
      exact ⟨text, htext, hv⟩
    · obtain ⟨text, -, heq⟩ := Option.map_eq_some_iff.mp hbound
      exact absurd (Prod.mk.inj heq).1 (ne_positionalName hentry i)
  · rintro ⟨text, htext, rfl⟩
    refine .inl ⟨i, ?_, ?_⟩
    · exact List.mem_range.mpr (List.getElem?_eq_some_iff.mp (Option.join_eq_some_iff.mp htext)).1
    · rw [Nat.zero_add]
      exact Option.map_eq_some_iff.mpr ⟨text, htext, rfl⟩

/-- What is bound by name is what the group with that name has captured. -/
theorem mem_bindings_named {entry : Nat × String} (hentry : entry ∈ p.names) {v : Value} :
    (entry.2, v) ∈ bindings p c ↔ ∃ text, c.text? entry.1 = some text ∧ reading text = v := by
  rw [bindings, positional_eq, named_eq, List.mem_append, List.mem_filterMap, List.mem_filterMap]
  constructor
  · rintro (⟨j, -, hj⟩ | ⟨other, hother, hbound⟩)
    · obtain ⟨text, -, heq⟩ := Option.map_eq_some_iff.mp hj
      exact absurd (Prod.mk.inj heq).1.symm (ne_positionalName hentry _)
    · obtain ⟨text, htext, heq⟩ := Option.map_eq_some_iff.mp hbound
      obtain ⟨hname, hv⟩ := Prod.mk.inj heq
      -- two entries with one name are the same
      have hsame := Pattern.find?_name (p.names_ok.1.imp And.right) hother
      rw [hname, Pattern.find?_name (p.names_ok.1.imp And.right) hentry] at hsame
      cases hsame
      exact ⟨text, htext, hv⟩
  · rintro ⟨text, htext, rfl⟩
    exact .inr ⟨entry, hentry, Option.map_eq_some_iff.mpr ⟨text, htext, rfl⟩⟩

/-! ## §5 The law -/

/-- A trigger acts on the lines that its pattern matches. -/
theorem hit?_isSome_iff {t : Trigger} : (t.hit? line).isSome = true ↔ t.pattern.Matches line := by
  rw [hit?, Option.isSome_map, Option.isSome_iff_exists]
  rfl

/-- **The bindings of a match are those of the two passes.** -/
theorem bindings_eq (h : p.captures? line = some c) :
    bindings p c =
      ((List.range (p.groups + 1)).filterMap fun i =>
        (c.text? i).map fun text => (positionalName i, reading text)) ++
      (p.captureNames.filterMap id).filterMap fun name =>
        (p.textNamed? c name).map fun text => (name, reading text) := by
  rw [bindings, named_eq_lookup, positional_eq, List.length_cons, Pattern.length_captures h]
  simp only [Nat.zero_add]
  rfl

end Trigger

open Trigger in
/-- **A line goes to the first trigger that matches it.** Some trigger acts on a line just if the
pattern of some trigger matches it. Then no trigger in front of the one that acts matches, the rule is
that of the trigger, and the bindings are those of the groups that took part, by number and in order,
and behind them those of the groups that took part and have a name, by name and in the order of the
groups. All names differ, and what is bound under the name of a group is what is bound under its
number. More triggers behind change nothing. -/
theorem first_match_acts (triggers : List Trigger) (line : String) :
    ((firstHit? triggers line).isSome = true ↔ ∃ t ∈ triggers, t.pattern.Matches line) ∧
      ∀ hit, firstHit? triggers line = some hit →
        (∃ earlier t later c, triggers = earlier ++ t :: later ∧
          (∀ u ∈ earlier, ¬ u.pattern.Matches line) ∧ t.pattern.captures? line = some c ∧
          hit.rule = t.rule ∧
          hit.bindings =
            ((List.range (t.pattern.groups + 1)).filterMap fun i =>
              (c.text? i).map fun text => (positionalName i, reading text)) ++
            (t.pattern.captureNames.filterMap id).filterMap (fun name =>
              (t.pattern.textNamed? c name).map fun text => (name, reading text)) ∧
          (hit.bindings.map Prod.fst).Nodup ∧
          ∀ group name, t.pattern.captureNames[group]? = some (some name) →
            t.pattern.textNamed? c name = c.text? group ∧
              ∀ v, (name, v) ∈ hit.bindings ↔ (positionalName group, v) ∈ hit.bindings) ∧
        ∀ more, firstHit? (triggers ++ more) line = some hit := by
  constructor
  · rw [firstHit?, List.findSome?_isSome_iff]
    simp only [hit?_isSome_iff]
  intro hit h
  refine ⟨?_, firstHit?_append h⟩
  obtain ⟨earlier, t, later, rfl, hhit, hearlier⟩ := List.findSome?_eq_some_iff.mp h
  obtain ⟨c, hc, rfl⟩ := Option.map_eq_some_iff.mp hhit
  refine ⟨earlier, t, later, c, rfl, fun u hu => ?_, hc, rfl, bindings_eq hc,
    nodup_bindings t.pattern c, fun group name hname => ?_⟩
  · rw [← hit?_isSome_iff, hearlier u hu]
    exact Bool.false_ne_true
  · have hentry := Pattern.mem_names_of_captureNames hname
    refine ⟨t.pattern.textNamed?_of_mem c hentry, fun v => ?_⟩
    exact (mem_bindings_named hentry).trans mem_bindings_positional.symm

/-- A group that takes no part is not bound, neither by its number nor by its name. -/
example :
    let p : Pattern := ⟨"(?<sign>-)?(?<unit>V)", default, 2, [(1, "sign"), (2, "unit")], by decide⟩
    Trigger.bindings p ⟨"V", [none, some "V"]⟩ =
      [(".0", .string "V"), (".2", .string "V"), ("unit", .string "V")] := by
  rfl

end Cascade
