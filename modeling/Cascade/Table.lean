/-!
# Tables by name

A table holds one entry for each of finitely many names, in ascending order of the names. The order
is that of code points, and it is part of the type, so what is listed from a table needs no sorting.

§1 the type; §2 looking up; §3 inserting and erasing; §4 changing all entries; §5 two tables with the
same look-ups are the same.
-/

namespace Cascade

/-! ## §1 The type -/

/-- **A table**: entries by name, ascending. -/
structure Table (α : Type) where
  entries : List (String × α)
  ascending : entries.Pairwise fun a b => a.1 < b.1

namespace Table

/-- The table without entries. -/
def empty : Table α := ⟨[], .nil⟩

instance : Inhabited (Table α) := ⟨empty⟩

/-- The names of a table, ascending. -/
def names (t : Table α) : List String := t.entries.map Prod.fst

/-! ## §2 Looking up -/

/-- The first entry of a list under a name. -/
def find (name : String) : List (String × α) → Option α
  | [] => none
  | (other, v) :: rest => if other = name then some v else find name rest

/-- **The entry under a name.** -/
def get? (t : Table α) (name : String) : Option α := find name t.entries

/-- Is there an entry under the name? -/
def contains (t : Table α) (name : String) : Bool := (t.get? name).isSome

@[simp] theorem get?_empty (name : String) : (empty : Table α).get? name = none := rfl

theorem find_eq_none {name : String} :
    ∀ {l : List (String × α)}, (∀ p ∈ l, p.1 ≠ name) → find name l = none
  | [], _ => rfl
  | (other, v) :: rest, h => by
    have hother : other ≠ name := h (other, v) (List.mem_cons_self ..)
    rw [find, if_neg hother]
    exact find_eq_none fun p hp => h p (List.mem_cons_of_mem _ hp)

theorem mem_of_find {name : String} {v : α} :
    ∀ {l : List (String × α)}, find name l = some v → (name, v) ∈ l
  | [], h => by cases h
  | (other, w) :: rest, h => by
    rw [find] at h
    split at h
    · next heq => cases h; rw [heq]; exact List.mem_cons_self ..
    · exact List.mem_cons_of_mem _ (mem_of_find h)

theorem find_of_mem {name : String} {v : α} :
    ∀ {l : List (String × α)}, l.Pairwise (fun a b => a.1 < b.1) → (name, v) ∈ l →
      find name l = some v
  | [], _, h => by cases h
  | (other, w) :: rest, hl, h => by
    rw [List.pairwise_cons] at hl
    rw [find]
    rcases List.mem_cons.mp h with h | h
    · cases h; rw [if_pos rfl]
    · have hlt : other < name := hl.1 _ h
      have hne : other ≠ name := fun he => String.lt_irrefl name (he ▸ hlt)
      rw [if_neg hne]
      exact find_of_mem hl.2 h

/-- **Look-up finds exactly the entries.** -/
theorem mem_entries_iff {t : Table α} {name : String} {v : α} :
    (name, v) ∈ t.entries ↔ t.get? name = some v :=
  ⟨find_of_mem t.ascending, mem_of_find⟩

theorem mem_names_iff {t : Table α} {name : String} :
    name ∈ t.names ↔ (t.get? name).isSome := by
  rw [names, List.mem_map, Option.isSome_iff_exists]
  constructor
  · rintro ⟨⟨n, v⟩, hp, rfl⟩
    exact ⟨v, mem_entries_iff.mp hp⟩
  · rintro ⟨v, hv⟩
    exact ⟨(name, v), mem_entries_iff.mpr hv, rfl⟩

/-! ## §3 Inserting and erasing -/

/-- Puts an entry at its place in an ascending list, over one of the same name. -/
def place (name : String) (v : α) : List (String × α) → List (String × α)
  | [] => [(name, v)]
  | (other, w) :: rest =>
    if name < other then (name, v) :: (other, w) :: rest
    else if other = name then (name, v) :: rest
    else (other, w) :: place name v rest

theorem mem_place {name : String} {v : α} {p : String × α} :
    ∀ {l : List (String × α)}, p ∈ place name v l → p = (name, v) ∨ p ∈ l
  | [], h => by rw [place, List.mem_singleton] at h; exact Or.inl h
  | (other, w) :: rest, h => by
    rw [place] at h
    split at h
    · exact List.mem_cons.mp h
    · split at h
      · rcases List.mem_cons.mp h with h | h
        · exact Or.inl h
        · exact Or.inr (List.mem_cons_of_mem _ h)
      · rcases List.mem_cons.mp h with h | h
        · exact Or.inr (h ▸ List.mem_cons_self ..)
        · rcases mem_place h with h | h
          · exact Or.inl h
          · exact Or.inr (List.mem_cons_of_mem _ h)

theorem lt_of_not_lt_of_ne {a b : String} (h : ¬ a < b) (hne : b ≠ a) : b < a := by
  by_cases hba : b < a
  · exact hba
  · exact absurd (String.le_antisymm (String.not_lt.mp h) (String.not_lt.mp hba)) hne

theorem pairwise_place (name : String) (v : α) :
    ∀ {l : List (String × α)}, l.Pairwise (fun a b => a.1 < b.1) →
      (place name v l).Pairwise fun a b => a.1 < b.1
  | [], _ => List.pairwise_singleton ..
  | (other, w) :: rest, hl => by
    have hl' := List.pairwise_cons.mp hl
    rw [place]
    split
    · next hlt =>
      refine List.pairwise_cons.mpr ⟨fun p hp => ?_, hl⟩
      rcases List.mem_cons.mp hp with hp | hp
      · rw [hp]; exact hlt
      · exact String.lt_trans hlt (hl'.1 p hp)
    · next hge =>
      split
      · next heq =>
        subst heq
        exact List.pairwise_cons.mpr ⟨hl'.1, hl'.2⟩
      · next hne =>
        refine List.pairwise_cons.mpr ⟨fun p hp => ?_, pairwise_place name v hl'.2⟩
        rcases mem_place hp with hp | hp
        · rw [hp]; exact lt_of_not_lt_of_ne hge hne
        · exact hl'.1 p hp

theorem find_place (name other : String) (v : α) :
    ∀ {l : List (String × α)}, l.Pairwise (fun a b => a.1 < b.1) →
      find other (place name v l) = if other = name then some v else find other l
  | [], _ => by
    by_cases h : name = other
    · subst h; simp [place, find]
    · simp [place, find, h, Ne.symm h]
  | (first, w) :: rest, hl => by
    have hl' := List.pairwise_cons.mp hl
    rw [place]
    split
    · rw [find]
      by_cases h : name = other
      · rw [if_pos h, if_pos h.symm]
      · rw [if_neg h, if_neg (Ne.symm h)]
    · split
      · next heq =>
        subst heq
        rw [find, find]
        by_cases h : first = other
        · rw [if_pos h, if_pos h.symm]
        · rw [if_neg h, if_neg (Ne.symm h), if_neg h]
      · next hne =>
        rw [find, find]
        by_cases h : first = other
        · rw [if_pos h, if_neg (fun he => hne (h.trans he)), if_pos h]
        · rw [if_neg h, if_neg h]
          exact find_place name other v hl'.2

/-- **Inserts an entry**, over the one of the same name if there is one. -/
def insert (t : Table α) (name : String) (v : α) : Table α :=
  ⟨place name v t.entries, pairwise_place name v t.ascending⟩

theorem get?_insert (t : Table α) (name other : String) (v : α) :
    (t.insert name v).get? other = if other = name then some v else t.get? other :=
  find_place name other v t.ascending

@[simp] theorem get?_insert_self (t : Table α) (name : String) (v : α) :
    (t.insert name v).get? name = some v := by
  rw [get?_insert, if_pos rfl]

theorem get?_insert_of_ne {t : Table α} {name other : String} {v : α} (h : other ≠ name) :
    (t.insert name v).get? other = t.get? other := by
  rw [get?_insert, if_neg h]

/-- **Erases the entry under a name.** -/
def erase (t : Table α) (name : String) : Table α :=
  ⟨t.entries.filter (·.1 != name), t.ascending.filter _⟩

theorem find_filter_ne (name other : String) :
    ∀ l : List (String × α),
      find other (l.filter (·.1 != name)) = if other = name then none else find other l
  | [] => by simp [find]
  | (first, w) :: rest => by
    by_cases h : first = name
    · subst h
      rw [List.filter_cons_of_neg (by simp), find_filter_ne, find]
      by_cases ho : other = first
      · rw [if_pos ho, if_pos ho]
      · rw [if_neg ho, if_neg ho, if_neg (Ne.symm ho)]
    · rw [List.filter_cons_of_pos (by simpa using h), find, find, find_filter_ne]
      by_cases hf : first = other
      · rw [if_pos hf, if_neg (fun he => h (hf.trans he)), if_pos hf]
      · rw [if_neg hf, if_neg hf]

theorem get?_erase (t : Table α) (name other : String) :
    (t.erase name).get? other = if other = name then none else t.get? other :=
  find_filter_ne name other t.entries

/-! ## §4 Changing all entries -/

/-- **Changes every entry**, which may depend on its name. -/
def mapValues (f : String → α → β) (t : Table α) : Table β :=
  ⟨t.entries.map fun p => (p.1, f p.1 p.2), List.pairwise_map.mpr t.ascending⟩

theorem find_map (f : String → α → β) (name : String) :
    ∀ l : List (String × α),
      find name (l.map fun p => (p.1, f p.1 p.2)) = (find name l).map (f name)
  | [] => rfl
  | (first, w) :: rest => by
    rw [List.map_cons, find, find]
    by_cases h : first = name
    · rw [if_pos h, if_pos h, h]; rfl
    · rw [if_neg h, if_neg h]; exact find_map f name rest

theorem get?_mapValues (f : String → α → β) (t : Table α) (name : String) :
    (t.mapValues f).get? name = (t.get? name).map (f name) :=
  find_map f name t.entries

/-! ## §5 Extensionality -/

theorem entries_ext :
    ∀ {l m : List (String × α)}, l.Pairwise (fun a b => a.1 < b.1) →
      m.Pairwise (fun a b => a.1 < b.1) → (∀ p, p ∈ l ↔ p ∈ m) → l = m
  | [], [], _, _, _ => rfl
  | [], b :: m, _, _, h => absurd ((h b).mpr (List.mem_cons_self ..)) (by simp)
  | a :: l, [], _, _, h => absurd ((h a).mp (List.mem_cons_self ..)) (by simp)
  | a :: l, b :: m, hl, hm, h => by
    have hl' := List.pairwise_cons.mp hl
    have hm' := List.pairwise_cons.mp hm
    have hab : a = b := by
      rcases List.mem_cons.mp ((h a).mp (List.mem_cons_self ..)) with ha | ha
      · exact ha
      · rcases List.mem_cons.mp ((h b).mpr (List.mem_cons_self ..)) with hb | hb
        · exact hb.symm
        · exact absurd (String.lt_trans (hl'.1 b hb) (hm'.1 a ha)) (String.lt_irrefl _)
    subst hab
    rw [entries_ext hl'.2 hm'.2 fun p => ?_]
    constructor
    · intro hp
      rcases List.mem_cons.mp ((h p).mp (List.mem_cons_of_mem _ hp)) with he | he
      · exact absurd (hl'.1 p hp) (he ▸ String.lt_irrefl _)
      · exact he
    · intro hp
      rcases List.mem_cons.mp ((h p).mpr (List.mem_cons_of_mem _ hp)) with he | he
      · exact absurd (hm'.1 p hp) (he ▸ String.lt_irrefl _)
      · exact he

/-- **Tables with the same look-ups are equal.** -/
theorem eq_of_get?_eq {t u : Table α} (h : ∀ name, t.get? name = u.get? name) : t = u := by
  have he : t.entries = u.entries := by
    refine entries_ext t.ascending u.ascending fun p => ?_
    rw [show p = (p.1, p.2) from rfl, mem_entries_iff, mem_entries_iff, h]
  cases t; cases u; cases he; rfl

end Table

end Cascade
