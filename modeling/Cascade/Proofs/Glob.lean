import Cascade.Glob

/-!
# Covering a name

Every pattern covers itself, read as a name, and a pattern without wildcards covers nothing else.
-/

namespace Cascade.Glob

theorem matchChars_self (pattern : List Char) : matchChars pattern pattern = true := by
  induction pattern with
  | nil => rfl
  | cons c rest ih =>
    by_cases hstar : c = '*'
    · subst hstar
      -- a star may stand for itself alone
      rw [matchChars]
      exact anyTail_eq_true.mpr ⟨['*'], rest, rfl, ih⟩
    · by_cases hmark : c = '?'
      · subst hmark
        rw [matchChars, ih]
      · simp [matchChars, ih]

theorem matchChars_of_plain {pattern : List Char} (h : pattern.any isWildcard = false) :
    ∀ text, matchChars pattern text = true ↔ text = pattern := by
  induction pattern with
  | nil =>
    intro text
    simp [matchChars]
  | cons c rest ih =>
    intro text
    simp only [List.any_cons, Bool.or_eq_false_iff] at h
    obtain ⟨hc, hrest⟩ := h
    have hstar : c ≠ '*' := by
      rintro rfl
      exact absurd hc (by decide)
    have hmark : c ≠ '?' := by
      rintro rfl
      exact absurd hc (by decide)
    cases text with
    | nil => simp [matchChars]
    | cons d tail =>
      simp only [matchChars, Bool.and_eq_true, beq_iff_eq, ih hrest, List.cons.injEq]
      constructor
      · rintro ⟨rfl, rfl⟩
        exact ⟨rfl, rfl⟩
      · rintro ⟨rfl, rfl⟩
        exact ⟨rfl, rfl⟩

theorem covers_self (pattern : String) : covers pattern pattern = true :=
  matchChars_self pattern.toList

/-- **A text without wildcards covers itself only.** -/
theorem covers_iff_eq {pattern : String} (h : hasWildcard pattern = false) (name : String) :
    covers pattern name = true ↔ name = pattern := by
  rw [covers, matchChars_of_plain h, String.toList_inj]

end Cascade.Glob
