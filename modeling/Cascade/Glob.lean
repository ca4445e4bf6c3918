/-!
# Wildcard patterns for names

In a pattern `?` stands for exactly one character, `*` for any run of characters, and every other
character for itself. A pattern matches whole names.

§1 matching; §2 patterns without wildcards.
-/

namespace Cascade.Glob

/-! ## §1 Matching -/

/-- Does some tail of the list, the list itself included, pass the test? -/
def anyTail (test : List Char → Bool) : List Char → Bool
  | [] => test []
  | c :: rest => test (c :: rest) || anyTail test rest

/-- **Matching**: the pattern first, then the text. -/
def matchChars : List Char → List Char → Bool
  | [], text => text.isEmpty
  | '*' :: rest, text => anyTail (matchChars rest) text
  | '?' :: rest, text =>
    match text with
    | [] => false
    | _ :: tail => matchChars rest tail
  | p :: rest, text =>
    match text with
    | [] => false
    | c :: tail => p == c && matchChars rest tail

/-- Does the pattern match the name? -/
def covers (pattern name : String) : Bool := matchChars pattern.toList name.toList

/-! ## §2 Wildcards -/

/-- The two wildcard characters. -/
def isWildcard (c : Char) : Bool := c == '*' || c == '?'

/-- Has the text a wildcard in it? -/
def hasWildcard (text : String) : Bool := text.toList.any isWildcard

theorem anyTail_eq_true {test : List Char → Bool} :
    ∀ {text : List Char}, anyTail test text = true ↔ ∃ front tail, text = front ++ tail ∧ test tail
  | [] => by
    simp only [anyTail]
    constructor
    · intro h; exact ⟨[], [], rfl, h⟩
    · rintro ⟨front, tail, h, ht⟩
      have := List.append_eq_nil_iff.mp h.symm
      rw [this.2] at ht; exact ht
  | c :: rest => by
    simp only [anyTail, Bool.or_eq_true]
    constructor
    · rintro (h | h)
      · exact ⟨[], c :: rest, rfl, h⟩
      · obtain ⟨front, tail, hs, ht⟩ := anyTail_eq_true.mp h
        exact ⟨c :: front, tail, by rw [hs]; rfl, ht⟩
    · rintro ⟨front, tail, hs, ht⟩
      cases front with
      | nil => left; rw [List.nil_append] at hs; rw [hs]; exact ht
      | cons d front =>
        right
        rw [List.cons_append, List.cons.injEq] at hs
        exact anyTail_eq_true.mpr ⟨front, tail, hs.2, ht⟩

end Cascade.Glob
