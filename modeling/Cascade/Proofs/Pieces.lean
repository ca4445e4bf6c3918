import Cascade.Proofs.Glob
import Mathlib.Data.List.Forall2

/-!
# Names in pieces

A pattern covers a name just if the name can be cut into one piece for each character of the pattern,
in order, each of which that character stands for. The matcher looks for such a cut from left to right
and tries every length for the piece of a star. That is not to be seen from outside: a pattern may be
cut at any place, inside a run of stars as well, and read from either end.

§1 what a character stands for; §2 cutting a text; §3 joining and turning patterns; §4 patterns and
names.
-/

namespace Cascade.Glob

/-! ## §1 What a character stands for -/

/-- **What one character of a pattern stands for**: a star for any run of characters, a question mark
for one character, every other character for itself. -/
def StandsFor : Char → List Char → Prop
  | '*', _ => True
  | '?', piece => piece.length = 1
  | c, piece => piece = [c]

theorem standsFor_star (piece : List Char) : StandsFor '*' piece := trivial

theorem standsFor_mark {piece : List Char} : StandsFor '?' piece ↔ ∃ c, piece = [c] := by
  show piece.length = 1 ↔ _
  exact List.length_eq_one_iff

theorem standsFor_plain {c : Char} (hstar : c ≠ '*') (hmark : c ≠ '?') {piece : List Char} :
    StandsFor c piece ↔ piece = [c] := by
  unfold StandsFor
  split
  · exact absurd rfl hstar
  · exact absurd rfl hmark
  · rfl

/-- It does not matter from which end a piece is read. -/
theorem standsFor_reverse {c : Char} {piece : List Char} :
    StandsFor c piece.reverse ↔ StandsFor c piece := by
  by_cases hstar : c = '*'
  · subst hstar
    exact iff_of_true (standsFor_star _) (standsFor_star _)
  by_cases hmark : c = '?'
  · subst hmark
    show piece.reverse.length = 1 ↔ piece.length = 1
    rw [List.length_reverse]
  · rw [standsFor_plain hstar hmark, standsFor_plain hstar hmark, List.reverse_eq_iff]
    rfl

/-! ## §2 Cutting a text -/

/-- **The first character of a pattern takes a piece** off the front of the text, and the others match
what is left. -/
theorem matchChars_cons (c : Char) (pattern text : List Char) :
    matchChars (c :: pattern) text = true ↔
      ∃ piece rest, text = piece ++ rest ∧ StandsFor c piece ∧ matchChars pattern rest = true := by
  by_cases hstar : c = '*'
  · subst hstar
    rw [matchChars, anyTail_eq_true]
    simp only [standsFor_star, true_and]
  by_cases hmark : c = '?'
  · subst hmark
    simp only [standsFor_mark]
    cases text with
    | nil =>
      constructor
      · intro h
        cases h
      · rintro ⟨piece, rest, htext, ⟨d, rfl⟩, -⟩
        cases htext
    | cons d tail =>
      rw [matchChars]
      constructor
      · intro h
        exact ⟨[d], tail, rfl, ⟨d, rfl⟩, h⟩
      · rintro ⟨piece, rest, htext, ⟨e, rfl⟩, h⟩
        obtain ⟨-, rfl⟩ := List.cons.inj htext
        exact h
  · simp only [standsFor_plain hstar hmark]
    cases text with
    | nil =>
      constructor
      · intro h
        simp [matchChars] at h
      · rintro ⟨piece, rest, htext, rfl, -⟩
        cases htext
    | cons d tail =>
      simp only [matchChars, Bool.and_eq_true, beq_iff_eq]
      constructor
      · rintro ⟨rfl, h⟩
        exact ⟨[c], tail, rfl, rfl, h⟩
      · rintro ⟨piece, rest, htext, rfl, h⟩
        obtain ⟨rfl, rfl⟩ := List.cons.inj htext
        exact ⟨rfl, h⟩

/-- **Matching is cutting**: a pattern matches a text just if the text is one piece after another, one
for each character of the pattern, and each character stands for its piece. -/
theorem matchChars_iff_pieces (pattern text : List Char) :
    matchChars pattern text = true ↔
      ∃ pieces, text = pieces.flatten ∧ List.Forall₂ StandsFor pattern pieces := by
  induction pattern generalizing text with
  | nil =>
    rw [matchChars, List.isEmpty_iff]
    simp
  | cons c pattern ih =>
    rw [matchChars_cons]
    constructor
    · rintro ⟨piece, rest, rfl, hc, hrest⟩
      obtain ⟨pieces, rfl, hpieces⟩ := (ih rest).mp hrest
      exact ⟨piece :: pieces, rfl, .cons hc hpieces⟩
    · rintro ⟨pieces, rfl, hpieces⟩
      obtain ⟨piece, pieces, hc, hrest, rfl⟩ := List.forall₂_cons_left_iff.mp hpieces
      exact ⟨piece, pieces.flatten, rfl, hc, (ih pieces.flatten).mpr ⟨pieces, rfl, hrest⟩⟩

/-! ## §3 Joining and turning patterns -/

/-- **One pattern behind another** matches what the first and the second match, joined. The second
pattern is met at whatever place the first one ends, so the induction is on the first. -/
theorem matchChars_append (front back text : List Char) :
    matchChars (front ++ back) text = true ↔
      ∃ left right, text = left ++ right ∧ matchChars front left = true ∧
        matchChars back right = true := by
  induction front generalizing text with
  | nil =>
    simp only [List.nil_append, matchChars, List.isEmpty_iff]
    constructor
    · intro h
      exact ⟨[], text, rfl, rfl, h⟩
    · rintro ⟨left, right, rfl, rfl, h⟩
      exact h
  | cons c front ih =>
    simp only [List.cons_append, matchChars_cons]
    constructor
    · rintro ⟨piece, rest, rfl, hc, hrest⟩
      obtain ⟨left, right, rfl, hleft, hright⟩ := (ih rest).mp hrest
      refine ⟨piece ++ left, right, ?_, ⟨piece, left, rfl, hc, hleft⟩, hright⟩
      rw [List.append_assoc]
    · rintro ⟨left, right, rfl, ⟨piece, rest, rfl, hc, hleft⟩, hright⟩
      refine ⟨piece, rest ++ right, ?_, hc, (ih (rest ++ right)).mpr ⟨rest, right, rfl, hleft, hright⟩⟩
      rw [List.append_assoc]

/-- A text that a pattern matches is matched backwards by the pattern backwards: the same pieces are
taken from the other end. -/
theorem matchChars_reverse_of {pattern text : List Char} (h : matchChars pattern text = true) :
    matchChars pattern.reverse text.reverse = true := by
  obtain ⟨pieces, rfl, hpieces⟩ := (matchChars_iff_pieces pattern text).mp h
  refine (matchChars_iff_pieces _ _).mpr ⟨(pieces.map List.reverse).reverse, List.reverse_flatten, ?_⟩
  rw [List.forall₂_reverse_iff, List.forall₂_map_right_iff]
  exact hpieces.imp fun _ _ hc => standsFor_reverse.mpr hc

/-- **Turning pattern and text around changes nothing.** -/
theorem matchChars_reverse (pattern text : List Char) :
    matchChars pattern.reverse text.reverse = matchChars pattern text := by
  rw [Bool.eq_iff_iff]
  constructor
  · intro h
    have hback := matchChars_reverse_of h
    rwa [List.reverse_reverse, List.reverse_reverse] at hback
  · exact matchChars_reverse_of

/-! ## §4 Patterns and names -/

/-- A name read backwards. -/
def backwards (name : String) : String := String.ofList name.toList.reverse

/-- **Matching is compositional.** Two patterns, one behind the other, cover a name just if it splits
into what the first and what the second covers. A pattern without wildcards covers itself only, a
question mark each name of one character, and a star every name. So a pattern covers a name just if the
name is one piece after another, one for each character of the pattern, which stands for it; and the
pattern backwards covers the name backwards just if it covers it forwards. -/
theorem covers_compositional (front back name : String) :
    (covers (front ++ back) name = true ↔
        ∃ left right, name = left ++ right ∧ covers front left = true ∧ covers back right = true) ∧
      (hasWildcard front = false → (covers front name = true ↔ name = front)) ∧
      (covers "?" name = true ↔ name.length = 1) ∧
      covers "*" name = true ∧
      (covers front name = true ↔
        ∃ pieces, name.toList = pieces.flatten ∧ List.Forall₂ StandsFor front.toList pieces) ∧
      covers (backwards front) (backwards name) = covers front name := by
  refine ⟨?_, fun hplain => covers_iff_eq hplain name, ?_, ?_, ?_, ?_⟩
  · unfold covers
    rw [String.toList_append, matchChars_append]
    constructor
    · rintro ⟨left, right, hname, hleft, hright⟩
      refine ⟨.ofList left, .ofList right, ?_, ?_, ?_⟩
      · rw [← String.toList_inj, String.toList_append, String.toList_ofList, String.toList_ofList, hname]
      · rwa [String.toList_ofList]
      · rwa [String.toList_ofList]
    · rintro ⟨left, right, rfl, hleft, hright⟩
      exact ⟨left.toList, right.toList, String.toList_append, hleft, hright⟩
  · show matchChars ['?'] name.toList = true ↔ _
    rw [matchChars_iff_pieces, ← String.length_toList]
    constructor
    · rintro ⟨pieces, hname, hpieces⟩
      obtain ⟨piece, rest, hmark, hrest, rfl⟩ := List.forall₂_cons_left_iff.mp hpieces
      rw [List.forall₂_nil_left_iff.mp hrest, List.flatten_singleton] at hname
      rw [hname]
      exact hmark
    · intro h
      exact ⟨[name.toList], List.flatten_singleton.symm, .cons h .nil⟩
  · show matchChars ['*'] name.toList = true
    refine (matchChars_iff_pieces _ _).mpr ⟨[name.toList], List.flatten_singleton.symm, ?_⟩
    exact .cons (standsFor_star _) .nil
  · exact matchChars_iff_pieces front.toList name.toList
  · unfold covers backwards
    rw [String.toList_ofList, String.toList_ofList, matchChars_reverse]

/-- A pattern cut inside a run of stars, and a plain one. -/
theorem stars_cut_and_plain_name :
    (covers ("a*" ++ "*?c") "abbc" = true ↔
        ∃ left right, "abbc" = left ++ right ∧ covers "a*" left = true ∧
          covers "*?c" right = true) ∧
      hasWildcard "cpu.0" = false ∧ (covers "cpu.0" "cpu.00" = true ↔ "cpu.00" = "cpu.0") :=
  ⟨(covers_compositional "a*" "*?c" "abbc").1, by decide,
    (covers_compositional "cpu.0" "*" "cpu.00").2.1 (by decide)⟩

/-- A name can be cut for a pattern in more than one way; one is enough. -/
example : covers "a*b?*" "abbbc" = true ∧ covers "*?b*a" "cbbba" = true := by decide

end Cascade.Glob
