import Cascade.Text.Lines
import Cascade.Line

/-!
# Lines of bytes and lines of text

Rule files are cut into lines as texts, the input as bytes of which each line is decoded by itself.
For the bytes of a text the two come to the same, because only a line feed is encoded with the byte of
a line feed. So lines may be written one after the other, each with a line feed, and cut again: the
lines are the same up to a carriage return at their end, and that belongs to the blanks which are
trimmed before a line is looked at.

§1 encoding; §2 cutting bytes as characters are cut; §3 lines written one after the other; §4 what is
left of a line.
-/

namespace Cascade

namespace Text

/-! ## §1 Encoding -/

/-- The bytes of characters. -/
def encode (cs : List Char) : List UInt8 := cs.flatMap String.utf8EncodeChar

theorem encode_nil : encode [] = [] := rfl

theorem encode_append (cs ds : List Char) : encode (cs ++ ds) = encode cs ++ encode ds :=
  List.flatMap_append

theorem encode_singleton (c : Char) : encode [c] = String.utf8EncodeChar c :=
  List.flatMap_singleton _ _

theorem toUTF8_data (text : String) : text.toUTF8.data.toList = encode text.toList := by
  conv => lhs; rw [← String.ofList_toList (s := text)]
  exact List.toList_data_toByteArray

theorem fromUTF8?_encode (cs : List Char) :
    String.fromUTF8? ⟨(encode cs).toArray⟩ = some (String.ofList cs) := by
  have hbytes : (⟨(encode cs).toArray⟩ : ByteArray) = cs.utf8Encode :=
    ByteArray.ext (Array.toList_inj.mp List.toList_data_toByteArray.symm)
  rw [hbytes, String.fromUTF8?, dif_pos ⟨cs, rfl⟩]
  rfl

/-- **Only a line feed has the byte of a line feed**: the bytes of longer characters are 128 or more. -/
theorem ne_of_mem_utf8EncodeChar {c : Char} (hc : c ≠ '\n') {b : UInt8}
    (hb : b ∈ String.utf8EncodeChar c) : b ≠ 10 := by
  have hval : c.val.toNat ≠ 10 := fun h => hc (Char.ext (UInt32.toNat_inj.mp h))
  have hbyte : b.toNat ≠ 10 := by
    unfold String.utf8EncodeChar at hb
    dsimp only at hb
    split at hb
    · obtain rfl := List.mem_singleton.mp hb
      simp only [UInt8.toNat_ofNat']
      omega
    · repeat' split at hb
      all_goals
        simp only [List.mem_cons, List.not_mem_nil, or_false] at hb
        rcases hb with rfl | rfl | rfl | rfl <;> simp only [UInt8.toNat_ofNat'] <;> omega
  rintro rfl
  exact hbyte rfl

theorem utf8EncodeChar_ne_nil (c : Char) : String.utf8EncodeChar c ≠ [] := by
  unfold String.utf8EncodeChar
  dsimp only
  repeat' split
  all_goals exact List.cons_ne_nil _ _

/-! ## §2 Cutting bytes -/

/-- Bytes among which there is no line feed are put to the current line. -/
theorem cutBytes_append {bs : List UInt8} (hbs : bs ≠ []) (h : ∀ b ∈ bs, b ≠ 10)
    (acc rest : List UInt8) (begun : Bool) :
    cutBytes acc begun (bs ++ rest) = cutBytes (bs.reverse ++ acc) true rest := by
  induction bs generalizing acc begun with
  | nil => exact absurd rfl hbs
  | cons b bs ih =>
    obtain ⟨hb, hmore⟩ := List.forall_mem_cons.mp h
    rw [List.cons_append, cutBytes, if_neg (by simpa using hb), List.reverse_cons,
      List.append_assoc]
    cases bs with
    | nil => rfl
    | cons b' bs => exact ih (List.cons_ne_nil _ _) hmore (b :: acc) true

theorem decodeLine_encode (cs : List Char) (ended : Bool) :
    decodeLine (encode cs) ended = some (String.ofList (if ended then dropReturn cs else cs)) := by
  rw [decodeLine, fromUTF8?_encode, Option.map_some, String.toList_ofList]
  cases ended <;> rfl

/-- **The bytes of characters are cut where the characters are.** -/
theorem cutBytes_encode (cs acc : List Char) (begun : Bool) :
    (cutBytes (encode acc.reverse).reverse begun (encode cs)).map (fun p => decodeLine p.1 p.2) =
      (cutLines acc begun cs).map (some ∘ String.ofList) := by
  induction cs generalizing acc begun with
  | nil =>
    rw [encode_nil, cutBytes, cutLines]
    cases begun with
    | false => rfl
    | true => simp [decodeLine_encode]
  | cons c cs ih =>
    rw [← List.singleton_append, encode_append, encode_singleton]
    by_cases hc : c = '\n'
    · subst hc
      have hrest := ih [] false
      rw [List.reverse_nil, encode_nil, List.reverse_nil] at hrest
      show (cutBytes _ begun (10 :: encode cs)).map _ = (cutLines acc begun ('\n' :: cs)).map _
      rw [cutBytes, if_pos (by rfl), cutLines, List.map_cons, List.map_cons, hrest,
        List.reverse_reverse, decodeLine_encode]
      rfl
    · have hcut : cutLines acc begun ([c] ++ cs) = cutLines (c :: acc) true cs := by
        rw [List.singleton_append, cutLines]
        exact hc
      rw [cutBytes_append (utf8EncodeChar_ne_nil c) fun b hb => ne_of_mem_utf8EncodeChar hc hb,
        hcut, ← ih (c :: acc) true, List.reverse_cons, encode_append, List.reverse_append,
        encode_singleton]

/-- **The lines of the bytes of a text are the lines of the text**, all of them decoded. -/
theorem byteLines_toUTF8 (text : String) : byteLines text.toUTF8 = (lines text).map some := by
  rw [byteLines, toUTF8_data, lines, List.map_map]
  exact cutBytes_encode text.toList [] false

/-! ## §3 Lines written one after the other -/

/-- Characters up to a line feed are one line, together with what there is of it. -/
theorem cutLines_append {s : List Char} (hs : '\n' ∉ s) (acc rest : List Char) (begun : Bool) :
    cutLines acc begun (s ++ '\n' :: rest) =
      dropReturn (acc.reverse ++ s) :: cutLines [] false rest := by
  induction s generalizing acc begun with
  | nil => rw [List.nil_append, cutLines, List.append_nil]
  | cons c s ih =>
    obtain ⟨hc, hrest⟩ := not_or.mp (mt List.mem_cons.mpr hs)
    rw [List.cons_append, cutLines, ih hrest, List.reverse_cons, List.append_assoc]
    · rfl
    · exact Ne.symm hc

/-- No line has a line feed in it. -/
theorem not_mem_cutLines {cs acc : List Char} (hacc : '\n' ∉ acc) (begun : Bool) {line : List Char}
    (h : line ∈ cutLines acc begun cs) : '\n' ∉ line := by
  induction cs generalizing acc begun with
  | nil =>
    rw [cutLines] at h
    cases begun with
    | false => cases h
    | true =>
      rw [List.mem_singleton.mp h]
      simpa using hacc
  | cons c cs ih =>
    by_cases hc : c = '\n'
    · subst hc
      rw [cutLines] at h
      rcases List.mem_cons.mp h with rfl | h
      · unfold dropReturn
        split
        · next heq =>
          rw [List.reverse_reverse] at heq
          intro hmem
          exact hacc (heq ▸ List.mem_cons_of_mem _ (List.mem_reverse.mp hmem))
        · simpa using hacc
      · exact ih List.not_mem_nil false h
    · rw [cutLines] at h
      · exact ih (by simpa using ⟨Ne.symm hc, hacc⟩) true h
      · exact hc

theorem not_mem_lines {text line : String} (h : line ∈ lines text) : '\n' ∉ line.toList := by
  obtain ⟨cs, hcs, rfl⟩ := List.mem_map.mp h
  rw [String.toList_ofList]
  exact not_mem_cutLines List.not_mem_nil false hcs

/-- **Lines written one after the other**, each closed by a line feed. -/
def unlines (ls : List String) : String := String.ofList (ls.flatMap fun l => l.toList ++ ['\n'])

/-- They are cut again where they were put together; a carriage return at the end of one is lost. -/
theorem lines_unlines {ls : List String} (h : ∀ l ∈ ls, '\n' ∉ l.toList) :
    lines (unlines ls) = ls.map fun l => String.ofList (dropReturn l.toList) := by
  rw [lines, unlines, String.toList_ofList]
  induction ls with
  | nil => rfl
  | cons l ls ih =>
    obtain ⟨hl, hrest⟩ := List.forall_mem_cons.mp h
    rw [List.flatMap_cons, List.append_assoc, List.singleton_append, cutLines_append hl,
      List.map_cons, ih hrest]
    rfl

/-! ## §4 What is left of a line -/

open Unicode (isBlank)

/-- A blank behind a text is trimmed. -/
theorem trim_append_blank {c : Char} (hc : isBlank c = true) (s : List Char) :
    trim (s ++ [c]) = trim s := by
  rw [trim, trim, trimStart, trimStart, List.dropWhile_append]
  split
  · next hblank =>
    rw [List.isEmpty_iff.mp hblank, List.dropWhile_cons, if_pos hc]
    rfl
  · rw [trimEnd, trimEnd, List.reverse_append, List.reverse_singleton, List.singleton_append,
      List.dropWhile_cons, if_pos hc]

/-- A carriage return at the end of a line is no part of its content: it is a blank, or behind the
comment. -/
theorem clean_dropReturn (line : List Char) : clean (dropReturn line) = clean line := by
  unfold dropReturn
  split
  · next rest heq =>
    obtain rfl : line = rest.reverse ++ ['\r'] := by
      rw [← List.reverse_reverse line, heq, List.reverse_cons]
    rw [clean, clean, List.takeWhile_append]
    split
    · next hall =>
      rw [List.takeWhile_cons, if_pos (by decide), List.takeWhile_nil,
        trim_append_blank (by decide), (List.takeWhile_prefix _).eq_of_length hall]
    · rfl
  · rfl

end Text

theorem Line.content_dropReturn (l : String) :
    content (String.ofList (Text.dropReturn l.toList)) = content l := by
  rw [content, String.toList_ofList, Text.clean_dropReturn, ← content]

end Cascade
