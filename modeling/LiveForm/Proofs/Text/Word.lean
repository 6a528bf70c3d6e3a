import LiveForm.Text.Blank
import LiveForm.Text.Word

/-!
# Words and blanks

No blank belongs to a word, so a blank next to a word ends it.
-/

namespace LiveForm.Text

/-- The rows of a table are read off its characters. -/
theorem rows_ofList (table : List Char) : rows (String.ofList table) = rowsFrom [] table := by
  rw [rows, String.toList_ofList]

set_option maxRecDepth 100000 in
/-- The blanks beyond ASCII are not in the table of word characters. -/
theorem not_inSpans_wordSpans : ∀ n ∈ List.range' 0x2000 11 ++
    [0x85, 0xA0, 0x1680, 0x2028, 0x2029, 0x202F, 0x205F, 0x3000], inSpans wordSpans n = false := by
  unfold wordSpans spans
  -- the table is taken apart once, as a list of characters, and not for each code point
  rw [rows_ofList]
  decide +kernel

/-- The blanks in ASCII are no letters, digits or underscores. -/
theorem not_isAsciiWord : ∀ n ∈ 0x20 :: List.range' 9 5, isAsciiWord (Char.ofNat n) = false := by
  decide

/-- A blank belongs to no word. -/
theorem not_isWord_of_isBlank {c : Char} (h : isBlank c) : isWord c = false := by
  simp only [isBlank, Bool.or_eq_true, Bool.and_eq_true, decide_eq_true_eq, beq_iff_eq] at h
  unfold isWord
  split
  case isTrue hascii =>
    rw [← Char.ofNat_toNat c]
    refine not_isAsciiWord c.toNat ?_
    simp only [List.mem_cons, List.mem_range'_1]
    omega
  case isFalse hascii =>
    refine not_inSpans_wordSpans c.toNat ?_
    simp only [List.mem_append, List.mem_range'_1, List.mem_cons, List.not_mem_nil]
    omega

end LiveForm.Text
