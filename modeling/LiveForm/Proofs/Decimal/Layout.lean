import LiveForm.Decimal.Layout
import LiveForm.Decimal.Reading
import LiveForm.Proofs.Double
import LiveForm.Text.Blank

/-!
# Characters of numbers

Every number, whole or with a fraction, is written with a few characters only, and with at least
one. A text that goes on with another character shows where the number ends.
-/

namespace LiveForm

/-- A run of characters that pass a test ends where another character follows. -/
theorem takeWhile_run {p : Char → Bool} {run : List Char} (rest : List Char) (hrun : run.all p)
    (hrest : rest.head?.any p = false) :
    (run ++ rest).takeWhile p = run ∧ (run ++ rest).dropWhile p = rest := by
  have hall := List.all_eq_true.mp hrun
  have hhead : rest.takeWhile p = [] ∧ rest.dropWhile p = rest := by
    cases rest with
    | nil => exact ⟨rfl, rfl⟩
    | cons c rest =>
      have hc : p c = false := hrest
      simp [hc]
  rw [List.takeWhile_append_of_pos hall, List.dropWhile_append_of_pos hall, hhead.1, hhead.2,
    List.append_nil]
  exact ⟨rfl, rfl⟩

namespace Decimal

/-- The digits of a number are digits. -/
theorem all_isDigit_toDigits (n : Nat) : (Nat.toDigits 10 n).all isDigit := by
  refine List.all_eq_true.mpr fun c hc => ?_
  have h := Nat.isDigit_of_mem_toDigits (by decide) (by decide) hc
  exact h

/-- The digits stand next to each other. -/
theorem isDigit_iff {c : Char} : isDigit c ↔ 48 ≤ c.toNat ∧ c.toNat ≤ 57 := by
  simp only [isDigit, Bool.and_eq_true, decide_eq_true_eq, Char.le_def, UInt32.le_iff_toNat_le]
  rfl

/-- Blanks are no digits. -/
theorem not_isDigit_of_isBlank {c : Char} (h : Text.isBlank c) : isDigit c = false := by
  rw [← Bool.not_eq_true, isDigit_iff]
  simp only [Text.isBlank, Bool.or_eq_true, Bool.and_eq_true, decide_eq_true_eq, beq_iff_eq] at h
  omega

/-- The characters that numbers are written with. -/
def isNumeral (c : Char) : Bool := isDigit c || c == '-' || c == '+' || c == '.' || c == 'e'

/-- A text is made of the characters of numbers, and is not empty. -/
def IsNumeral (s : List Char) : Prop := s ≠ [] ∧ ∀ c ∈ s, isNumeral c

/-- Digits are characters of numbers. -/
theorem isNumeral_of_mem_digitChars {n : Nat} {c : Char} (h : c ∈ digitChars n) :
    isNumeral c := by
  have hdigit := List.all_eq_true.mp (all_isDigit_toDigits n) c h
  simp [isNumeral, hdigit]

/-- The digits of a number are a text of a number. -/
theorem isNumeral_digitChars (n : Nat) : IsNumeral (digitChars n) :=
  ⟨Nat.toDigits_ne_nil, fun _ => isNumeral_of_mem_digitChars⟩

/-- A sign may stand before the text of a number. -/
theorem IsNumeral.cons {c : Char} {s : List Char} (hc : isNumeral c) (hs : IsNumeral s) :
    IsNumeral (c :: s) := by
  refine ⟨List.cons_ne_nil c s, fun d hd => ?_⟩
  rcases List.mem_cons.mp hd with rfl | hd
  · exact hc
  · exact hs.2 d hd

/-- More characters of numbers may stand after the text of a number. -/
theorem IsNumeral.append {s t : List Char} (hs : IsNumeral s) (ht : ∀ c ∈ t, isNumeral c) :
    IsNumeral (s ++ t) := by
  refine ⟨by simp [hs.1], fun c hc => ?_⟩
  rcases List.mem_append.mp hc with hc | hc
  · exact hs.2 c hc
  · exact ht c hc

/-- Digits around a point are the text of a number. -/
theorem isNumeral_positional (d : Digits) : IsNumeral d.positional := by
  unfold Digits.positional
  simp only
  split
  · refine (isNumeral_digitChars _).append fun c hc => ?_
    rw [List.eq_of_mem_replicate hc]
    rfl
  · generalize hpadded : List.replicate _ '0' ++ digitChars d.coefficient = padded
    have hall : ∀ c ∈ padded, isNumeral c := by
      intro c hc
      rw [← hpadded, List.mem_append] at hc
      rcases hc with hc | hc
      · rw [List.eq_of_mem_replicate hc]
        rfl
      · exact isNumeral_of_mem_digitChars hc
    refine ⟨by simp, fun c hc => ?_⟩
    rcases List.mem_append.mp hc with hc | hc
    · exact hall c (List.mem_of_mem_take hc)
    · rcases List.mem_cons.mp hc with rfl | hc
      · rfl
      · exact hall c (List.mem_of_mem_drop hc)

/-- Digits with an exponent are the text of a number. -/
theorem isNumeral_scientific (d : Digits) : IsNumeral d.scientific := by
  have hdigits := isNumeral_digitChars d.coefficient
  unfold Digits.scientific
  simp only
  refine ((IsNumeral.append ⟨?_, ?_⟩ ?_).append ?_)
  · simpa using hdigits.1
  · intro c hc
    exact hdigits.2 c (List.mem_of_mem_take hc)
  · intro c hc
    split at hc
    · simp at hc
    · rcases List.mem_cons.mp hc with rfl | hc
      · rfl
      · exact hdigits.2 c (List.mem_of_mem_drop hc)
  · intro c hc
    simp only [List.mem_cons] at hc
    rcases hc with rfl | rfl | hc
    · rfl
    · split <;> rfl
    · exact isNumeral_of_mem_digitChars hc

/-- A finite double is written with characters of numbers. -/
theorem isNumeral_render (layout : Layout) {x : Float} (h : x.isFinite) :
    IsNumeral (layout.render x).toList := by
  have hsize : IsNumeral (layout.size x) := by
    unfold Layout.size
    extract_lets d fits
    split
    · refine (isNumeral_positional _).append fun c hc => ?_
      split at hc <;> simp only [List.mem_cons, List.not_mem_nil, or_false] at hc
      rcases hc with rfl | rfl <;> rfl
    · exact isNumeral_scientific _
  rw [Layout.render, Double.isNaN_of_isFinite h, if_neg Bool.false_ne_true,
    Double.isInf_of_isFinite h]
  simp only [Bool.false_eq_true, if_false, String.toList_ofList]
  split
  · exact hsize.cons rfl
  · exact hsize

/-- An integer is written with characters of numbers. -/
theorem isNumeral_toString (n : Int) : IsNumeral (toString n).toList := by
  rw [Int.toString_eq_repr, Int.repr_eq_if]
  split
  · rw [Nat.toList_repr]
    exact isNumeral_digitChars _
  · rw [String.toList_append, Nat.toList_repr]
    exact (isNumeral_digitChars _).cons rfl

end Decimal

end LiveForm
