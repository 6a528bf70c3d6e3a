import LiveForm.Proofs.Calculation.Dependence
import LiveForm.Proofs.Decimal.Layout

/-!
# What the guard refuses

Every text falls into words and characters between them. Putting in values replaces words that are
ids by safe text and copies everything else. So whether something unsafe is left in an expression
depends on the expression and on the ids, and an expression that is refused for some data is refused
for all data.
-/

namespace LiveForm.Calculation

/-! ### The pieces of any text -/

/-- A text that is a word or empty is in pieces. -/
theorem exists_pieces_of_all_isWord {v : List Char} (h : v.all Text.isWord) :
    ∃ ps, WellSpaced ps ∧ spell (fun v => v) ps = v := by
  by_cases hnil : v = []
  · exact ⟨[], .nil, hnil.symm⟩
  · exact ⟨[.name v], .ofWord ⟨h, hnil⟩, by simp⟩

/-- Every text is in pieces: its words, and the characters between them. -/
theorem exists_pieces (s : List Char) : ∃ ps, WellSpaced ps ∧ spell (fun v => v) ps = s := by
  induction hlength : s.length using Nat.strong_induction_on generalizing s with
  | h n ih =>
    have hword : (s.takeWhile Text.isWord).all Text.isWord :=
      List.all_eq_true.mpr fun d hd => List.mem_takeWhile_imp hd
    obtain ⟨ps, hps, hspell⟩ := exists_pieces_of_all_isWord hword
    have hsplit : s.takeWhile Text.isWord ++ s.dropWhile Text.isWord = s :=
      List.takeWhile_append_dropWhile
    cases hrest : s.dropWhile Text.isWord with
    | nil =>
      refine ⟨ps, hps, ?_⟩
      rw [hrest, List.append_nil] at hsplit
      rw [hspell, hsplit]
    | cons c r =>
      have hc : Text.isWord c = false := by
        have h := List.head?_dropWhile_not Text.isWord s
        rw [hrest] at h
        simpa using h
      rw [hrest] at hsplit
      have hshorter : r.length < n := by
        rw [← hlength, ← hsplit, List.length_append, List.length_cons]
        omega
      obtain ⟨qs, hqs, hspell'⟩ := ih r.length hshorter r rfl
      refine ⟨ps ++ .char c :: qs, hps.join hqs hc, ?_⟩
      rw [spell_append, spell_char, hspell, hspell', hsplit]

/-! ### Safe pieces -/

/-- A number is put in as text that is not empty. -/
theorem insertedText_ne_nil {x : Float} (h : x.isFinite) : (insertedText x).toList ≠ [] := by
  have htext : (Json.numberText x).toList ≠ [] := by
    unfold Json.numberText
    split
    · exact (Decimal.isNumeral_toString _).1
    · exact (Decimal.isNumeral_render Decimal.plainLayout h).1
  unfold insertedText
  split
  · simp
  · exact htext

/-- Whether a piece is safe when the values of some ids have been put in. -/
def Piece.isSafe (ids : List String) : Piece → Bool
  | .char c => isSafeChar c
  | .name v => ids.contains (String.ofList v) || v.all isSafeChar

/-- A word that the value of its id has been put in for, if it is an id, is not empty, and is safe
just if the piece is. -/
theorem textAfter_insertedFor {ids : List String} {data : FormData} {v : List Char}
    (hv : IsWholeWord v) :
    textAfter (insertedFor data) ids v ≠ [] ∧
      (textAfter (insertedFor data) ids v).all isSafeChar = Piece.isSafe ids (.name v) := by
  simp only [textAfter, Piece.isSafe]
  by_cases hmem : String.ofList v ∈ ids
  · have hfinite := isFinite_numberOf data (String.ofList v)
    have hcontains : ids.contains (String.ofList v) = true := List.contains_iff_mem.mpr hmem
    rw [if_pos hmem, hcontains, Bool.true_or]
    exact ⟨insertedText_ne_nil hfinite, isSafeChar_insertedText hfinite⟩
  · have hcontains : ids.contains (String.ofList v) = false := by simpa using hmem
    rw [if_neg hmem, hcontains, Bool.false_or]
    exact ⟨hv.ne_nil, rfl⟩

/-- Whether a text is safe with the values of ids put in can be told from its pieces. -/
theorem isSafe_substitute_spell {ids : List String} (hids : ∀ id ∈ ids, isWordId id)
    (data : FormData) {ps : List Piece} (hps : WellSpaced ps) :
    isSafe (substitute (String.ofList (spell (fun v => v) ps)) ids data) =
      (!ps.isEmpty && ps.all (Piece.isSafe ids)) := by
  have hplain : ∀ id ∈ ids, (insertedFor data id.toList).all isPlain := fun _ _ =>
    isPlain_insertedText (isFinite_numberOf data _)
  have hall : (spell (textAfter (insertedFor data) ids) ps).all isSafeChar =
      ps.all (Piece.isSafe ids) := by
    rw [spell, List.all_flatMap, Bool.eq_iff_iff, List.all_eq_true, List.all_eq_true]
    refine forall₂_congr fun p hp => ?_
    cases p with
    | char c => simp [Piece.isSafe]
    | name v => rw [(textAfter_insertedFor (hps.names v hp)).2]
  have hempty : (spell (textAfter (insertedFor data) ids) ps).isEmpty = ps.isEmpty := by
    cases ps with
    | nil => rfl
    | cons p ps =>
      cases p with
      | char c => rfl
      | name v =>
        have hne : textAfter (insertedFor data) ids v ≠ [] :=
          (textAfter_insertedFor (hps.names v List.mem_cons_self)).1
        simp [hne]
  have hofList (s : List Char) : (String.ofList s).isEmpty = s.isEmpty := by
    cases s with
    | nil => rfl
    | cons c s =>
      rw [Bool.eq_iff_iff]
      simp
  rw [substitute_pieces hids hplain hps, isSafe, String.toList_ofList, hall, ← hempty, hofList]

/-- Whether an expression is refused does not depend on the data. -/
theorem isSafe_substitute_congr {ids : List String} (hids : ∀ id ∈ ids, isWordId id)
    (expression : String) (data data' : FormData) :
    isSafe (substitute expression ids data) = isSafe (substitute expression ids data') := by
  obtain ⟨ps, hps, hspell⟩ := exists_pieces expression.toList
  have hexpression : expression = String.ofList (spell (fun v => v) ps) := by
    rw [hspell, String.ofList_toList]
  rw [hexpression, isSafe_substitute_spell hids data hps, isSafe_substitute_spell hids data' hps]

/-- An expression that is refused has no value. -/
theorem evaluate_of_not_isSafe {expression : String} {ids : List String} {data : FormData}
    (h : isSafe (substitute expression ids data) = false) :
    (evaluate expression ids data).value = none := by
  rw [evaluate]
  simp [h]

/-! ### Unknown names -/

/-- A letter belongs to words and is no digit. -/
theorem not_isPlain_of_isAlpha {c : Char} (h : c.isAlpha) : isPlain c = false := by
  have hrange : 65 ≤ c.val.toNat ∧ c.val.toNat ≤ 122 := by
    simp only [Char.isAlpha, Char.isUpper, Char.isLower, Bool.or_eq_true, Bool.and_eq_true,
      decide_eq_true_eq, UInt32.le_iff_toNat_le, ge_iff_le] at h
    simp only [Char.reduceVal, UInt32.reduceToNat] at h
    omega
  have hword : Text.isWord c := by
    have hascii : c.toNat < 0x80 := by
      rw [Char.toNat]
      omega
    rw [Text.isWord, if_pos hascii, Text.isAsciiWord, Char.isAlphanum, h]
    rfl
  have hdigit : Decimal.isDigit c = false := by
    have hnot : ¬ c ≤ '9' := by
      rw [Char.le_def, UInt32.le_iff_toNat_le]
      change ¬ c.val.toNat ≤ 57
      omega
    simp [Decimal.isDigit, hnot]
  simp [isPlain, hword, hdigit]

/-- Names start with none of the safe characters. -/
theorem not_startsName_of_isSafeChar {c : Char} (h : isSafeChar c) : startsName c = false := by
  rw [← Bool.not_eq_true]
  intro hstarts
  rw [startsName, Bool.or_eq_true, Bool.or_eq_true, beq_iff_eq, beq_iff_eq] at hstarts
  rcases hstarts with (halpha | rfl) | rfl
  · have hplain := isPlain_of_isSafeChar h
    rw [not_isPlain_of_isAlpha halpha] at hplain
    cases hplain
  · exact absurd h (by decide)
  · exact absurd h (by decide)

/-- A safe text has no names in it. -/
theorem namesFrom_of_isSafeChar {s : List Char} (h : s.all isSafeChar) : namesFrom [] s = [] := by
  induction s with
  | nil => rfl
  | cons c s ih =>
    rw [List.all_cons, Bool.and_eq_true] at h
    simp [namesFrom, not_startsName_of_isSafeChar h.1, ih h.2]

/-- An expression that names something unknown is refused. -/
theorem not_isSafe_of_unknownNames {expression : String} {ids : List String}
    (h : unknownNames expression ids ≠ []) : isSafe (substitute expression ids ∅) = false := by
  rw [← Bool.not_eq_true]
  intro hsafe
  rw [isSafe, Bool.and_eq_true] at hsafe
  rw [unknownNames, namesFrom_of_isSafeChar hsafe.2] at h
  exact h rfl

end LiveForm.Calculation
