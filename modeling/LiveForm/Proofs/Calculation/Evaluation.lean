import LiveForm.Proofs.Calculation.Parsing
import LiveForm.Proofs.Calculation.Substitution
import LiveForm.Proofs.Decimal.Reading
import LiveForm.Proofs.Double
import LiveForm.Proofs.Json.Sameness

/-!
# Values of calculations

A number is put into an expression as a text that reads back as the number, in parentheses if it is
negative. So the text that comes out keeps the structure of the expression, and reading it gives the
value that the expression has with the numbers of the fields.
-/

namespace LiveForm.Calculation

/-- The number that an id stands for in an expression, where zero has no sign. -/
def readNumber (data : FormData) (id : String) : Float :=
  if numberOf data id == 0.0 then 0.0 else numberOf data id

/-- Reading any value as a number gives a finite one. -/
theorem isFinite_numberOf (data : FormData) (id : String) : (numberOf data id).isFinite := by
  have hzero : (0.0 : Float).isFinite := rfl
  have hone : (1.0 : Float).isFinite := rfl
  have hfilter (x : Option Float) : ((x.filter Float.isFinite).getD 0.0).isFinite := by
    cases h : x.filter Float.isFinite with
    | none => exact hzero
    | some y => exact (Option.filter_eq_some_iff.mp h).2
  unfold numberOf Json.asNumber
  split
  · exact hone
  · unfold Json.number?
    split <;> exact hfilter _
  · exact hzero

/-- The digits of a natural number are a literal. -/
theorem literal_toDigits (n : Nat) : Literal (Nat.toDigits 10 n) (Decimal.nearest n 0) := by
  have h := Literal.whole (Decimal.all_isDigit_toDigits n) Nat.toDigits_ne_nil
  rwa [Decimal.ofDigits_toDigits] at h

/-- The whole part of a size without a fraction reads back as the size. -/
theorem nearest_toUInt64 {x : Float} (hlt : x.abs < Json.exactIntegers)
    (h : x.abs.toUInt64.toFloat == x.abs) : Decimal.nearest x.abs.toUInt64.toNat 0 = x.abs := by
  have hbound := Double.toUInt64_toNat_lt hlt
  have hsize := Double.toUInt64_toFloat h
  generalize x.abs.toUInt64 = size at *
  rw [← hsize]
  unfold Decimal.nearest
  by_cases hzero : size.toNat = 0
  · have hsize : size = 0 := UInt64.toNat_inj.mp hzero
    rw [hsize]
    rfl
  · have hlog : Nat.log2 size.toNat < 53 := (Nat.log2_lt hzero).mpr hbound
    have hlow : ¬ 400 < (Nat.log2 size.toNat : Int) * 30103 / 100000 + 0 := by omega
    have hhigh : ¬ (Nat.log2 size.toNat : Int) * 30103 / 100000 + 0 < -400 := by omega
    have hofNat : size.toNat.toUInt64 = size := UInt64.ofNat_toNat
    simp only [hzero, hlow, hhigh, ↓reduceIte, Int.le_refl, Int.toNat_zero]
    rw [Double.ofScientific_eq hbound, hofNat]

/-- A literal with a minus sign, in parentheses, is a primary of two levels. -/
theorem Phrase.ofNegativeLiteral {names : List Char → Float → Prop} {s : List Char} {x : Float}
    (h : Literal s x) : Phrase names .primary 2 ('(' :: '-' :: s ++ [')']) (-x) :=
  .parentheses (.ofProduct (.ofFactor (.minus (.ofPower (.ofPrimary (.number h))))))

/-- Numbers are shown plainly: one that is not negative as a literal that reads back as the number,
and a negative one with a minus sign before what is shown for the number without it. -/
def Shows (x : Float) : Prop :=
  if x < 0.0 then
    Decimal.plainLayout.render x = "-" ++ Decimal.plainLayout.render (-x) ∧
      Literal (Decimal.plainLayout.render (-x)).toList (-x)
  else Literal (Decimal.plainLayout.render x).toList x

/-- A number without a whole part of its own size is not zero. -/
theorem beq_zero_of_wholeNumber?_eq_none {x : Float} (h : Json.wholeNumber? x = none) :
    (x == 0.0) = false := by
  obtain ⟨hzero, hminus⟩ := Json.not_zero_of_wholeNumber?_eq_none h
  rw [← Bool.not_eq_true]
  intro hbeq
  rcases Json.eq_or_zeros_of_beq hbeq with heq | ⟨heq, -⟩ | ⟨heq, -⟩
  · exact hzero heq
  · exact hzero heq
  · exact hminus heq

/-- A whole number is written in its digits, with a minus sign if it is negative, and its size reads
back from them. -/
theorem wholeNumber?_eq_some {x : Float} {k : Int} (h : Json.wholeNumber? x = some k) :
    ∃ n : Nat, Decimal.nearest n 0 = x.abs ∧ k = if x < 0.0 then -(n : Int) else n := by
  unfold Json.wholeNumber? at h
  split at h
  case isFalse => cases h
  case isTrue hlt =>
    dsimp only at h
    split at h
    case isFalse => cases h
    case isTrue heq =>
      refine ⟨x.abs.toUInt64.toNat, nearest_toUInt64 hlt heq, ?_⟩
      rw [Option.some_inj] at h
      exact h.symm

/-- The text of a negative integer. -/
theorem toString_neg {n : Nat} (hn : n ≠ 0) : toString (-(n : Int)) = "-" ++ Nat.repr n := by
  obtain ⟨m, rfl⟩ := Nat.exists_eq_succ_of_ne_zero hn
  rfl

/-- A number that is not whole is put in as it is shown, and stands for itself. -/
theorem arithmetic_insertedText_of_shows {x : Float} (hwhole : Json.wholeNumber? x = none)
    (hshows : Shows x) :
    Arithmetic .primary 2 (insertedText x).toList (if x == 0.0 then 0.0 else x) := by
  have htext : Json.numberText x = Decimal.plainLayout.render x := by
    rw [Json.numberText, hwhole]
  rw [insertedText, htext, beq_zero_of_wholeNumber?_eq_none hwhole]
  unfold Shows at hshows
  by_cases hneg : x < 0.0
  · rw [if_pos hneg] at hshows ⊢
    obtain ⟨hrender, hliteral⟩ := hshows
    have h : Arithmetic .primary 2 _ _ := .ofNegativeLiteral hliteral
    rw [Double.neg_neg] at h
    rw [hrender]
    simpa using h
  · rw [if_neg hneg] at hshows ⊢
    exact .number hshows

/-- A whole number is put in with its digits, and stands for itself, but for the sign of zero. -/
theorem arithmetic_insertedText_of_whole {x : Float} {k : Int} (hfinite : x.isFinite)
    (hwhole : Json.wholeNumber? x = some k) :
    Arithmetic .primary 2 (insertedText x).toList (if x == 0.0 then 0.0 else x) := by
  obtain ⟨n, hn, rfl⟩ := wholeNumber?_eq_some hwhole
  have hliteral := literal_toDigits n
  rw [hn] at hliteral
  have htext : Json.numberText x = toString (if x < 0.0 then -(n : Int) else n) := by
    rw [Json.numberText, hwhole]
  rw [insertedText, htext]
  by_cases hneg : x < 0.0
  · have hne : n ≠ 0 := by
      rintro rfl
      rw [← Double.neg_abs_of_lt_zero hneg, ← hn] at hneg
      have hzero : decide (-Decimal.nearest 0 0 < 0.0) = false := rfl
      exact absurd hneg (of_decide_eq_false hzero)
    have h : Arithmetic .primary 2 _ _ := .ofNegativeLiteral hliteral
    rw [Double.neg_abs_of_lt_zero hneg] at h
    rw [if_pos hneg, if_pos hneg, toString_neg hne, Double.beq_zero_of_lt_zero hneg]
    simpa using h
  · rw [if_neg hneg, if_neg hneg, ← Double.abs_of_not_lt_zero hneg hfinite]
    have hrepr : (toString (n : Int)).toList = Nat.toDigits 10 n := Nat.toList_repr
    rw [hrepr]
    exact .number hliteral

/-- A number that is put in for an id stands for itself, but for the sign of zero. -/
theorem arithmetic_insertedText {x : Float} (hfinite : x.isFinite)
    (hshown : Json.wholeNumber? x = none → Shows x) :
    Arithmetic .primary 2 (insertedText x).toList (if x == 0.0 then 0.0 else x) := by
  cases hwhole : Json.wholeNumber? x with
  | none => exact arithmetic_insertedText_of_shows hwhole (hshown hwhole)
  | some k => exact arithmetic_insertedText_of_whole hfinite hwhole

/-- Characters that are safe start no names. -/
theorem isPlain_of_isSafeChar {c : Char} (h : isSafeChar c) : isPlain c := by
  rw [isSafeChar, Bool.or_eq_true, Bool.or_eq_true] at h
  rcases h with (hdigit | hblank) | hoperator
  · simp [isPlain, hdigit]
  · simp [isPlain, Text.not_isWord_of_isBlank hblank]
  · have hmem : c ∈ ['+', '-', '*', '/', '(', ')', '.'] := List.contains_iff_mem.mp hoperator
    simp only [List.mem_cons, List.not_mem_nil, or_false] at hmem
    rcases hmem with rfl | rfl | rfl | rfl | rfl | rfl | rfl <;> decide

/-- Arithmetic of numbers starts no names. -/
theorem isPlain_of_arithmetic {part : Part} {n : Nat} {s : List Char} {x : Float}
    (h : Arithmetic part n s x) : s.all isPlain := by
  have hsafe := List.all_eq_true.mp h.isSafe.2
  exact List.all_eq_true.mpr fun c hc => isPlain_of_isSafeChar (hsafe c hc)

/-- The names of an expression over some ids: every id that is not empty, with the number of its
field. -/
def fieldNames (ids : List String) (data : FormData) (v : List Char) (x : Float) : Prop :=
  v ≠ [] ∧ String.ofList v ∈ ids ∧ x = readNumber data (String.ofList v)

/-- An expression of the grammar over ids that are words has the value that the grammar gives it, if
that is finite. Two of the levels are kept for the parentheses and the sign of a negative number.
Numbers that are not whole have to be shown plainly. -/
theorem evaluate_phrase {ids : List String} (hids : ∀ id ∈ ids, isWordId id) {data : FormData}
    (hshown : ∀ id ∈ ids, Json.wholeNumber? (numberOf data id) = none → Shows (numberOf data id))
    {expression : String} {x : Float}
    (h : Phrase (fieldNames ids data) .sum 62 expression.toList x) :
    (evaluate expression ids data).value = if x.isFinite then some x else none := by
  have hnames : ∀ v y, fieldNames ids data v y → IsName v := by
    rintro v y ⟨hne, hmem, -⟩
    have hname := isName_of_isWordId (hids _ hmem) (by simpa using hne)
    rwa [String.toList_ofList] at hname
  have hinserted : ∀ id ∈ ids, Arithmetic .primary 2 (insertedText (numberOf data id)).toList
      (readNumber data id) := fun id hid =>
    arithmetic_insertedText (isFinite_numberOf data id) (hshown id hid)
  have hplain : ∀ id ∈ ids, (insertedFor data id.toList).all isPlain := by
    intro id hid
    rw [insertedFor, String.ofList_toList]
    exact isPlain_of_arithmetic (hinserted id hid)
  obtain ⟨ps, hps, hput⟩ := h.pieces hnames
  have hsum : Arithmetic .sum maxLevels (spell (insertedFor data) ps) x := by
    refine hput (insertedFor data) ?_
    rintro v y ⟨-, hmem, rfl⟩
    exact hinserted _ hmem
  have hsubstitute : substitute expression ids data =
      String.ofList (spell (insertedFor data) ps) := by
    rw [← String.ofList_toList (s := expression), ← hps.spelled]
    refine substitute_spell hids hplain hps.wellSpaced fun v hv => ?_
    obtain ⟨y, -, hmem, -⟩ := hps.named v hv
    exact hmem
  have hsafe : isSafe (String.ofList (spell (insertedFor data) ps)) = true := by
    obtain ⟨hne, hall⟩ := hsum.isSafe
    simp [isSafe, hne, hall]
  unfold evaluate
  dsimp only
  rw [hsubstitute, if_pos hsafe, String.toList_ofList, arithmetic?_eq hsum]
  cases (if x.isFinite then some x else none) <;> rfl

/-- A product of a negative number that is not whole and a signed whole number. -/
theorem evaluate_phrase_rebate :
    let ids := ["rebate", "qty"]
    let data : FormData := .ofList [("rebate", .float (-2.5)), ("qty", .int 3)]
    let x : Float := -2.5 * -3.0
    (∀ id ∈ ids, isWordId id) ∧
      (∀ id ∈ ids, Json.wholeNumber? (numberOf data id) = none → Shows (numberOf data id)) ∧
      Phrase (fieldNames ids data) .sum 62 "rebate * -qty".toList x ∧
      (evaluate "rebate * -qty" ids data).value = if x.isFinite then some x else none := by
  intro ids data x
  have hrebate : numberOf data "rebate" = -2.5 := by decide +kernel
  have hqty : Json.wholeNumber? (numberOf data "qty") = some 3 := by decide +kernel
  have hids : ∀ id ∈ ids, isWordId id := by decide +kernel
  have hshown : ∀ id ∈ ids, Json.wholeNumber? (numberOf data id) = none →
      Shows (numberOf data id) := by
    intro id hid hnone
    rcases List.mem_pair.mp hid with rfl | rfl
    · have hliteral : Literal "2.5".toList (- -2.5) := by
        have h := @Literal.fraction ['2'] ['5'] rfl rfl (by simp)
        have hvalue : Decimal.nearest (Decimal.ofDigits (['2'] ++ ['5'])) (-(['5'].length : Int)) =
          - -2.5 := by decide +kernel
        rw [hvalue] at h
        exact h
      have hrender : Decimal.plainLayout.render (- -2.5) = "2.5" := by decide +kernel
      have hrender' : Decimal.plainLayout.render (-2.5) = "-2.5" := by decide +kernel
      rw [hrebate, Shows, if_pos (by decide +kernel), hrender, hrender']
      exact ⟨rfl, hliteral⟩
    · rw [hqty] at hnone
      cases hnone
  have hphrase : Phrase (fieldNames ids data) .sum 62 "rebate * -qty".toList x := by
    have hleft : Phrase (fieldNames ids data) .primary 62 "rebate".toList (-2.5) :=
      .name ⟨by decide, by decide, by decide +kernel⟩
    have hright : Phrase (fieldNames ids data) .primary 61 "qty".toList 3.0 :=
      .name ⟨by decide, by decide, by decide +kernel⟩
    exact .ofProduct (.multiply (.ofFactor (.ofPower (.ofPrimary (.blankAfter (by decide) hleft))))
      (.blankBefore (by decide) (.minus (.ofPower (.ofPrimary hright)))))
  exact ⟨hids, hshown, hphrase, evaluate_phrase hids hshown hphrase⟩

end LiveForm.Calculation
