import LiveForm.Proofs.Text.Word
import LiveForm.Text.Lowercase
import Mathlib.Data.List.Infix

/-!
# The lower case of a part

All characters but one have a lower case of their own. A capital sigma looks at what stands around
it, and so the lower case of a part of a text is that of the part by itself just if each capital
sigma in it is at the end of a word in both.
-/

namespace LiveForm.Text

/-- A text occurs in another just if it is a part of it. -/
theorem occursIn_iff {needle s : List Char} : occursIn needle s ↔ needle <:+: s := by
  induction s with
  | nil => rw [occursIn, List.isEmpty_iff, List.infix_nil]
  | cons c r ih =>
    rw [occursIn, Bool.or_eq_true, ih, List.isPrefixOf_iff_prefix, List.infix_cons_iff]

/-- Whether a capital sigma between two texts is at the end of a word. The text before it comes in
reverse. -/
def endsWord (before after : List Char) : Bool := casedNext before && !casedNext after

/-- The lower case of a text between two others, the first of which comes in reverse. -/
def lowercaseBetween (before after : List Char) : List Char → List Char
  | [] => []
  | c :: r =>
    (if c = 'Σ' then [if endsWord before (r ++ after) then 'ς' else 'σ'] else lowercaseChar c) ++
      lowercaseBetween (c :: before) after r

/-- The lower case of a text is made of those of its parts, each between the others. -/
theorem lowercaseFrom_append (before s after : List Char) :
    lowercaseFrom before (s ++ after) =
      lowercaseBetween before after s ++ lowercaseFrom (s.reverse ++ before) after := by
  induction s generalizing before with
  | nil => rfl
  | cons c r ih =>
    rw [List.cons_append, lowercaseFrom, ih, lowercaseBetween, List.reverse_cons,
      List.append_assoc (r.reverse), List.singleton_append]
    split <;> simp [endsWord]

/-- The lower case of a text is that of the text between nothing. -/
theorem lowercase_eq (s : List Char) : lowercase s = lowercaseBetween [] [] s := by
  have h := lowercaseFrom_append [] s []
  rw [List.append_nil, lowercaseFrom, List.append_nil] at h
  exact h

/-- The two small sigmas are different. -/
theorem small_sigma_eq_iff {a b : Bool} :
    (if a then 'ς' else 'σ') = (if b then 'ς' else 'σ') ↔ a = b := by
  cases a <;> cases b <;> decide

/-- Each capital sigma of a text is at the end of a word in one place just if it is in another. -/
def SigmasAgree (before after before' after' s : List Char) : Prop :=
  ∀ left right, s = left ++ 'Σ' :: right →
    endsWord (left.reverse ++ before) (right ++ after) =
      endsWord (left.reverse ++ before') (right ++ after')

section

variable {before after before' after' : List Char}

/-- The capital sigmas of a text agree if its first character, should it be one, does, and those
after it. -/
theorem sigmasAgree_cons {c : Char} {r : List Char} :
    SigmasAgree before after before' after' (c :: r) ↔
      (c = 'Σ' → endsWord before (r ++ after) = endsWord before' (r ++ after')) ∧
        SigmasAgree (c :: before) after (c :: before') after' r := by
  constructor
  · intro h
    refine ⟨fun hc => h [] r (by rw [hc]; rfl), fun left right hr => ?_⟩
    simpa using h (c :: left) right (by rw [hr]; rfl)
  · rintro ⟨hfirst, hrest⟩ left right hs
    cases left with
    | nil =>
      rw [List.nil_append, List.cons.injEq] at hs
      obtain ⟨hc, rfl⟩ := hs
      exact hfirst hc
    | cons d left =>
      rw [List.cons_append, List.cons.injEq] at hs
      obtain ⟨rfl, hr⟩ := hs
      simpa using hrest left right hr

/-- A text has the same lower case in two places just if its capital sigmas agree. -/
theorem lowercaseBetween_eq_iff {s : List Char} :
    lowercaseBetween before after s = lowercaseBetween before' after' s ↔
      SigmasAgree before after before' after' s := by
  induction s generalizing before before' with
  | nil => exact iff_of_true rfl fun left right h => by simp at h
  | cons c r ih =>
    rw [sigmasAgree_cons, ← ih, lowercaseBetween, lowercaseBetween]
    by_cases hc : c = 'Σ'
    · rw [if_pos hc, if_pos hc, List.singleton_append, List.singleton_append, List.cons.injEq,
        small_sigma_eq_iff]
      exact and_congr_left fun _ => (imp_iff_right hc).symm
    · simp [hc]

end

/-- Without a capital sigma there is nothing to agree on. -/
theorem sigmasAgree_of_not_mem {s : List Char} (h : 'Σ' ∉ s) (before after before' after') :
    SigmasAgree before after before' after' s := by
  rintro left right rfl
  exact absurd (by simp) h

/-- The lower case of a part is found in the lower case of a text, if each capital sigma of the part
is at the end of a word in the text just if it is in the part by itself. -/
theorem lowercase_infix {front part back : List Char}
    (h : SigmasAgree front.reverse back [] [] part) :
    lowercase part <:+: lowercase (front ++ part ++ back) := by
  have hpart := lowercaseBetween_eq_iff.mpr h
  have hwhole : lowercase (front ++ part ++ back) =
      lowercaseBetween [] (part ++ back) front ++ lowercase part ++
        lowercaseFrom (part.reverse ++ front.reverse) back := by
    rw [lowercase, List.append_assoc, lowercaseFrom_append, List.append_nil, lowercaseFrom_append,
      hpart, ← lowercase_eq, List.append_assoc]
  rw [hwhole]
  exact List.infix_append _ _ _

/-! ### Greek capital letters -/

/-- The code points of the Greek capital letters without accents, the sigma among them. -/
def greekCapitals : List Nat := List.range' 0x391 17 ++ List.range' 0x3A3 9

set_option maxRecDepth 100000 in
/-- Greek capital letters have case. -/
theorem inSpans_casedSpans : ∀ n ∈ greekCapitals, inSpans casedSpans n := by
  unfold casedSpans spans
  rw [rows_ofList]
  decide +kernel

set_option maxRecDepth 100000 in
/-- Greek capital letters are not passed over. -/
theorem not_inSpans_caseIgnorableSpans :
    ∀ n ∈ greekCapitals, inSpans caseIgnorableSpans n = false := by
  unfold caseIgnorableSpans spans
  rw [rows_ofList]
  decide +kernel

set_option maxRecDepth 100000 in
/-- Greek capital letters are moved to the small ones. -/
theorem shifted?_lowercaseShifts :
    ∀ n ∈ greekCapitals, shifted? lowercaseShifts n = some (n + 0x20) := by
  unfold lowercaseShifts shifts
  rw [rows_ofList]
  decide +kernel

section

variable {c : Char}

/-- No Greek capital letter is in ASCII. -/
theorem le_of_mem_greekCapitals (h : c.toNat ∈ greekCapitals) : 0x80 ≤ c.toNat := by
  simp only [greekCapitals, List.mem_append, List.mem_range'_1] at h
  omega

/-- A Greek capital letter before others decides on the case of what follows. -/
theorem casedNext_cons (h : c.toNat ∈ greekCapitals) (r : List Char) : casedNext (c :: r) := by
  have hignorable : isCaseIgnorable c = false := not_inSpans_caseIgnorableSpans c.toNat h
  have hcased : isCased c := by
    rw [isCased, if_neg (by have := le_of_mem_greekCapitals h; omega)]
    exact inSpans_casedSpans c.toNat h
  rw [casedNext, List.dropWhile_cons_of_neg (by simp [hignorable])]
  exact hcased

/-- A Greek capital letter has the small one as its lower case. -/
theorem lowercaseChar_eq (h : c.toNat ∈ greekCapitals) :
    lowercaseChar c = [Char.ofNat (c.toNat + 0x20)] := by
  have hdotted : c ≠ 'İ' := by
    rintro rfl
    revert h
    decide
  rw [lowercaseChar, if_neg (by have := le_of_mem_greekCapitals h; omega), if_neg hdotted,
    shifted?_lowercaseShifts c.toNat h]

end

end LiveForm.Text
