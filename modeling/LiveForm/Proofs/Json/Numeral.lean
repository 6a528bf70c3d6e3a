import LiveForm.Json.Reader
import LiveForm.Proofs.Decimal.Reading
import LiveForm.Proofs.Json.Compact

/-!
# Numbers read back

A number in the middle of a text is read like the number alone, as long as a comma or a closing
bracket follows. Every integer that takes 64 bits is read back from its text. Of floats this cannot
be said, as the reader rounds more than once.
-/

namespace LiveForm.Json

open Decimal (isDigit)

/-- A text goes on after a value: with a comma, with a closing bracket, or not at all. -/
def EndsValue (s : List Char) : Prop := s.head?.all fun c => c == ',' || c == ']' || c == '}'

/-- A comma or a closing bracket is no digit, point or exponent mark. -/
theorem EndsValue.cases {s : List Char} (h : EndsValue s) :
    s = [] ∨ ∃ c r, s = c :: r ∧ isDigit c = false ∧ c ≠ '.' ∧ c ≠ 'e' ∧ c ≠ 'E' := by
  cases s with
  | nil => exact .inl rfl
  | cons c r =>
    simp only [EndsValue, List.head?_cons, Option.all_some, Bool.or_eq_true, beq_iff_eq] at h
    refine .inr ⟨c, r, rfl, ?_⟩
    rcases h with (rfl | rfl) | rfl <;> decide

variable {rest : List Char}

/-- Digits are read up to the end of the value. -/
theorem digitsOf_append (hrest : EndsValue rest) (s : List Char) :
    digitsOf (s ++ rest) = ((digitsOf s).1, (digitsOf s).2 ++ rest) := by
  have hend : digitsOf rest = ([], rest) := by
    rcases hrest.cases with rfl | ⟨c, r, rfl, hc, -⟩
    · rfl
    · simp [digitsOf, hc]
  induction s with
  | nil => exact hend
  | cons c s ih =>
    rw [digitsOf, Prod.mk.injEq] at ih
    by_cases hc : isDigit c
    · simp [digitsOf, hc, ih.1, ih.2]
    · simp [digitsOf, hc]

/-- The sign at the start of an exponent, and what follows it. -/
def signOf : List Char → Bool × List Char
  | '-' :: t => (true, t)
  | '+' :: t => (false, t)
  | t => (false, t)

/-- A sign is read before digits, whatever follows them. -/
theorem signOf_append {s : List Char} (hs : s ≠ []) (rest : List Char) :
    signOf (s ++ rest) = ((signOf s).1, (signOf s).2 ++ rest) := by
  obtain ⟨c, s, rfl⟩ := List.exists_cons_of_ne_nil hs
  unfold signOf
  split <;> simp_all

/-- An exponent is a mark, a sign and digits. -/
theorem exponentOf_mark {c : Char} (hc : c = 'e' ∨ c = 'E') (s : List Char) :
    exponentOf (c :: s) =
      let (minus, r) := signOf s
      let (digits, rest) := digitsOf r
      if digits.isEmpty then none
      else
        some (some (if minus then -(Decimal.ofDigits digits : Int) else Decimal.ofDigits digits),
          rest) := by
  rw [exponentOf.eq_def]
  simp only [if_pos hc]
  unfold signOf
  split <;> simp only

/-- An exponent is read up to the end of the value. -/
theorem exponentOf_append (hrest : EndsValue rest) {s : List Char} {exponent : Option Int}
    (h : exponentOf s = some (exponent, [])) :
    exponentOf (s ++ rest) = some (exponent, rest) := by
  cases s with
  | nil =>
    cases h
    rcases hrest.cases with rfl | ⟨c, r, rfl, -, -, he, hE⟩
    · rfl
    · simp [exponentOf, he, hE]
  | cons c s =>
    by_cases hc : c = 'e' ∨ c = 'E'
    · have hs : s ≠ [] := by
        rintro rfl
        rw [exponentOf_mark hc] at h
        cases h
      rw [exponentOf_mark hc] at h
      rw [List.cons_append, exponentOf_mark hc, signOf_append hs]
      simp only [digitsOf_append hrest] at h ⊢
      split at h
      case isTrue => cases h
      case isFalse hdigits =>
        rw [Option.some_inj, Prod.mk.injEq] at h
        rw [if_neg hdigits, h.1, h.2, List.nil_append]
    · simp [exponentOf, hc] at h

/-- The minus sign at the start of a literal, and what follows it. -/
def minusOf : List Char → Bool × List Char
  | '-' :: r => (true, r)
  | r => (false, r)

/-- The digits after a point, if one follows. -/
def fractionOf : List Char → Bool × List Char × List Char
  | '.' :: r => (true, digitsOf r)
  | r => (false, [], r)

/-- A literal is a sign, digits, digits after a point, and an exponent. -/
theorem literalOf_eq (s : List Char) :
    literalOf s =
      let (negative, s) := minusOf s
      let (whole, rest) := digitsOf s
      if whole.isEmpty || (whole.head? == some '0' && decide (1 < whole.length)) then none
      else
        let (point, fraction, rest) := fractionOf rest
        if point && fraction.isEmpty then none
        else
          (exponentOf rest).map fun (exponent, rest) =>
            (⟨negative, whole, fraction, exponent⟩, rest) :=
  rfl

/-- A minus sign is read before digits, whatever follows them. -/
theorem minusOf_append {s : List Char} (hs : s ≠ []) (rest : List Char) :
    minusOf (s ++ rest) = ((minusOf s).1, (minusOf s).2 ++ rest) := by
  obtain ⟨c, s, rfl⟩ := List.exists_cons_of_ne_nil hs
  unfold minusOf
  split <;> simp_all

/-- The digits after a point are read up to the end of the value. -/
theorem fractionOf_append (hrest : EndsValue rest) (s : List Char) :
    fractionOf (s ++ rest) =
      ((fractionOf s).1, (fractionOf s).2.1, (fractionOf s).2.2 ++ rest) := by
  cases s with
  | nil =>
    rcases hrest.cases with rfl | ⟨c, r, rfl, -, hpoint, -⟩
    · rfl
    · simp [fractionOf, hpoint]
  | cons c s =>
    by_cases hc : c = '.'
    · subst hc
      simp [fractionOf, digitsOf_append hrest]
    · simp [fractionOf, hc]

/-- A literal is read up to the end of the value. -/
theorem literalOf_append (hrest : EndsValue rest) {s : List Char} {l : Literal}
    (h : literalOf s = some (l, [])) : literalOf (s ++ rest) = some (l, rest) := by
  have hs : s ≠ [] := by
    rintro rfl
    cases h
  rw [literalOf_eq] at h
  rw [literalOf_eq, minusOf_append hs]
  simp only [digitsOf_append hrest, fractionOf_append hrest] at h ⊢
  split at h
  case isTrue => cases h
  case isFalse hwhole =>
    rw [if_neg hwhole]
    split at h
    case isTrue => cases h
    case isFalse hfraction =>
      rw [if_neg hfraction]
      obtain ⟨⟨exponent, r⟩, hexponent, heq⟩ := Option.map_eq_some_iff.mp h
      rw [Prod.mk.injEq] at heq
      obtain ⟨rfl, rfl⟩ := heq
      rw [exponentOf_append hrest hexponent]
      rfl

/-- What follows an exponent is the end of the text. -/
theorem suffix_of_exponentOf {s r : List Char} {exponent : Option Int}
    (h : exponentOf s = some (exponent, r)) : r <:+ s := by
  cases s with
  | nil =>
    cases h
    exact List.suffix_rfl
  | cons c s =>
    by_cases hc : c = 'e' ∨ c = 'E'
    · have hsign : (signOf s).2 <:+ s := by
        unfold signOf
        split
        · exact List.suffix_cons _ _
        · exact List.suffix_cons _ _
        · exact List.suffix_rfl
      rw [exponentOf_mark hc] at h
      dsimp only at h
      split at h
      case isTrue => cases h
      case isFalse =>
        cases h
        exact ((List.dropWhile_suffix _).trans hsign).trans (List.suffix_cons _ _)
    · simp only [exponentOf, hc, if_false, Option.some_inj, Prod.mk.injEq] at h
      rw [← h.2]

/-- What follows a literal is the end of the text. -/
theorem suffix_of_literalOf {s r : List Char} {l : Literal} (h : literalOf s = some (l, r)) :
    r <:+ s := by
  have hminus : (minusOf s).2 <:+ s := by
    unfold minusOf
    split
    · exact List.suffix_cons _ _
    · exact List.suffix_rfl
  have hfraction (t : List Char) : (fractionOf t).2.2 <:+ t := by
    unfold fractionOf
    split
    · exact (List.dropWhile_suffix _).trans (List.suffix_cons _ _)
    · exact List.suffix_rfl
  rw [literalOf_eq] at h
  dsimp only at h
  split at h
  case isTrue => cases h
  case isFalse =>
    split at h
    case isTrue => cases h
    case isFalse =>
      obtain ⟨⟨exponent, r'⟩, hexponent, heq⟩ := Option.map_eq_some_iff.mp h
      rw [Prod.mk.injEq] at heq
      rw [← heq.2]
      exact (((suffix_of_exponentOf hexponent).trans (hfraction _)).trans
        (List.dropWhile_suffix _)).trans hminus

/-- A number is read from its text alone. -/
def IsLegible (v : Json) : Prop :=
  ∃ l, literalOf v.compactChars = some (l, []) ∧ l.value? = some v

/-- Digits, after a minus sign or not, are a literal. -/
theorem literalOf_toDigits {s : List Char} {negative : Bool} {n : Nat}
    (h : minusOf s = (negative, Nat.toDigits 10 n)) :
    literalOf s = some (⟨negative, Nat.toDigits 10 n, [], none⟩, []) := by
  obtain ⟨hdigits, hend⟩ := takeWhile_run [] (Decimal.all_isDigit_toDigits n) rfl
  rw [List.append_nil] at hdigits hend
  have hne : (Nat.toDigits 10 n).isEmpty = false := by
    rw [List.isEmpty_eq_false_iff]
    exact Nat.toDigits_ne_nil
  have hzero : ((Nat.toDigits 10 n).head? == some '0' &&
      decide (1 < (Nat.toDigits 10 n).length)) = false := by
    by_cases hn : n = 0
    · rw [hn]
      decide
    · have hhead : ((Nat.toDigits 10 n).head? == some '0') = false :=
        beq_eq_false_iff_ne.mpr (Decimal.head?_toDigits hn)
      rw [hhead, Bool.false_and]
  rw [literalOf_eq, h]
  simp only [digitsOf, hdigits, hend, hne, hzero, fractionOf, exponentOf]
  rfl

/-- Digits do not start with a minus sign. -/
theorem minusOf_toDigits (n : Nat) :
    minusOf (Nat.toDigits 10 n) = (false, Nat.toDigits 10 n) := by
  unfold minusOf
  split
  case h_1 r hdigits =>
    have hall := Decimal.all_isDigit_toDigits n
    rw [hdigits] at hall
    cases hall
  case h_2 => rfl

/-- An integer that takes 64 bits is read from its text. -/
theorem isLegible_int {n : Int} (hlow : -2 ^ 63 ≤ n) (hhigh : n < 2 ^ 64) :
    IsLegible (.int n) := by
  have hchars : (Json.int n).compactChars = (toString n).toList := rfl
  rw [IsLegible, hchars, Int.toString_eq_repr, Int.repr_eq_if]
  split
  case isTrue h =>
    have hbound : n.toNat ≤ maxSignificand := by
      rw [maxSignificand, UInt64.size]
      omega
    refine ⟨⟨false, Nat.toDigits 10 n.toNat, [], none⟩, ?_, ?_⟩
    · rw [Nat.toList_repr]
      exact literalOf_toDigits (minusOf_toDigits n.toNat)
    · simp [Literal.value?, Literal.isWhole, Decimal.ofDigits_toDigits, hbound, h]
  case isFalse h =>
    have hpositive : 0 < (-n).toNat := by omega
    have hbound : (-n).toNat ≤ UInt64.size / 2 := by
      rw [UInt64.size]
      omega
    have hvalue : -((-n).toNat : Int) = n := by omega
    refine ⟨⟨true, Nat.toDigits 10 (-n).toNat, [], none⟩, ?_, ?_⟩
    · rw [String.toList_append, Nat.toList_repr]
      exact literalOf_toDigits rfl
    · simp only [Literal.value?, Literal.isWhole, Decimal.ofDigits_toDigits, List.isEmpty_nil,
        Option.isNone_none, Bool.and_self, Bool.not_true, Bool.and_false, Bool.false_and,
        Bool.false_eq_true, if_false, Bool.true_and]
      simp only [hpositive, hbound, decide_true, Bool.and_self, if_true, hvalue]

end LiveForm.Json
