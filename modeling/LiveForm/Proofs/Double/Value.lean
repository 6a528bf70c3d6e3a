import LiveForm.Proofs.Double

/-!
# The number that a double is

A finite double is a rational number, and two finite doubles are equal just if they are the same
one: apart from zero, the sign, the significand and the exponent are determined by it. Every integer
up to `2 ^ 53` is the number that some double is, and the double made of an integer is that one if
there is one.
-/

namespace LiveForm.Double

open Float.Model Float.Model.UnpackedFloat

/-- The number that the parts of a double stand for. What is not finite counts as zero. -/
def partsValue : UnpackedFloat → ℚ
  | .finite s m e _ => (s.apply m : ℤ) * 2 ^ e
  | _ => 0

/-- The number that a double is. -/
def value (x : Float) : ℚ := partsValue (parts x)

section

variable {m m' : ℕ} {e e' : ℤ}

/-- Of two significands and exponents in bounds, the one for the same number has no larger
exponent. -/
theorem IsCanonical.exponent_le (h : IsCanonical m e) (h' : IsCanonical m' e')
    (heq : (m : ℚ) * 2 ^ e = m' * 2 ^ e') : e' ≤ e := by
  by_contra hlt
  -- otherwise the larger exponent is that of a normal number, which leaves `m` out of bounds
  obtain ⟨hbound, hlow, -⟩ := h
  obtain ⟨-, -, hnormal⟩ := h'
  obtain ⟨k, hk⟩ : ∃ k : ℕ, e' = e + (k + 1 : ℕ) := ⟨(e' - e - 1).toNat, by omega⟩
  rw [hk, zpow_add₀ two_ne_zero, zpow_natCast, mul_comm (2 ^ e), ← mul_assoc] at heq
  have hm : m = m' * 2 ^ (k + 1) := by
    exact_mod_cast mul_right_cancel₀ (zpow_ne_zero e two_ne_zero) heq
  have hpow : 2 ^ 1 ≤ 2 ^ (k + 1) := Nat.pow_le_pow_right (by decide) (by omega)
  have := Nat.mul_le_mul_left m' hpow
  omega

/-- The number determines the significand and the exponent. -/
theorem IsCanonical.unique (h : IsCanonical m e) (h' : IsCanonical m' e')
    (heq : (m : ℚ) * 2 ^ e = m' * 2 ^ e') : m = m' ∧ e = e' := by
  have he : e = e' := le_antisymm (h'.exponent_le h heq.symm) (h.exponent_le h' heq)
  subst he
  exact ⟨by exact_mod_cast mul_right_cancel₀ (zpow_ne_zero e two_ne_zero) heq, rfl⟩

/-- A significand and an exponent stand for a positive number. -/
theorem mul_zpow_pos (hm : 0 < m) : 0 < (m : ℚ) * 2 ^ e :=
  mul_pos (by exact_mod_cast hm) (zpow_pos two_pos e)

/-- Parts other than zero stand for the same number just if sign, significand and exponent are
equal. -/
theorem partsValue_finite_eq_iff {s s' : Sign} {hm : 0 < m} {hm' : 0 < m'}
    (h : IsCanonical m e) (h' : IsCanonical m' e') :
    partsValue (.finite s m e hm) = partsValue (.finite s' m' e' hm') ↔
      s = s' ∧ m = m' ∧ e = e' := by
  constructor
  · intro heq
    have hpos : 0 < (m : ℚ) * 2 ^ e := mul_zpow_pos hm
    have hpos' : 0 < (m' : ℚ) * 2 ^ e' := mul_zpow_pos hm'
    cases s <;> cases s' <;> simp only [partsValue, Sign.apply, Int.cast_neg, Int.cast_natCast,
      neg_mul] at heq
    case negative.negative => exact ⟨rfl, h.unique h' (neg_inj.mp heq)⟩
    case positive.positive => exact ⟨rfl, h.unique h' heq⟩
    all_goals linarith
  · rintro ⟨rfl, rfl, rfl⟩
    rfl

/-- Parts other than zero do not stand for zero. -/
theorem partsValue_finite_ne_zero (s : Sign) (hm : 0 < m) :
    partsValue (.finite s m e hm) ≠ 0 := by
  have hpos : 0 < (m : ℚ) * 2 ^ e := mul_zpow_pos hm
  cases s <;> simp only [partsValue, Sign.apply, Int.cast_neg, Int.cast_natCast, neg_mul] <;>
    linarith

/-- Comparing parts other than zero finds them equal just if they are. -/
theorem compare_finite_eq_iff {s s' : Sign} {hm : 0 < m} {hm' : 0 < m'} :
    (finite s m e hm).compare (finite s' m' e' hm') = some .eq ↔ s = s' ∧ m = m' ∧ e = e' := by
  cases s <;> cases s' <;>
    simp [UnpackedFloat.compare, Ordering.then_eq_eq, Ordering.swap_eq_eq, and_comm]

end

/-- Finite doubles are equal just if they are the same number. -/
theorem beq_iff_value_eq {x y : Float} (hx : x.isFinite) (hy : y.isFinite) :
    x == y ↔ value x = value y := by
  have hfinite : (parts x).isFinite := hx
  have hfinite' : (parts y).isFinite := hy
  rw [beq_eq_compare, beq_iff_eq, value, value]
  cases hparts : parts x with
  | notANumber | infinity s =>
    rw [hparts] at hfinite
    cases hfinite
  | zero s =>
    cases hparts' : parts y with
    | notANumber | infinity t =>
      rw [hparts'] at hfinite'
      cases hfinite'
    | zero t => exact iff_of_true rfl rfl
    | finite t m e hm =>
      refine iff_of_false ?_ (partsValue_finite_ne_zero t hm).symm
      cases t <;> exact nofun
  | finite s m e hm =>
    cases hparts' : parts y with
    | notANumber | infinity t =>
      rw [hparts'] at hfinite'
      cases hfinite'
    | zero t =>
      refine iff_of_false ?_ (partsValue_finite_ne_zero s hm)
      cases s <;> exact nofun
    | finite t m' e' hm' =>
      rw [compare_finite_eq_iff,
        partsValue_finite_eq_iff (isCanonical_parts hparts) (isCanonical_parts hparts')]

/-- A double that is a number other than zero is finite. -/
theorem isFinite_of_value_ne_zero {x : Float} (h : value x ≠ 0) : x.isFinite := by
  change (parts x).isFinite
  rw [value] at h
  cases hparts : parts x with
  | notANumber | infinity s =>
    rw [hparts] at h
    exact absurd rfl h
  | zero s | finite s => rfl

/-! ### Integers -/

/-- A normal number is read back as it was packed. -/
theorem unpack_pack_normal (s : Sign) {m : ℕ} {e : ℤ} (hm : 0 < m) (hlow : 2 ^ 52 ≤ m)
    (hhigh : m < 2 ^ 53) (he : -1074 ≤ e) (he' : e ≤ 971) :
    UnpackedFloat.unpack .binary64 (UnpackedFloat.pack .binary64 (.finite s m e hm)) =
      .finite s m e hm := by
  have hlog : m.log2 = 52 := (Nat.log2_eq_iff hm.ne').mpr ⟨hlow, hhigh⟩
  have hbiased : e + Format.binary64.exponentBias + Format.binary64.mantissaBitsWithoutImplicit =
      e + 1075 := by
    rw [add_assoc]
    exact congrArg _ exponentBias_binary64
  have hexponent : (BitVec.ofNat 11 (e + 1075).toNat).toNat = (e + 1075).toNat := by
    rw [BitVec.toNat_ofNat, Nat.mod_eq_of_lt (by omega)]
  have hmin : BitVec.ofNat 11 (e + 1075).toNat ≠ 0#11 := by
    intro h
    have hzero := congrArg BitVec.toNat h
    rw [hexponent, BitVec.toNat_zero] at hzero
    omega
  have hmax : BitVec.ofNat 11 (e + 1075).toNat ≠ -1#11 := by
    intro h
    have hones := congrArg BitVec.toNat h
    rw [hexponent, show (-1#11).toNat = 2047 by decide] at hones
    omega
  have hmantissa : (1#1 ++ BitVec.ofNat 52 m).toNat = m := by
    rw [toNat_one_append, BitVec.toNat_ofNat]
    omega
  unfold UnpackedFloat.pack
  simp only [hlog, hbiased]
  rw [if_neg (by omega), if_pos (by decide)]
  unfold UnpackedFloat.unpack
  simp only [unpackExponent_packComponents, unpackMantissa_packComponents,
    unpackSign_packComponents, Sign.ofBitVec_toBitVec]
  rw [if_neg hmax, if_neg hmin, UnpackedFloat.finite.injEq]
  refine ⟨rfl, hmantissa, ?_⟩
  rw [exponentBias_binary64]
  omega

section

variable {n : ℕ}

/-- The leading bit of a small positive integer, moved to the highest place of a significand. -/
theorem shifted_bounds (hpos : 0 < n) (h : n < 2 ^ 53) :
    2 ^ 52 ≤ n * 2 ^ (52 - n.log2) ∧ n * 2 ^ (52 - n.log2) < 2 ^ 53 := by
  have hlog : n.log2 < 53 := (Nat.log2_lt hpos.ne').mpr h
  constructor
  · calc 2 ^ 52 = 2 ^ n.log2 * 2 ^ (52 - n.log2) := by rw [← pow_add]; congr 1; omega
      _ ≤ n * 2 ^ (52 - n.log2) := Nat.mul_le_mul_right _ (Nat.log2_self_le hpos.ne')
  · calc n * 2 ^ (52 - n.log2) < 2 ^ (n.log2 + 1) * 2 ^ (52 - n.log2) :=
          Nat.mul_lt_mul_of_pos_right Nat.lt_log2_self (by positivity)
      _ = 2 ^ 53 := by rw [← pow_add]; congr 1; omega

/-- A small positive integer has its bits as a significand. -/
theorem ofNat_eq (hpos : 0 < n) (h : n < 2 ^ 53) :
    UnpackedFloat.ofNat .binary64 n =
      .finite .positive (n * 2 ^ (52 - n.log2)) (-(52 - n.log2 : ℕ)) (by positivity) := by
  obtain ⟨hlow, hhigh⟩ := shifted_bounds hpos h
  have hgreater : compare (n : ℤ) 0 = .gt := by
    rw [Int.compare_eq_gt]
    omega
  have htarget : Format.binary64.targetExponent (totalExponent n 0) = -(52 - n.log2 : ℕ) := by
    have hlog : n.log2 < 53 := (Nat.log2_lt hpos.ne').mpr h
    rw [targetExponent_binary64]
    omega
  have hround := roundWithAccuracy_eq (m := n * 2 ^ (52 - n.log2)) (e := -(52 - n.log2 : ℕ))
    ⟨hhigh, by omega, .inr hlow⟩ (by positivity) .positive 0
  rw [pow_zero, Nat.mul_one, Nat.cast_zero, sub_zero] at hround
  rw [UnpackedFloat.ofNat, UnpackedFloat.ofInt, UnpackedFloat.normalize, hgreater]
  simp only [UnpackedFloat.round, Int.toNat_natCast, htarget, decreaseExponent, zero_sub,
    Int.neg_neg, Nat.shiftLeft_eq]
  exact hround

/-- A small natural number is the number that the double made of it is. -/
theorem value_ofNat (h : n ≤ 2 ^ 53) : value (Float.ofNat n) = n := by
  rcases Nat.eq_zero_or_pos n with rfl | hpos
  · exact Nat.cast_zero.symm
  rcases h.lt_or_eq with h | rfl
  · obtain ⟨hlow, hhigh⟩ := shifted_bounds hpos h
    have hlog : n.log2 < 53 := (Nat.log2_lt hpos.ne').mpr h
    have hofNat : Float.ofNat n = n.toUInt64.toFloat := ofScientific_eq h
    have hparts : parts n.toUInt64.toFloat = UnpackedFloat.unpack .binary64
        (UnpackedFloat.pack .binary64 (UnpackedFloat.ofNat .binary64 n.toUInt64.toNat)) := rfl
    rw [hofNat, value, hparts, UInt64.toNat_ofNat_of_lt' (Nat.lt_trans h (by decide)),
      ofNat_eq hpos h, unpack_pack_normal .positive _ hlow hhigh (by omega) (by omega)]
    rw [partsValue, Sign.apply, Int.cast_natCast, Nat.cast_mul, Nat.cast_pow, Nat.cast_ofNat,
      mul_assoc, ← zpow_natCast, ← zpow_add₀ two_ne_zero, add_neg_cancel, zpow_zero, Rat.mul_one]
  · have hparts : parts (Float.ofNat (2 ^ 53)) = .finite .positive (2 ^ 52) 1 (by decide) := rfl
    rw [value, hparts]
    norm_num [partsValue, Sign.apply]

end

/-- A negated double is the negated number. -/
theorem value_neg (x : Float) : value (-x) = -value x := by
  rw [value, value, parts_neg]
  cases parts x with
  | notANumber | infinity s | zero s => rfl
  | finite s m e =>
    cases s <;> simp [UnpackedFloat.neg, partsValue, Sign.apply]

/-- An integer up to `2 ^ 53` is the number that the double made of it is. -/
theorem value_ofInt_of_le {n : ℤ} (h : n.natAbs ≤ 2 ^ 53) : value (Float.ofInt n) = n := by
  cases n with
  | ofNat n => exact value_ofNat h
  | negSucc n =>
    have hneg : Float.ofInt (.negSucc n) = -Float.ofNat (n + 1) := rfl
    have hvalue : value (Float.ofNat (n + 1)) = (n + 1 : ℕ) := value_ofNat h
    rw [hneg, value_neg, hvalue, Int.cast_negSucc]

/-- The parts of a double that is a large natural number: its significand is followed by zeros. -/
theorem parts_of_value_eq {x : Float} {n : ℕ} (h : value x = n) (hn : 2 ^ 53 < n) :
    ∃ (m k : ℕ) (hm : 0 < m),
      parts x = .finite .positive m k hm ∧ IsCanonical m k ∧ n = m * 2 ^ k := by
  have hpos : (0 : ℚ) < n := by exact_mod_cast (by omega : 0 < n)
  rw [value] at h
  cases hparts : parts x with
  | notANumber | infinity s | zero s =>
    rw [hparts] at h
    exact absurd h hpos.ne
  | finite s m e hm =>
    have hcanonical := isCanonical_parts hparts
    rw [hparts] at h
    cases s with
    | negative =>
      have hsize := mul_zpow_pos (e := e) hm
      simp only [partsValue, Sign.apply, Int.cast_neg, Int.cast_natCast, neg_mul] at h
      linarith
    | positive =>
      simp only [partsValue, Sign.apply, Int.cast_natCast] at h
      rcases e with k | k
      · refine ⟨m, k, hm, rfl, hcanonical, ?_⟩
        rw [Int.ofNat_eq_natCast, zpow_natCast] at h
        exact_mod_cast h.symm
      · -- with a fraction the number would be below the significand
        have hle : (m : ℚ) * 2 ^ Int.negSucc k ≤ m * 1 := by
          gcongr
          exact zpow_le_one_of_nonpos₀ one_le_two (Int.negSucc_lt_zero k).le
        rw [h, Rat.mul_one, Nat.cast_le] at hle
        have := hcanonical.1
        omega

/-- The double made of a large natural number is the one that is this number. -/
theorem ofNat_eq_of_value_eq {x : Float} {n : ℕ} (h : value x = n) (hn : 2 ^ 53 < n) :
    Float.ofNat n = x := by
  obtain ⟨m, k, hm, hparts, hcanonical, rfl⟩ := parts_of_value_eq h hn
  have hofNat : Float.ofNat (m * 2 ^ k) =
      Float.ofModel (Float.Model.pack (UnpackedFloat.ofScientific .binary64 (m * 2 ^ k) 0)) := by
    change Float.ofScientific (m * 2 ^ k) false 0 = _
    rw [Float.ofScientific, dif_neg (by omega)]
    rfl
  have hround : UnpackedFloat.ofScientific .binary64 (m * 2 ^ k) 0 = parts x := by
    have hshifted : (m * 2 ^ k) <<< 53 * 1 = m * 2 ^ (k + 53) := by
      rw [Nat.mul_one, Nat.shiftLeft_eq, Nat.mul_assoc, ← Nat.pow_add]
    have hexponent : (-(53 : ℕ) + 0 : ℤ) = k - (k + 53 : ℕ) := by omega
    have hrange : ¬(0 : ℤ) < -(2 ^ Format.binary64.exponentBits + (m * 2 ^ k).log2) := by
      have : (0 : ℤ) < 2 ^ Format.binary64.exponentBits := by positivity
      omega
    rw [UnpackedFloat.ofScientific, dif_neg (by positivity), if_neg (by decide), if_neg hrange,
      if_pos le_rfl, hparts, ← roundWithAccuracy_eq hcanonical hm .positive (k + 53), ← hshifted,
      ← hexponent]
    rfl
  rw [hofNat, hround, ofModel_pack_parts]

/-- The double made of an integer is the one that is this number, if there is one. -/
theorem value_ofInt {x : Float} {n : ℤ} (h : value x = n) : value (Float.ofInt n) = n := by
  rcases Nat.lt_or_ge (2 ^ 53) n.natAbs with hlarge | hsmall
  · cases n with
    | ofNat n =>
      have hofInt : Float.ofInt (.ofNat n) = x := ofNat_eq_of_value_eq h hlarge
      rw [hofInt, h]
    | negSucc n =>
      have hneg : Float.ofInt (.negSucc n) = -Float.ofNat (n + 1) := rfl
      have hvalue : value (-x) = (n + 1 : ℕ) := by
        rw [value_neg, h, Int.cast_negSucc, Rat.neg_neg]
      rw [hneg, ofNat_eq_of_value_eq hvalue hlarge, value_neg, value_neg, h, Rat.neg_neg]
  · exact value_ofInt_of_le hsmall

end LiveForm.Double
