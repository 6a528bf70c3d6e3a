import Mathlib

/-!
# Doubles

A double is a sign, a significand and an exponent, and two doubles with the same parts are the same.
Of its operations only negation, the absolute value, the order relative to zero and products with
one are needed here, and these read and change the parts in the obvious way.
-/

namespace LiveForm.Double

open Float.Model Float.Model.UnpackedFloat

/-- The parts of a double. -/
def parts (x : Float) : UnpackedFloat := x.toModel.unpack

/-- Doubles with the same parts are the same. -/
theorem parts_inj {x y : Float} (h : parts x = parts y) : x = y := by
  rw [← Float.toBits_inj, ← UInt64.toBitVec_inj]
  exact (unpack_inj_of_valid x.toModel.valid y.toModel.valid).mp h

/-- A double is made of its parts. -/
theorem ofModel_pack_parts (x : Float) : Float.ofModel (Float.Model.pack (parts x)) = x := by
  rw [← Float.toBits_inj, ← UInt64.toBitVec_inj]
  exact pack_unpack_of_valid x.toModel.valid

/-- Parts with another sign. -/
def withSign (s : Sign) : UnpackedFloat → UnpackedFloat
  | .notANumber => .notANumber
  | .infinity _ => .infinity s
  | .zero _ => .zero s
  | .finite _ m e hm => .finite s m e hm

/-- Reading packed components gives the sign back. -/
theorem unpack_packComponents (spec : Format) (s t : Sign) (exponent : BitVec spec.exponentBits)
    (mantissa : BitVec spec.mantissaBitsWithoutImplicit) :
    UnpackedFloat.unpack spec (packComponents spec t exponent mantissa) =
      withSign t (UnpackedFloat.unpack spec (packComponents spec s exponent mantissa)) := by
  unfold UnpackedFloat.unpack
  simp only [unpackExponent_packComponents, unpackMantissa_packComponents,
    unpackSign_packComponents, Sign.ofBitVec_toBitVec]
  split
  · split <;> rfl
  · split
    · split <;> rfl
    · rfl

/-- Changing the sign before packing changes the sign of what is read. -/
theorem unpack_pack_withSign (spec : Format) (s : Sign) (f : UnpackedFloat) :
    UnpackedFloat.unpack spec (UnpackedFloat.pack spec (withSign s f)) =
      withSign s (UnpackedFloat.unpack spec (UnpackedFloat.pack spec f)) := by
  cases f with
  | notANumber => simp [withSign, UnpackedFloat.pack]
  | infinity t => exact unpack_packComponents spec t s _ _
  | zero t => exact unpack_packComponents spec t s _ _
  | finite t m e hm =>
    unfold withSign UnpackedFloat.pack
    dsimp only
    split
    · exact unpack_packComponents spec t s _ _
    · split <;> exact unpack_packComponents spec t s _ _

/-- A double made of the parts of another with a sign has these parts. -/
theorem parts_ofModel_pack_withSign (s : Sign) (x : Float) :
    parts (Float.ofModel (Float.Model.pack (withSign s (parts x)))) = withSign s (parts x) := by
  have hx : UnpackedFloat.unpack Format.binary64 (UnpackedFloat.pack Format.binary64 (parts x)) =
      parts x := congrArg _ (pack_unpack_of_valid x.toModel.valid)
  have h := unpack_pack_withSign Format.binary64 s (parts x)
  rw [hx] at h
  exact h

/-- A finite double is a number. -/
theorem isNaN_of_isFinite {x : Float} (h : x.isFinite) : x.isNaN = false := by
  have hparts : (parts x).isFinite := h
  change (parts x).isNaN = false
  cases hx : parts x <;> simp_all [UnpackedFloat.isFinite, UnpackedFloat.isNaN]

/-- A finite double is no infinity. -/
theorem isInf_of_isFinite {x : Float} (h : x.isFinite) : x.isInf = false := by
  have hparts : (parts x).isFinite := h
  change (parts x).isInf = false
  cases hx : parts x <;> simp_all [UnpackedFloat.isFinite, UnpackedFloat.isInf]

/-- The parts of a negated double. -/
@[simp] theorem parts_neg (x : Float) : parts (-x) = (parts x).neg := by
  have hneg : ∃ s, (parts x).neg = withSign s (parts x) := by
    cases parts x with
    | notANumber => exact ⟨.positive, rfl⟩
    | infinity s | zero s | finite s => exact ⟨-s, rfl⟩
  obtain ⟨s, hs⟩ := hneg
  rw [hs, ← parts_ofModel_pack_withSign s x, ← hs]
  rfl

/-- The parts of an absolute value. -/
@[simp] theorem parts_abs (x : Float) : parts x.abs = (parts x).abs := by
  have habs : (parts x).abs = withSign .positive (parts x) := by
    cases parts x <;> rfl
  rw [habs, ← parts_ofModel_pack_withSign .positive x, ← habs]
  rfl

/-- Negating twice gives the number back. -/
theorem neg_neg (x : Float) : - -x = x := by
  apply parts_inj
  rw [parts_neg, parts_neg]
  cases parts x with
  | notANumber => rfl
  | infinity s | zero s | finite s => cases s <;> rfl

@[simp] theorem parts_zero : parts 0.0 = .zero .positive := rfl

/-- Comparing doubles compares their parts. -/
theorem lt_iff {x y : Float} : x < y ↔ (parts x).compare (parts y) = some .lt := by
  have hdecide : x < y ↔ decide (x.toModel < y.toModel) = true := Iff.rfl
  have hlt : x.toModel < y.toModel ↔ ((parts x).compare (parts y) == some .lt) = true := Iff.rfl
  rw [hdecide, decide_eq_true_iff, hlt, beq_iff_eq]

/-- Doubles are tested for equality by their parts. -/
theorem beq_eq_compare (x y : Float) : (x == y) = ((parts x).compare (parts y) == some .eq) := rfl

/-- Whether a number is negative, zero left out. -/
theorem lt_zero_iff {x : Float} : x < 0.0 ↔ (parts x).compare (.zero .positive) = some .lt := by
  rw [lt_iff, parts_zero]

/-- A negative number is not zero. -/
theorem beq_zero_of_lt_zero {x : Float} (h : x < 0.0) : (x == 0.0) = false := by
  rw [beq_eq_compare, parts_zero, lt_zero_iff.mp h]
  rfl

/-- A negative number is its size with a minus sign. -/
theorem neg_abs_of_lt_zero {x : Float} (h : x < 0.0) : -x.abs = x := by
  apply parts_inj
  rw [parts_neg, parts_abs]
  rw [lt_zero_iff] at h
  cases hx : parts x with
  | notANumber => rfl
  | infinity s | zero s | finite s =>
    rw [hx] at h
    cases s with
    | negative => rfl
    | positive => cases h

/-- A number that is not negative is its own size, but for the sign of zero. -/
theorem abs_of_not_lt_zero {x : Float} (h : ¬x < 0.0) (hfinite : x.isFinite) :
    x.abs = if x == 0.0 then 0.0 else x := by
  have hparts : (parts x).isFinite := hfinite
  rw [lt_zero_iff] at h
  rw [beq_eq_compare, parts_zero]
  apply parts_inj
  rw [parts_abs]
  cases hx : parts x with
  | notANumber | infinity s =>
    rw [hx] at hparts
    cases hparts
  | zero s => exact parts_zero.symm
  | finite s =>
    rw [hx] at h
    cases s with
    | negative => exact absurd rfl h
    | positive => exact hx.symm

/-- The bounds that make a significand and an exponent those of a double. -/
def IsCanonical (m : Nat) (e : Int) : Prop :=
  m < 2 ^ 53 ∧ -1074 ≤ e ∧ (e = -1074 ∨ 2 ^ 52 ≤ m)

/-- An exponent is stored with this number added to it. -/
theorem exponentBias_binary64 : (Format.binary64.exponentBias : Int) + (52 : Nat) = 1075 := by
  decide

/-- The leading bit of a normal number, which is not stored. -/
theorem toNat_one_append (mantissa : BitVec 52) :
    (1#1 ++ mantissa).toNat = 2 ^ 52 + mantissa.toNat := by
  rw [BitVec.toNat_append, ← Nat.shiftLeft_add_eq_or_of_lt mantissa.isLt]
  rfl

/-- The parts of a double are in bounds. -/
theorem isCanonical_parts {x : Float} {s : Sign} {m : Nat} {e : Int} {hm : 0 < m}
    (h : parts x = .finite s m e hm) : IsCanonical m e := by
  have hunpack : UnpackedFloat.unpack Format.binary64 x.toModel.toBits.toBitVec =
    .finite s m e hm := h
  revert hunpack
  fun_cases UnpackedFloat.unpack Format.binary64 x.toModel.toBits.toBitVec with
  | case1 | case2 | case3 => exact fun hunpack => nomatch hunpack
  | case4 mantissa exponent e' sign s' hmax hmin hmantissa =>
    -- a subnormal number
    intro hunpack
    injection hunpack with hsign hm he
    rw [← hm, ← he]
    have hbound : mantissa.toNat < 2 ^ 52 := mantissa.isLt
    have hzero : exponent.toNat = 0 := by rw [hmin]; rfl
    refine ⟨by omega, ?_⟩
    simp only [e', hzero, exponentBias_binary64]
    omega
  | case5 mantissa exponent e' sign s' hmax hmin =>
    -- a normal number, whose leading bit is not stored
    intro hunpack
    injection hunpack with hsign hm he
    rw [← hm, ← he]
    have hbound : mantissa.toNat < 2 ^ 52 := mantissa.isLt
    have hpos : exponent.toNat ≠ 0 := fun h => hmin (BitVec.eq_of_toNat_eq h)
    rw [toNat_one_append mantissa]
    refine ⟨by omega, ?_⟩
    simp only [e', exponentBias_binary64]
    omega

/-- Rounding aims at a significand of 53 bits, as far as the exponent stays in bounds. -/
theorem targetExponent_binary64 (m : Nat) (e : Int) :
    Format.binary64.targetExponent (totalExponent m e) = max (m.log2 + e - 52) (-1074) := by
  have hmin : Format.binary64.minExponent = -1074 := by decide
  have hbits : (Format.binary64.mantissaBits : Int) = 53 := by decide
  rw [Format.targetExponent, totalExponent, hmin, hbits]
  omega

/-- The exponent in bounds is the one that rounding aims at. -/
theorem IsCanonical.targetExponent_eq {m : Nat} {e : Int} (h : IsCanonical m e) (hm : 0 < m) :
    Format.binary64.targetExponent (totalExponent m e) = e := by
  obtain ⟨hlt, hge, hbound⟩ := h
  have hlog : m.log2 < 53 := (Nat.log2_lt (by omega)).mpr hlt
  rw [targetExponent_binary64]
  rcases hbound with rfl | hbound
  · omega
  · have hlog' : 52 ≤ m.log2 := (Nat.le_log2 (by omega)).mpr hbound
    omega

/-- Shifting out zeros is exact. -/
theorem repeat_shiftRightOne (m k : Nat) :
    Nat.repeat ExtendedMantissa.shiftRightOne k ⟨m * 2 ^ k, false, false⟩ = ⟨m, false, false⟩ := by
  induction k generalizing m with
  | zero => simp [Nat.repeat]
  | succ k ih =>
    rw [Nat.repeat, Nat.pow_succ', ← Nat.mul_assoc, ih (m * 2)]
    simp [ExtendedMantissa.shiftRightOne]

/-- Shifting out zeros up to the exponent of a double is exact. -/
theorem shiftToTargetExponent_eq {m : Nat} {e : Int} (h : IsCanonical m e) (hm : 0 < m) (k : Nat) :
    shiftToTargetExponent .binary64 (m * 2 ^ k) (e - k) .exact = (⟨m, false, false⟩, e) := by
  have hlog : (m * 2 ^ k).log2 = m.log2 + k := by
    induction k with
    | zero => simp
    | succ k ih =>
      rw [Nat.pow_succ, ← Nat.mul_assoc, Nat.mul_comm, Nat.log2_two_mul (by positivity), ih]
      rfl
  have htotal : totalExponent (m * 2 ^ k) (e - k) = totalExponent m e := by
    unfold totalExponent
    rw [hlog]
    omega
  unfold shiftToTargetExponent shiftToExponent
  dsimp only
  rw [htotal, h.targetExponent_eq hm, show (e - (e - k)).toNat = k by omega]
  exact Prod.ext (repeat_shiftRightOne m k) (by simp)

/-- Rounding a double with zeros after its significand gives the double. -/
theorem roundWithAccuracy_eq {m : Nat} {e : Int} (h : IsCanonical m e) (hm : 0 < m) (s : Sign)
    (k : Nat) :
    roundWithAccuracy .binary64 s (m * 2 ^ k) (e - k) .exact = .finite s m e hm := by
  have hagain := shiftToTargetExponent_eq h hm 0
  rw [Nat.pow_zero, Nat.mul_one, Int.natCast_zero, Int.sub_zero] at hagain
  unfold roundWithAccuracy
  rw [shiftToTargetExponent_eq h hm k]
  simp only [ExtendedMantissa.roundedMantissa, ExtendedMantissa.accuracy,
    Accuracy.roundToNearestEven, hagain]
  rw [dif_neg (by omega)]

/-- Multiplying by one gives the number back. -/
theorem mul_one (x : Float) : x * Float.ofBits 0x3FF0000000000000 = x := by
  have hone : parts (Float.ofBits 0x3FF0000000000000) =
      .finite .positive (2 ^ 52) (-52) (by decide) := rfl
  have hmul : x * Float.ofBits 0x3FF0000000000000 = Float.ofModel (Float.Model.pack
      (UnpackedFloat.mul .binary64 (parts x) (parts (Float.ofBits 0x3FF0000000000000)))) := rfl
  have hsign (s : Sign) : s * .positive = s := by cases s <;> rfl
  have hparts : UnpackedFloat.mul .binary64 (parts x)
      (.finite .positive (2 ^ 52) (-52) (by decide)) = parts x := by
    cases hx : parts x with
    | notANumber => rfl
    | infinity s => exact congrArg _ (hsign s)
    | zero s => exact congrArg _ (hsign s)
    | finite s m e hm =>
      unfold UnpackedFloat.mul
      dsimp only
      rw [hsign]
      exact roundWithAccuracy_eq (isCanonical_parts hx) hm s 52
  rw [hmul, hone, hparts, ofModel_pack_parts]

/-- Shifting a significand to the right does not make it larger. -/
theorem mantissa_repeat_shiftRightOne_le (k : Nat) (em : ExtendedMantissa) :
    (Nat.repeat ExtendedMantissa.shiftRightOne k em).mantissa ≤ em.mantissa := by
  induction k with
  | zero => exact Nat.le_refl _
  | succ k ih =>
    have hstep : (Nat.repeat ExtendedMantissa.shiftRightOne (k + 1) em).mantissa =
        (Nat.repeat ExtendedMantissa.shiftRightOne k em).mantissa / 2 := rfl
    omega

/-- The whole part of a significand with no bits before the point is at most the significand. -/
theorem roundToInt_toNat_le (s : Sign) (m : Nat) {e : Int} (he : e ≤ 0) :
    (roundToInt s m e).toNat ≤ m := by
  have hmantissa := mantissa_repeat_shiftRightOne_le (0 - e).toNat
    (ExtendedMantissa.ofMantissaAndAccuracy m .exact)
  have hround : roundToInt s m e = s.apply
      (Nat.repeat ExtendedMantissa.shiftRightOne (0 - e).toNat
        (ExtendedMantissa.ofMantissaAndAccuracy m .exact)).mantissa := by
    unfold roundToInt decreaseExponent
    rw [show (e - 0).toNat = 0 by omega]
    simp only [Nat.shiftLeft_zero, Int.natCast_zero, Int.sub_zero]
    rfl
  have hexact : (ExtendedMantissa.ofMantissaAndAccuracy m .exact).mantissa = m := rfl
  rw [hround]
  cases s <;> simp only [Sign.apply] <;> omega

/-- A number below `2 ^ 53` has a whole part below it. -/
theorem toUInt64_toNat_lt {x : Float} (h : x < 9007199254740992.0) : x.toUInt64.toNat < 2 ^ 53 := by
  have hbound : parts 9007199254740992.0 = .finite .positive (2 ^ 52) 1 (by decide) := rfl
  have hclamp : x.toUInt64 = UInt64.ofNatClamp ((parts x).toInt 0 (UInt64.size - 1)).toNat := rfl
  rw [lt_iff, hbound] at h
  have hwhole : ((parts x).toInt 0 (UInt64.size - 1)).toNat < 2 ^ 53 := by
    cases hx : parts x with
    | notANumber => decide
    | zero s => exact Nat.two_pow_pos 53
    | infinity s =>
      rw [hx] at h
      cases s with
      | negative => decide
      | positive => cases h
    | finite s m e hm =>
      rw [hx] at h
      obtain ⟨hlt, hge, hcanonical⟩ := isCanonical_parts hx
      have he : e ≤ 0 ∨ s = .negative := by
        cases s with
        | negative => exact .inr rfl
        | positive =>
          simp only [UnpackedFloat.compare, Option.some_inj, Ordering.then_eq_lt,
            Int.compare_eq_lt, Nat.compare_eq_lt, Int.compare_eq_eq] at h
          omega
      rcases he with he | rfl
      · have := roundToInt_toNat_le s m he
        exact Nat.lt_of_le_of_lt this hlt
      · -- the whole part of a negative number is cut off at zero
        have hnegative : ∃ n : Nat, (finite .negative m e hm).toInt 0 (UInt64.size - 1) = -n :=
          ⟨_, rfl⟩
        obtain ⟨n, hn⟩ := hnegative
        rw [hn]
        omega
  have hsmall : ((parts x).toInt 0 (UInt64.size - 1)).toNat < UInt64.size :=
    Nat.lt_trans hwhole (by decide)
  rw [hclamp, UInt64.ofNatClamp_eq_ofNat _ hsmall, UInt64.toNat_ofNat_of_lt' hsmall]
  exact hwhole

/-- Below `2 ^ 53` the double that a natural number spells is the one with its value. -/
theorem ofScientific_eq {n : Nat} (h : n < 2 ^ 53) :
    Float.ofScientific n false 0 = n.toUInt64.toFloat := by
  unfold Float.ofScientific
  rw [dif_pos ⟨h, by decide⟩]
  exact mul_one _

/-- A size is not negative zero. -/
theorem abs_ne_neg_zero (x : Float) : x.abs ≠ -0 := by
  intro h
  have hparts : (parts x).abs = .zero .negative := by
    rw [← parts_abs, h]
    rfl
  cases hx : parts x with
  | notANumber | infinity s | zero s | finite s m e =>
    rw [hx] at hparts
    cases hparts

/-- A size with no fraction is the double with the value of its whole part. -/
theorem toUInt64_toFloat {x : Float} (h : x.abs.toUInt64.toFloat == x.abs) :
    x.abs.toUInt64.toFloat = x.abs := by
  obtain ⟨-, -, heq | ⟨-, hneg⟩ | ⟨hneg, hzero⟩⟩ := Float.beq_iff_ne_nan_and_eq.mp h
  · exact heq
  · exact absurd hneg (abs_ne_neg_zero x)
  · rw [hzero]
    decide +kernel

end LiveForm.Double
