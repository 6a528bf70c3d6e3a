import LiveForm.Proofs.Double
import LiveForm.Proofs.Json.Basic
import LiveForm.Proofs.SortedMap
import LiveForm.State

/-!
# Data that counts as the same

Data counts as the same if it has the same keys with the same values, where the two zeros are the
same number. So every finite value is the same as itself, and where no number is negative zero, data
that is the same is equal. Data that is the same has the same number for each key, but for the sign
of zero.
-/

namespace LiveForm

/-- Lists whose members are related place by place are equal if related members are. -/
theorem eq_of_forall₂ {α : Type} {R : α → α → Prop} {a b : List α} (h : List.Forall₂ R a b)
    (heq : ∀ v ∈ a, ∀ w ∈ b, R v w → v = w) : a = b := by
  induction h with
  | nil => rfl
  | cons hvw _ ih =>
    rw [heq _ List.mem_cons_self _ List.mem_cons_self hvw,
      ih fun v hv w hw => heq v (List.mem_cons_of_mem _ hv) w (List.mem_cons_of_mem _ hw)]

namespace Json

/-! ### Values -/

/-- No number in a value is negative zero. -/
def HasPlainZeros (v : Json) : Prop := .float (-0.0) ∉ v.numbers

instance (v : Json) : Decidable v.HasPlainZeros := inferInstanceAs (Decidable (_ ∉ _))

/-- In a list all zeros are plain if they are in its items. -/
theorem hasPlainZeros_list {items : List Json} :
    (Json.list items).HasPlainZeros ↔ ∀ v ∈ items, v.HasPlainZeros := by
  simp [HasPlainZeros]

/-- In an object all zeros are plain if they are in the values of its entries. -/
theorem hasPlainZeros_object {entries : List (String × Json)} :
    (Json.object entries).HasPlainZeros ↔ ∀ e ∈ entries, e.2.HasPlainZeros := by
  simp [HasPlainZeros]

/-- Two lists are the same if their items are, place by place. -/
theorem sameItems_iff {a b : List Json} :
    sameItems a b ↔ List.Forall₂ (fun v w => same v w) a b := by
  induction a generalizing b with
  | nil => cases b <;> simp [sameItems]
  | cons v a ih => cases b <;> simp [sameItems, ih]

/-- Two lists of entries are the same if their keys are equal and their values are the same. -/
theorem sameEntries_iff {a b : List (String × Json)} :
    sameEntries a b ↔ List.Forall₂ (fun e f => e.1 = f.1 ∧ same e.2 f.2) a b := by
  induction a generalizing b with
  | nil => cases b <;> simp [sameEntries]
  | cons e a ih => cases b <;> simp [sameEntries, ih]

/-- A finite value is the same as itself. -/
theorem same_self {v : Json} (h : v.isFinite) : same v v := by
  induction v using induct with
  | null => rfl
  | bool b | int n | text s => simp [same]
  | float x =>
    have hnan : x ≠ Float.nan := by
      rintro rfl
      cases h
    exact Float.beq_iff_ne_nan_and_eq.mpr ⟨hnan, hnan, .inl rfl⟩
  | list items ih =>
    rw [isFinite_list, List.all_eq_true] at h
    rw [same, sameItems_iff, List.forall₂_same]
    exact fun v hv => ih v hv (h v hv)
  | object entries ih =>
    rw [isFinite_object, List.all_eq_true] at h
    rw [same, sameEntries_iff, List.forall₂_same]
    exact fun e he => ⟨rfl, ih e he (h e he)⟩

/-- Floats that are equal as numbers are equal, or they are zeros of different signs. -/
theorem eq_or_zeros_of_beq {x y : Float} (h : x == y) :
    x = y ∨ x = 0.0 ∧ y = -0.0 ∨ x = -0.0 ∧ y = 0.0 := by
  have hzero : (-0.0 : Float) = -0 := rfl
  rw [hzero]
  exact (Float.beq_iff_ne_nan_and_eq.mp h).2.2

/-- Where no number is negative zero, values that are the same are equal. -/
theorem eq_of_same {v w : Json} (h : same v w) (hv : v.HasPlainZeros) (hw : w.HasPlainZeros) :
    v = w := by
  induction v using induct generalizing w with
  | null => cases w <;> first | rfl | cases h
  | bool b | int n | text s => cases w <;> first | cases h | simpa [same] using h
  | float x =>
    cases w with
    | float y =>
      rcases eq_or_zeros_of_beq h with rfl | ⟨-, rfl⟩ | ⟨rfl, -⟩
      · rfl
      · exact absurd (List.mem_singleton_self _) hw
      · exact absurd (List.mem_singleton_self _) hv
    | _ => cases h
  | list items ih =>
    cases w with
    | list items' =>
      rw [same, sameItems_iff] at h
      rw [hasPlainZeros_list] at hv hw
      rw [eq_of_forall₂ h fun v hmem w hmem' hsame => ih v hmem hsame (hv v hmem) (hw w hmem')]
    | _ => cases h
  | object entries ih =>
    cases w with
    | object entries' =>
      rw [same, sameEntries_iff] at h
      rw [hasPlainZeros_object] at hv hw
      rw [eq_of_forall₂ h fun e hmem f hmem' hsame =>
        Prod.ext hsame.1 (ih e hmem hsame.2 (hv e hmem) (hw f hmem'))]
    | _ => cases h

/-- A number is kept as a finite value. -/
theorem isFinite_ofNumber (x : Float) : (ofNumber x).isFinite := by
  unfold ofNumber
  split
  case h_1 => rfl
  case h_2 =>
    split
    case isTrue h => exact h
    case isFalse => rfl

/-- A number is never kept as a float that is zero. -/
theorem not_zero_of_wholeNumber?_eq_none {x : Float} (h : wholeNumber? x = none) :
    x ≠ 0.0 ∧ x ≠ -0.0 := by
  constructor
  · rintro rfl
    have hzero : wholeNumber? 0.0 = some 0 := rfl
    rw [hzero] at h
    cases h
  · rintro rfl
    have hminus : wholeNumber? (-0.0) = some 0 := rfl
    rw [hminus] at h
    cases h

/-- A number is never kept as negative zero. -/
theorem hasPlainZeros_ofNumber (x : Float) : (ofNumber x).HasPlainZeros := by
  unfold ofNumber
  split
  case h_1 n _ => exact fun h => nomatch List.mem_singleton.mp h
  case h_2 hwhole =>
    split
    case isTrue =>
      intro h
      have heq := List.mem_singleton.mp h
      rw [Json.float.injEq] at heq
      exact (not_zero_of_wholeNumber?_eq_none hwhole).2 heq.symm
    case isFalse => exact List.not_mem_nil

/-- Only the value that keeps a number is the same as it. -/
theorem eq_of_same_ofNumber {x : Float} {v : Json} (h : same (ofNumber x) v) : v = ofNumber x := by
  unfold ofNumber at h ⊢
  split at h
  case h_1 n hwhole =>
    cases v with
    | int m => rw [beq_iff_eq.mp h]
    | _ => cases h
  case h_2 hwhole =>
    split at h
    case isTrue hfinite =>
      cases v with
      | float y =>
        rcases eq_or_zeros_of_beq h with rfl | ⟨rfl, -⟩ | ⟨rfl, -⟩
        · simp [hfinite]
        · exact absurd rfl (not_zero_of_wholeNumber?_eq_none hwhole).1
        · exact absurd rfl (not_zero_of_wholeNumber?_eq_none hwhole).2
      | _ => cases h
    case isFalse hfinite =>
      cases v with
      | null => rw [if_neg hfinite]
      | _ => cases h

/-- Values that are the same have the same number, but for the sign of zero. -/
theorem asNumber_of_sameValue {v w : Option Json} (h : FieldState.sameValue v w) :
    asNumber v = asNumber w ∨
      asNumber v = 0.0 ∧ asNumber w = -0.0 ∨ asNumber v = -0.0 ∧ asNumber w = 0.0 := by
  rcases v with _ | v <;> rcases w with _ | w
  · exact .inl rfl
  · cases h
  · cases h
  · change same v w at h
    cases v with
    | float x =>
      cases w with
      | float y =>
        rcases eq_or_zeros_of_beq h with rfl | ⟨rfl, rfl⟩ | ⟨rfl, rfl⟩
        · exact .inl rfl
        · exact .inr (.inl ⟨rfl, rfl⟩)
        · exact .inr (.inr ⟨rfl, rfl⟩)
      | _ => cases h
    | bool b | int n | text s =>
      left
      cases w <;> first | cases h | simp_all [same]
    -- what is neither a number nor a text counts as zero
    | null =>
      cases w with
      | null => exact .inl rfl
      | _ => cases h
    | list items =>
      cases w with
      | list items' => exact .inl rfl
      | _ => cases h
    | object entries =>
      cases w with
      | object entries' => exact .inl rfl
      | _ => cases h

end Json

/-! ### Data -/

/-- No number in some data is negative zero. -/
def FormData.HasPlainZeros (d : FormData) : Prop := ∀ e ∈ d.toList, e.2.HasPlainZeros

instance (d : FormData) : Decidable (FormData.HasPlainZeros d) :=
  inferInstanceAs (Decidable (∀ e ∈ d.toList, e.2.HasPlainZeros))

/-- Values that may be absent are the same if both are absent or both are there and are the same. -/
theorem FieldState.sameValue_iff {v w : Option Json} :
    sameValue v w ↔ Option.Rel (fun v w => Json.same v w) v w := by
  cases v <;> cases w <;> simp [sameValue]

/-- A finite value is the same as itself, and so is a missing one. -/
theorem FieldState.sameValue_self {v : Option Json} (h : ∀ u ∈ v, u.isFinite) : sameValue v v := by
  cases v with
  | none => rfl
  | some u => exact Json.same_self (h u rfl)

/-- Finite data is the same as itself. -/
theorem sameData_self {d : FormData} (h : ∀ e ∈ d.toList, e.2.isFinite) : sameData d d :=
  SortedMap.all2_self fun e he => Json.same_self (h e he)

/-- Where no number is negative zero, data that is the same is equal. -/
theorem eq_of_sameData {a b : FormData} (h : sameData a b) (ha : FormData.HasPlainZeros a)
    (hb : FormData.HasPlainZeros b) : a = b :=
  SortedMap.eq_of_all2 h fun e he f hf hsame => Json.eq_of_same hsame (ha e he) (hb f hf)

/-- Data is the same if every look-up finds the same value in both, or none. -/
theorem sameData_iff_sameValue {a b : FormData} :
    sameData a b ↔ ∀ k, FieldState.sameValue (a.get? k) (b.get? k) := by
  simp only [FieldState.sameValue_iff]
  exact SortedMap.all2_iff

/-- Data that is the same has the same value for each key. -/
theorem sameValue_of_sameData {a b : FormData} (h : sameData a b) (k : String) :
    FieldState.sameValue (a.get? k) (b.get? k) :=
  sameData_iff_sameValue.mp h k

end LiveForm
