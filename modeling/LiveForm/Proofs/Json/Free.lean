import LiveForm.Proofs.Json.Reading
import LiveForm.Proofs.Json.Sameness

/-!
# Free data

Free data is what a document, a person or a calculation can give a field: values in canonical form,
whose integers take 64 bits. It is written so that it reads back, but for the floats in it, of which
the reader misses some by a rounding.
-/

namespace LiveForm

namespace Json

/-! ### Integers and floats in values -/

/-- Whether a value takes 64 bits, with a sign or without, if it is an integer. -/
def isShort : Json → Bool
  | .int n => -2 ^ 63 ≤ n && n < 2 ^ 64
  | _ => true

/-- Every integer in a value takes 64 bits. -/
def HasShortIntegers (v : Json) : Prop := ∀ n ∈ v.numbers, n.isShort

instance (v : Json) : Decidable v.HasShortIntegers :=
  inferInstanceAs (Decidable (∀ n ∈ v.numbers, n.isShort = true))

/-- A float, if a value is one. -/
def float? : Json → Option Float
  | .float x => some x
  | _ => none

/-- The floats in a value. -/
def floats (v : Json) : List Float := v.numbers.filterMap float?

/-- In a list all integers are short if they are in its items. -/
@[simp] theorem hasShortIntegers_list {items : List Json} :
    (Json.list items).HasShortIntegers ↔ ∀ v ∈ items, v.HasShortIntegers := by
  simp only [HasShortIntegers, numbers_list, List.mem_flatMap]
  exact ⟨fun h v hv n hn => h n ⟨v, hv, hn⟩, fun h n ⟨v, hv, hn⟩ => h v hv n hn⟩

/-- In an object all integers are short if they are in the values of its entries. -/
@[simp] theorem hasShortIntegers_object {entries : List (String × Json)} :
    (Json.object entries).HasShortIntegers ↔ ∀ e ∈ entries, e.2.HasShortIntegers := by
  simp only [HasShortIntegers, numbers_object, List.mem_flatMap]
  exact ⟨fun h e he n hn => h n ⟨e, he, hn⟩, fun h n ⟨e, he, hn⟩ => h e he n hn⟩

/-- The only integer in an integer is itself. -/
@[simp] theorem hasShortIntegers_int {n : Int} :
    (Json.int n).HasShortIntegers ↔ -2 ^ 63 ≤ n ∧ n < 2 ^ 64 := by
  simp [HasShortIntegers, numbers, isShort]

@[simp] theorem hasShortIntegers_null : Json.null.HasShortIntegers := fun _ h => nomatch h

@[simp] theorem hasShortIntegers_bool (b : Bool) : (Json.bool b).HasShortIntegers :=
  fun _ h => nomatch h

@[simp] theorem hasShortIntegers_text (s : String) : (Json.text s).HasShortIntegers :=
  fun _ h => nomatch h

/-- In a list of texts there are no integers. -/
@[simp] theorem hasShortIntegers_ofTexts (texts : List String) :
    (ofTexts texts).HasShortIntegers := by
  simp [ofTexts]

/-- In a map all integers are short if they are in the values of its entries. -/
theorem hasShortIntegers_ofMap {α : Type} {f : α → Json} {m : SortedMap α}
    (h : ∀ e ∈ m.toList, (f e.2).HasShortIntegers) : (ofMap f m).HasShortIntegers := by
  rw [ofMap, hasShortIntegers_object]
  intro e he
  obtain ⟨e', he', rfl⟩ := List.mem_map.mp he
  exact h e' he'

/-- The numbers in a value are integers and floats. -/
theorem int_or_float_of_mem_numbers {v n : Json} (h : n ∈ v.numbers) :
    (∃ k, n = .int k) ∨ ∃ x, n = .float x := by
  induction v using induct with
  | null | bool b | text s => cases h
  | int k => exact .inl ⟨k, List.mem_singleton.mp h⟩
  | float x => exact .inr ⟨x, List.mem_singleton.mp h⟩
  | list items ih =>
    rw [numbers_list, List.mem_flatMap] at h
    obtain ⟨v, hv, hn⟩ := h
    exact ih v hv hn
  | object entries ih =>
    rw [numbers_object, List.mem_flatMap] at h
    obtain ⟨e, he, hn⟩ := h
    exact ih e he hn

/-- The compact text of a finite value with short integers reads back, if the text of each of its
floats does and it nests no deeper than the reader goes. -/
theorem read?_compact_of_floats {v : Json} (hfinite : v.isFinite) (hshort : v.HasShortIntegers)
    (hfloats : ∀ x ∈ v.floats, read? (Json.float x).compact = some (.float x))
    (hdepth : v.depth ≤ maxLevels) : read? v.compact = some v := by
  refine read?_compact hfinite (fun n hn => ?_) hdepth
  rcases int_or_float_of_mem_numbers hn with ⟨k, rfl⟩ | ⟨x, rfl⟩
  · have hbounds := hshort _ hn
    simp only [isShort, Bool.and_eq_true, decide_eq_true_eq] at hbounds
    exact isLegible_int hbounds.1 hbounds.2
  · exact isLegible_of_read? (hfloats x (List.mem_filterMap.mpr ⟨_, hn, rfl⟩))

/-- One eleventh has a text that is read as the double next to it. -/
example : read? (Json.float (1.0 / 11.0)).compact ≠ some (.float (1.0 / 11.0)) := by
  decide +kernel

/-! ### Free data -/

/-- A value is as free data is kept: canonical, with short integers. -/
structure IsFree (v : Json) : Prop where
  /-- It is its own canonical form. -/
  canonical_eq : v.canonical = v
  /-- Its integers take 64 bits. -/
  shortIntegers : v.HasShortIntegers

instance (v : Json) : Decidable v.IsFree :=
  decidable_of_iff (v.canonical = v ∧ v.HasShortIntegers)
    ⟨fun h => ⟨h.1, h.2⟩, fun h => ⟨h.canonical_eq, h.shortIntegers⟩⟩

/-- Free data is finite. -/
theorem IsFree.isFinite {v : Json} (h : v.IsFree) : v.isFinite := by
  rw [← h.canonical_eq]
  exact v.isFinite_canonical

/-- The integer that keeps a number is small. -/
theorem wholeNumber?_bounds {x : Float} {n : Int} (h : wholeNumber? x = some n) :
    -2 ^ 63 ≤ n ∧ n < 2 ^ 64 := by
  unfold wholeNumber? at h
  split at h
  case isTrue hlt =>
    have hsize : x.abs.toUInt64.toNat < 2 ^ 53 := Double.toUInt64_toNat_lt hlt
    dsimp only at h
    split at h
    · split at h <;> cases h <;> omega
    · cases h
  case isFalse => cases h

/-- What a calculation gives is free data. -/
theorem isFree_ofNumber (x : Float) : (ofNumber x).IsFree := by
  unfold ofNumber
  split
  case h_1 n hwhole =>
    exact ⟨rfl, hasShortIntegers_int.mpr (wholeNumber?_bounds hwhole)⟩
  case h_2 =>
    split
    case isTrue hfinite =>
      refine ⟨by rw [canonical, if_pos hfinite], fun n hn => ?_⟩
      rw [List.mem_singleton.mp hn]
      rfl
    case isFalse => exact ⟨rfl, hasShortIntegers_null⟩

end Json

/-- The values that a form has are free data. -/
def FormData.IsFree (data : FormData) : Prop := ∀ e ∈ data.toList, e.2.IsFree

end LiveForm
