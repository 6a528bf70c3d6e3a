import LiveForm.Json.Printer
import LiveForm.Proofs.SortedMap

/-!
# Values by their parts

Induction over values: lists by their items and objects by their entries. A value is finite if all
of its floats are, as in every JSON text. The canonical form of any value is finite, and its own
canonical form.
-/

namespace LiveForm.Json

/-- Induction over values, with the parts of lists and objects as members. -/
@[elab_as_elim]
theorem induct {motive : Json → Prop} (null : motive .null) (bool : ∀ b, motive (.bool b))
    (int : ∀ n, motive (.int n)) (float : ∀ x, motive (.float x)) (text : ∀ s, motive (.text s))
    (list : ∀ items, (∀ v ∈ items, motive v) → motive (.list items))
    (object : ∀ entries, (∀ e ∈ entries, motive e.2) → motive (.object entries)) :
    ∀ v, motive v := by
  apply @Json.rec motive (fun items => ∀ v ∈ items, motive v)
    (fun entries => ∀ e ∈ entries, motive e.2) (fun e => motive e.2)
    null bool int float text list object
  case nil => simp
  case cons =>
    intro v items hv hitems
    exact List.forall_mem_cons.mpr ⟨hv, hitems⟩
  case nil => simp
  case cons =>
    intro e entries he hentries
    exact List.forall_mem_cons.mpr ⟨he, hentries⟩
  case mk =>
    intro k v hv
    exact hv

mutual

/-- Whether all floats of a value are finite. -/
def isFinite : Json → Bool
  | .float x => x.isFinite
  | .list items => isFiniteItems items
  | .object entries => isFiniteEntries entries
  | _ => true

/-- Whether all floats of some items are finite. -/
def isFiniteItems : List Json → Bool
  | [] => true
  | v :: r => v.isFinite && isFiniteItems r

/-- Whether all floats of some entries are finite. -/
def isFiniteEntries : List (String × Json) → Bool
  | [] => true
  | (_, v) :: r => v.isFinite && isFiniteEntries r

end

mutual

/-- The numbers in a value, in order. -/
def numbers : Json → List Json
  | .int n => [.int n]
  | .float x => [.float x]
  | .list items => numbersOfItems items
  | .object entries => numbersOfEntries entries
  | _ => []

/-- The numbers in some items. -/
def numbersOfItems : List Json → List Json
  | [] => []
  | v :: r => v.numbers ++ numbersOfItems r

/-- The numbers in some entries. -/
def numbersOfEntries : List (String × Json) → List Json
  | [] => []
  | (_, v) :: r => v.numbers ++ numbersOfEntries r

end

@[simp] theorem isFinite_null : Json.null.isFinite = true := rfl

@[simp] theorem isFinite_bool (b : Bool) : (Json.bool b).isFinite = true := rfl

@[simp] theorem isFinite_int (n : Int) : (Json.int n).isFinite = true := rfl

@[simp] theorem isFinite_text (s : String) : (Json.text s).isFinite = true := rfl

/-- A list is finite if its items are. -/
@[simp] theorem isFinite_list (items : List Json) :
    (Json.list items).isFinite = items.all isFinite := by
  rw [isFinite]
  induction items with
  | nil => rfl
  | cons v r ih => rw [isFiniteItems, ih, List.all_cons]

/-- An object is finite if the values of its entries are. -/
@[simp] theorem isFinite_object (entries : List (String × Json)) :
    (Json.object entries).isFinite = entries.all fun e => e.2.isFinite := by
  rw [isFinite]
  induction entries with
  | nil => rfl
  | cons e r ih => rw [isFiniteEntries, ih, List.all_cons]

/-- The numbers in a list are those in its items. -/
@[simp] theorem numbers_list (items : List Json) :
    (Json.list items).numbers = items.flatMap numbers := by
  rw [numbers]
  induction items with
  | nil => rfl
  | cons v r ih => rw [numbersOfItems, ih, List.flatMap_cons]

/-- The numbers in an object are those in the values of its entries. -/
@[simp] theorem numbers_object (entries : List (String × Json)) :
    (Json.object entries).numbers = entries.flatMap fun e => e.2.numbers := by
  rw [numbers]
  induction entries with
  | nil => rfl
  | cons e r ih => rw [numbersOfEntries, ih, List.flatMap_cons]

/-- The canonical form of a list is that of its items. -/
theorem canonical_list (items : List Json) :
    (Json.list items).canonical = .list (items.map canonical) := by
  rw [canonical]
  congr
  induction items with
  | nil => rfl
  | cons v r ih => rw [canonicalItems, ih, List.map_cons]

/-- Every value that is laid over others is one of them or the canonical form of a new one. -/
theorem forall_mem_canonicalEntries {p : Json → Prop} {done entries : List (String × Json)}
    (hdone : ∀ e ∈ done, p e.2) (hentries : ∀ e ∈ entries, p e.2.canonical) :
    ∀ e ∈ canonicalEntries done entries, p e.2 := by
  induction entries generalizing done with
  | nil => exact hdone
  | cons e r ih =>
    rw [List.forall_mem_cons] at hentries
    refine ih (fun e' he' => ?_) hentries.2
    rcases SortedMap.mem_place he' with rfl | he'
    · exact hentries.1
    · exact hdone e' he'

/-- The canonical form of a value is finite. -/
theorem isFinite_canonical (v : Json) : v.canonical.isFinite := by
  induction v using induct with
  | null | bool b | int n | text s => rfl
  | float x =>
    rw [canonical]
    split
    case isTrue h => exact h
    case isFalse => rfl
  | list items ih => simpa [canonical_list] using ih
  | object entries ih =>
    rw [canonical, isFinite_object, List.all_eq_true]
    exact forall_mem_canonicalEntries (p := fun v => v.isFinite) (by simp) ih

/-- A finite value has the canonical form of null only if it is null. -/
theorem canonical_ne_null {v : Json} (hfinite : v.isFinite) (h : v ≠ .null) :
    v.canonical ≠ .null := by
  cases v with
  | null => exact absurd rfl h
  | float x =>
    rw [isFinite] at hfinite
    simp [canonical, hfinite]
  | _ => simp [canonical]

/-- Entries laid over others in key order are those of a map. -/
theorem canonicalEntries_eq (m : SortedMap Json) (entries : List (String × Json)) :
    canonicalEntries m.toList entries =
      (m.insertAll (entries.map fun e => (e.1, e.2.canonical))).toList := by
  induction entries generalizing m with
  | nil => rfl
  | cons e r ih => exact ih (m.insert e.1 e.2.canonical)

/-- The canonical form of an object is that of a map of canonical values. -/
theorem canonical_object (entries : List (String × Json)) :
    (Json.object entries).canonical =
      .object (SortedMap.ofList (entries.map fun e => (e.1, e.2.canonical))).toList := by
  rw [canonical]
  exact congrArg Json.object (canonicalEntries_eq .empty entries)

/-- A canonical form is its own. -/
@[simp] theorem canonical_canonical (v : Json) : v.canonical.canonical = v.canonical := by
  induction v using induct with
  | null | bool b | int n | text s => rfl
  | float x =>
    rw [canonical]
    split
    case isTrue h => rw [canonical, if_pos h]
    case isFalse => rfl
  | list items ih =>
    rw [canonical_list, canonical_list, List.map_map]
    exact congrArg Json.list (List.map_congr_left ih)
  | object entries ih =>
    rw [canonical_object, canonical_object]
    have hvalues : ∀ e ∈ (SortedMap.ofList (entries.map fun e => (e.1, e.2.canonical))).toList,
        (e.1, e.2.canonical) = e := by
      intro e he
      obtain ⟨e', he', rfl⟩ := List.mem_map.mp (SortedMap.mem_of_mem_ofList he)
      exact Prod.ext rfl (ih e' he')
    rw [List.map_congr_left hvalues, List.map_id', SortedMap.ofList_toList]

end LiveForm.Json
