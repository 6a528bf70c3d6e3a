import LiveForm.Proofs.Engine.Effect
import LiveForm.Validation

/-!
# What validation reports

A field counts if it is shown and takes answers. Validation reports what is wrong with the answers
of the fields that count, each under the id of its field, and nothing else. So it reads the answers
of these fields only, and finds nothing wrong exactly if none of them fails.
-/

namespace LiveForm

namespace Field

/-- Whether a field is shown and takes answers. -/
def counts (states : FieldStates) (f : Field) : Bool :=
  (states.get? f.id).any (·.visible) && f.isSubmittable

/-- What is wrong with the answer that some data has for a field, if the field counts. An answer is
required if the state of the field says so. -/
def report? (states : FieldStates) (data : FormData) (f : Field) : Option String :=
  if f.counts states then
    (f.failure? ((states.get? f.id).any (·.required)) (data.get? f.id)).value
  else none

/-- A field about which something is reported counts. -/
theorem counts_of_report? {states : FieldStates} {data : FormData} {f : Field}
    (h : (f.report? states data).isSome) : f.counts states := by
  unfold report? at h
  split at h
  case isTrue hcounts => exact hcounts
  case isFalse => cases h

/-- What is reported about a field depends on the answer of that field, and only if it counts. -/
theorem report?_congr {states : FieldStates} {data data' : FormData} {f : Field}
    (h : f.counts states → data.get? f.id = data'.get? f.id) :
    f.report? states data = f.report? states data' := by
  unfold report?
  split
  case isTrue hcounts => rw [h hcounts]
  case isFalse => rfl

/-- A required answer is not empty if nothing is wrong with it. -/
theorem isEmptyAnswer_of_failure? {f : Field} {value : Option Json}
    (h : (f.failure? true value).value = none) : Json.isEmptyAnswer value = false := by
  unfold failure? at h
  split at h
  case isTrue => cases h
  case isFalse hempty => simpa using hempty

/-- A number field with an answer that is not empty has a number, if nothing is wrong with it. -/
theorem isSome_number?_of_failure? {f : Field} (hkind : f.kind = .number) {required : Bool}
    {v : Json} (hempty : Json.isEmptyAnswer (some v) = false)
    (h : (f.failure? required (some v)).value = none) : v.number?.isSome := by
  rw [failure?, hempty, Option.bind_some, kindFailure?, hkind] at h
  by_contra hnot
  simp [hnot] at h

end Field

namespace Validator

variable {fields : List Field} {states : FieldStates} {data : FormData}

/-- A step of the validator adds what is reported about the field. -/
theorem step_value (errors : ValidationErrors) (f : Field) :
    (step states data errors f).value =
      ((f.report? states data).map (errors.insert f.id)).getD errors := by
  unfold step Field.report? Field.counts
  cases states.get? f.id with
  | none => rfl
  | some s =>
    simp only [Option.any_some]
    split
    case isTrue =>
      rw [Logged.value_bind]
      cases (f.failure? s.required (data.get? f.id)).value <;> rfl
    case isFalse => rfl

/-- Validation collects what is reported about each field. -/
theorem standard_value (fields : List Field) (states : FieldStates) (data : FormData) :
    (standard fields states data).value = .ofList (fields.filterMap fun f =>
      (f.report? states data).map fun message => (f.id, message)) := by
  have hfold (errors : ValidationErrors) :
      (fields.foldlM (step states data) errors).value =
        errors.insertAll (fields.filterMap fun f =>
          (f.report? states data).map fun message => (f.id, message)) := by
    induction fields generalizing errors with
    | nil => rfl
    | cons f fields ih =>
      rw [List.foldlM_cons, Logged.value_bind, ih, step_value, List.filterMap_cons]
      cases f.report? states data <;> rfl
  exact hfold ∅

/-- Validation reports something under the ids of the fields that fail. -/
theorem mem_keys_standard {id : String} :
    id ∈ (standard fields states data).value.keys ↔
      ∃ f ∈ fields, f.id = id ∧ (f.report? states data).isSome := by
  rw [standard_value, SortedMap.mem_keys_ofList, List.mem_map]
  constructor
  · rintro ⟨e, he, rfl⟩
    obtain ⟨f, hf, hreport⟩ := List.mem_filterMap.mp he
    obtain ⟨message, hmessage, rfl⟩ := Option.map_eq_some_iff.mp hreport
    exact ⟨f, hf, rfl, by rw [hmessage]; rfl⟩
  · rintro ⟨f, hf, rfl, hreport⟩
    obtain ⟨message, hmessage⟩ := Option.isSome_iff_exists.mp hreport
    exact ⟨(f.id, message), List.mem_filterMap.mpr ⟨f, hf, by rw [hmessage]; rfl⟩, rfl⟩

/-- Validation finds nothing wrong exactly if no field fails. -/
theorem isEmpty_standard :
    (standard fields states data).value.isEmpty ↔ ∀ f ∈ fields, f.report? states data = none := by
  rw [SortedMap.isEmpty_iff]
  constructor
  · intro h f hf
    by_contra hreport
    exact h f.id (mem_keys_standard.mpr ⟨f, hf, rfl, Option.isSome_iff_ne_none.mpr hreport⟩)
  · intro h id hid
    obtain ⟨f, hf, -, hreport⟩ := mem_keys_standard.mp hid
    rw [h f hf] at hreport
    cases hreport

end Validator

end LiveForm
