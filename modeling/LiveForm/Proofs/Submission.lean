import LiveForm.Proofs.Validation
import LiveForm.Session

/-!
# What is submitted

A submission has the values of the fields that count, and no others. Where different fields have
different ids these are the fields that validation looks at, so a submission that passes validation
has a good answer for each of them that needs one.
-/

namespace LiveForm

namespace Submission

variable {fields : List Field} {states : FieldStates} {data data' : FormData} {id : String}

/-- A submission answers for an id as the data does if a field with that id is shown and the first
one takes answers. -/
theorem get?_build :
    (build fields states data).value.get? id =
      if isSubmittable fields id && (states.get? id).any (·.visible) then data.get? id else none := by
  change (((data.filter fun id _ => (states.get? id).any (·.visible))).filter
    fun id _ => isSubmittable fields id).get? id = _
  rw [SortedMap.get?_filter, SortedMap.get?_filter]
  cases isSubmittable fields id <;> simp

/-- If the first field with an id takes answers and is shown, then one of the fields with that id
counts. -/
theorem exists_counts (h : isSubmittable fields id && (states.get? id).any (·.visible)) :
    ∃ f ∈ fields, f.id = id ∧ f.counts states := by
  rw [Bool.and_eq_true] at h
  obtain ⟨f, hfind, hsubmittable⟩ := Option.any_eq_true _ _ |>.mp h.1
  have hid : f.id = id := by simpa using List.find?_some hfind
  refine ⟨f, List.mem_of_find?_eq_some hfind, hid, ?_⟩
  rw [Field.counts, hid, h.2, hsubmittable]
  rfl

/-- A field that counts is shown and takes answers, and no other field has its id. -/
theorem isSubmittable_of_counts (hids : (fields.map (·.id)).Nodup) {f : Field} (hf : f ∈ fields)
    (h : f.counts states) :
    (isSubmittable fields f.id && (states.get? f.id).any (·.visible)) = true := by
  rw [Field.counts, Bool.and_eq_true] at h
  have hfind : fields.find? (·.id == f.id) = some f := by
    have hsome : (fields.find? (·.id == f.id)).isSome :=
      List.find?_isSome.mpr ⟨f, hf, beq_self_eq_true f.id⟩
    obtain ⟨g, hg⟩ := Option.isSome_iff_exists.mp hsome
    have hid : g.id = f.id := by simpa using List.find?_some hg
    rw [hg, List.inj_on_of_nodup_map hids (List.mem_of_find?_eq_some hg) hf hid]
  rw [isSubmittable, hfind, Option.any_some, h.1, h.2]
  rfl

/-- The entries of a submission are those of the data that belong to a field that counts. -/
theorem get?_build_eq_some_iff (hids : (fields.map (·.id)).Nodup) {v : Json} :
    (build fields states data).value.get? id = some v ↔
      data.get? id = some v ∧ ∃ f ∈ fields, f.id = id ∧ f.counts states := by
  rw [get?_build]
  constructor
  · intro h
    split at h
    case isTrue hcounts => exact ⟨h, exists_counts hcounts⟩
    case isFalse => cases h
  · rintro ⟨hv, f, hf, rfl, hcounts⟩
    rw [if_pos (isSubmittable_of_counts hids hf hcounts), hv]

/-- A submission answers for a field that counts as the data does. -/
theorem get?_build_of_counts (hids : (fields.map (·.id)).Nodup) {f : Field} (hf : f ∈ fields)
    (h : f.counts states) : (build fields states data).value.get? f.id = data.get? f.id := by
  rw [get?_build, if_pos (isSubmittable_of_counts hids hf h)]

/-- What is submitted depends on the values of the fields that count. -/
theorem build_congr (h : ∀ f ∈ fields, f.counts states → data.get? f.id = data'.get? f.id) :
    (build fields states data).value = (build fields states data').value := by
  ext id
  rw [get?_build, get?_build]
  split
  case isTrue hcounts =>
    obtain ⟨f, hf, rfl, hf'⟩ := exists_counts hcounts
    rw [h f hf hf']
  case isFalse => rfl

end Submission

/-- The outcome of a submission and the session after it: an accepted submission is told to the
sink, and a rejected one changes nothing. -/
theorem Setup.submit_value {σ : Type} (w : Setup σ) (s : Session σ) :
    (w.submit s).value =
      if (w.validate s).value.isEmpty then
        (.accepted (Submission.build w.fields s.evaluation.states s.data).value,
          (w.finalize s).value)
      else (.rejected (w.validate s).value, s) := by
  simp only [submit, Logged.value_bind]
  split <;> rfl

end LiveForm
