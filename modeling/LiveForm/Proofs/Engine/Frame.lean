import LiveForm.Proofs.Engine.Effect

/-!
# What a run leaves alone

A run has a state for each field of the form and for nothing else, and it writes only values of
fields that have a state. So the data of a run differs from the given data only at fields of the
form.
-/

namespace LiveForm

namespace Working

variable {ids : List String}

/-- The fields that have a state are those of the form. -/
def Covers (ids : List String) (w : Working) : Prop := ∀ id, w.states.contains id = ids.contains id

/-- Actions give no field a state and take none away. -/
theorem Covers.apply {w : Working} (h : w.Covers ids) (r : Rule) (a : Action) :
    (apply ids r w a).value.Covers ids := by
  intro id
  rw [← h id, apply_states, SortedMap.contains, SortedMap.get?_mapValues, Option.isSome_map]
  rfl

/-- A run starts with a state for each field of the form. -/
theorem covers_start (fields : List Field) (data : FormData) :
    (start fields data).Covers (fields.map (·.id)) := by
  intro id
  rw [Bool.eq_iff_iff, SortedMap.contains_iff_mem_keys, start, SortedMap.mem_keys_ofList]
  simp

/-- An action writes only values of fields of the form. -/
theorem get?_apply_data {w : Working} (hw : w.Covers ids) (r : Rule) (a : Action) {id : String}
    (hid : id ∉ ids) : (apply ids r w a).value.data.get? id = w.data.get? id := by
  rw [apply_data]
  cases hwrite : w.write? ids a with
  | none => rfl
  | some e =>
    have htarget : e.1 ∈ ids := by
      obtain ⟨target, _, he⟩ := Option.bind_eq_some_iff.mp hwrite
      split at he
      case isTrue hc =>
        obtain ⟨v, _, rfl⟩ := Option.map_eq_some_iff.mp he
        rw [hw target] at hc
        simpa using hc
      case isFalse => cases he
    have hne : id ≠ e.1 := fun h => hid (h ▸ htarget)
    simp [hne]

/-- Actions write only values of fields of the form, and keep a state for each of these. -/
theorem after_frame (steps : List (Rule × Action)) {w : Working} (hw : w.Covers ids) :
    (w.after ids steps).Covers ids ∧
      ∀ id ∉ ids, (w.after ids steps).data.get? id = w.data.get? id := by
  induction steps generalizing w with
  | nil => exact ⟨hw, fun _ _ => rfl⟩
  | cons step steps ih =>
    obtain ⟨hcovers, hdata⟩ := ih (hw.apply step.1 step.2)
    exact ⟨hcovers, fun id hid => (hdata id hid).trans (get?_apply_data hw step.1 step.2 hid)⟩

/-- Evaluating a calculated field gives it the value of its calculation, if there is one, and leaves
every other value as it is. -/
theorem get?_refreshed_eq (data : FormData) (f : Field) (id : String) :
    (refreshed ids data f).get? id =
      (if f.id = id then
        (f.calculation.bind fun expression =>
          (Calculation.evaluate expression ids data).value).map Json.ofNumber
        else none).or (data.get? id) := by
  unfold refreshed
  cases f.calculation.bind fun expression => (Calculation.evaluate expression ids data).value with
  | none => simp
  | some x =>
    by_cases h : id = f.id
    · simp [h]
    · simp [h, Ne.symm h]

/-- Evaluating a calculated field writes at most its value. -/
theorem get?_refreshed (data : FormData) {f : Field} {id : String} (hid : id ≠ f.id) :
    (refreshed ids data f).get? id = data.get? id := by
  rw [get?_refreshed_eq, if_neg (Ne.symm hid), Option.none_or]

/-- Evaluating calculated fields writes only their values. -/
theorem get?_foldl_refreshed (fields : List Field) (data : FormData) {id : String}
    (hid : id ∉ fields.map (·.id)) :
    (fields.foldl (refreshed ids) data).get? id = data.get? id := by
  induction fields generalizing data with
  | nil => rfl
  | cons f fields ih =>
    rw [List.map_cons, List.mem_cons, not_or] at hid
    rw [List.foldl_cons, ih _ hid.2, get?_refreshed data hid.1]

end Working

/-- A run changes values of fields of the form only. -/
theorem get?_priorityEngine_data (fields : List Field) (rules : RuleSet) (data : FormData)
    {id : String} (hid : id ∉ fields.map (·.id)) :
    (priorityEngine fields rules data).value.formData.get? id = data.get? id := by
  have hcalculated : id ∉ (fields.filter (·.isCalculated)).map (·.id) := fun h =>
    hid (List.map_subset _ (List.filter_subset_self fields) h)
  rw [priorityEngine_value, Working.foldl_refresh]
  simp only [Working.finish]
  rw [Working.get?_foldl_refreshed _ _ hcalculated,
    (Working.after_frame _ (Working.covers_start fields data)).2 id hid]
  rfl

end LiveForm
