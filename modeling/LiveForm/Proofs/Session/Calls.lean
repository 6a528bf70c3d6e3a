import LiveForm.Session

/-!
# What the calls of a session come to

A pass settles the data that it is given, and the session then shows what came of it. A call that
writes to fields is one pass if all of them are fields of the form. Otherwise it fails with the
first that is not, and the session stays as it is.
-/

namespace LiveForm.Setup

variable {σ : Type} {w : Setup σ}

/-- After a pass a session shows the evaluation that the data settled on. -/
theorem evaluation_pass (trigger : Trigger) (input : FormData) (s : Session σ) :
    (w.pass trigger input s).value.evaluation =
      (settle w.engine w.fields w.rules input).value.evaluation := rfl

/-- After a pass the data of a session is that of its evaluation. -/
theorem data_pass (trigger : Trigger) (input : FormData) (s : Session σ) :
    (w.pass trigger input s).value.data = (w.pass trigger input s).value.evaluation.formData := rfl

/-- A setup leaves undefined what is not the id of a field. -/
theorem not_defines_iff {id : String} : (!w.defines id) = true ↔ id ∉ w.fields.map (·.id) := by
  simp [defines]

/-- A change fails with the first id that no field has, and is a pass if there is none. -/
theorem change_value (w : Setup σ) (ids : List String) (trigger : Trigger) (input : FormData)
    (s : Session σ) :
    (w.change ids trigger input s).value =
      match ids.find? fun id => !w.defines id with
      | some id => (.error (.unknownField id), s)
      | none =>
        (.ok (w.pass trigger input s).value.evaluation, (w.pass trigger input s).value) := by
  unfold change undefinedAmong?
  cases ids.find? fun id => !w.defines id <;> rfl

/-- A change of fields of the form is a pass. -/
theorem change_of_defined {ids : List String} (hids : ∀ id ∈ ids, id ∈ w.fields.map (·.id))
    (trigger : Trigger) (input : FormData) (s : Session σ) :
    (w.change ids trigger input s).value =
      (.ok (w.pass trigger input s).value.evaluation, (w.pass trigger input s).value) := by
  have hnone : ids.find? (fun id => !w.defines id) = none :=
    List.find?_eq_none.mpr fun id hid hundefined => not_defines_iff.mp hundefined (hids id hid)
  rw [change_value, hnone]

/-- Giving a field of the form a value is a pass over the data with that value. -/
theorem setValue_value {id : String} (hid : id ∈ w.fields.map (·.id)) (value : Json)
    (s : Session σ) :
    let t := (w.pass (.fieldChanged id value) (s.data.insert id value) s).value
    (w.setValue id value s).value = (.ok t.evaluation, t) :=
  change_of_defined (List.forall_mem_singleton.mpr hid) _ _ s

/-- Giving fields of the form values is a pass over the data with these values. -/
theorem loadValues_value {values : FormData}
    (hvalues : ∀ id ∈ values.keys, id ∈ w.fields.map (·.id)) (s : Session σ) :
    let t := (w.pass (.valuesLoaded values.keys) (s.data.insertAll values.toList) s).value
    (w.loadValues values s).value = (.ok t.evaluation, t) :=
  change_of_defined hvalues _ _ s

/-- A caller that goes on only if no call fails goes on with the session after a call. -/
theorem load_eq_ok {values : FormData} {s t : Session σ} {e : Evaluation}
    (h : (w.loadValues values s).value = (.ok e, t)) : (w.load values s).value = .ok t := by
  rw [load, Logged.value_map, h]
  rfl

end LiveForm.Setup
