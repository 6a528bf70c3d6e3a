import LiveForm.Proofs.Session.History
import LiveForm.Proofs.Submission
import LiveForm.Sample.Order

/-!
# Submitting a form

A submission is accepted exactly if no field that counts fails, and then it has all that the form
asks for and nothing that it does not show. A rejected one says which fields fail. Either way the
form itself stays as it is, and only an accepted one is told to the trace.
-/

namespace LiveForm

/-- What is promised of an accepted submission of a form in some state. -/
structure IsSubmission (fields : List Field) (states : FieldStates) (data : FormData)
    (submission : Submission) : Prop where
  /-- It has the entries of the data whose field is shown and takes answers, unchanged. -/
  entries : ∀ id v, submission.get? id = some v ↔
    data.get? id = some v ∧ ∃ f ∈ fields, f.id = id ∧ f.counts states
  /-- It has an answer for each of these fields that requires one. -/
  required : ∀ f ∈ fields, f.counts states → (states.get? f.id).any (·.required) →
    ∃ v, submission.get? f.id = some v ∧ Json.isEmptyAnswer (some v) = false
  /-- The answers of number fields are numbers, and calculations read them as such. -/
  numbers : ∀ f ∈ fields, f.kind = .number → ∀ v, submission.get? f.id = some v →
    Json.isEmptyAnswer (some v) = false → ∃ x, v.number? = some x ∧ Json.asNumber (some v) = x

/-- A value that is a number is read as that number. -/
theorem Json.asNumber_of_number? {v : Json} {x : Float} (h : v.number? = some x) :
    asNumber (some v) = x := by
  cases v with
  | bool b => cases h
  | _ =>
    rw [asNumber, h, Option.getD_some]
    simp

/-- The entries of the fields that count, of which none fails, are as promised. -/
theorem isSubmission_build {fields : List Field} (hids : (fields.map (·.id)).Nodup)
    {states : FieldStates} {data : FormData} (h : ∀ f ∈ fields, f.report? states data = none) :
    IsSubmission fields states data (Submission.build fields states data).value := by
  have hpassed {f : Field} (hf : f ∈ fields) (hcounts : f.counts states) :
      (f.failure? ((states.get? f.id).any (·.required)) (data.get? f.id)).value = none := by
    have hreport := h f hf
    rwa [Field.report?, if_pos hcounts] at hreport
  refine ⟨fun id v => Submission.get?_build_eq_some_iff hids, fun f hf hcounts hrequired => ?_,
    fun f hf hkind v hv hanswer => ?_⟩
  · have hnone := hpassed hf hcounts
    rw [hrequired] at hnone
    have hanswer := Field.isEmptyAnswer_of_failure? hnone
    rw [Submission.get?_build_of_counts hids hf hcounts]
    cases hvalue : data.get? f.id with
    | none =>
      rw [hvalue] at hanswer
      cases hanswer
    | some v => exact ⟨v, rfl, hvalue ▸ hanswer⟩
  · obtain ⟨hvalue, g, hg, hid, hcounts⟩ := (Submission.get?_build_eq_some_iff hids).mp hv
    obtain rfl := List.inj_on_of_nodup_map hids hg hf hid
    have hnone := hpassed hg hcounts
    rw [hvalue] at hnone
    obtain ⟨x, hx⟩ := Option.isSome_iff_exists.mp
      (Field.isSome_number?_of_failure? hkind hanswer hnone)
    exact ⟨x, hx, Json.asNumber_of_number? hx⟩

/-- In any session of a form whose fields have different ids, after any operations, a submission is
accepted exactly if no field that is shown and takes answers fails; then it is as promised. A
rejected one reports such fields, at least one. Neither changes the form, and the trace is finalized
by accepted submissions only. -/
theorem submit_sound_complete (d : Document) (hids : (d.fields.map (·.id)).Nodup)
    (sessionId traceId : String) (clock : Nat → Timestamp) (ops : List Operation) :
    let w := d.setup sessionId clock
    let before := (w.performAll (w.start { id := traceId }).value ops).value
    let s := before.2
    let states := s.evaluation.states
    let outcome := (w.submit s).value.1
    let after := (w.submit s).value.2
    (outcome.isAccepted ↔ ∀ f ∈ d.fields, f.counts states →
      (f.failure? ((states.get? f.id).any (·.required)) (s.data.get? f.id)).value = none) ∧
    (∀ submission, outcome = .accepted submission →
      IsSubmission d.fields states s.data submission) ∧
    (∀ errors, outcome = .rejected errors → errors.isEmpty = false ∧
      ∀ id ∈ errors.keys, ∃ f ∈ d.fields, f.id = id ∧ f.counts states) ∧
    after.data = s.data ∧ after.evaluation = s.evaluation ∧ after.passes = s.passes ∧
    s.trace.finalizedSession = (if before.1.any Response.isAccepted then some sessionId else none) ∧
    after.trace =
      if outcome.isAccepted then { s.trace with finalizedSession := some sessionId }
      else s.trace := by
  intro w before s states outcome after
  have hfinalized : s.trace.finalizedSession =
      if before.1.any Response.isAccepted then some sessionId else none := by
    have hstart := Session.History.start hids sessionId traceId clock
    exact (hstart.performAll hids clock ops).finalized
  have hsubmit : (w.submit s).value = _ := w.submit_value s
  have hreports : (w.validate s).value.isEmpty ↔
      ∀ f ∈ d.fields, f.report? states s.data = none := Validator.isEmpty_standard
  have hcounted : (∀ f ∈ d.fields, f.report? states s.data = none) ↔
      ∀ f ∈ d.fields, f.counts states →
        (f.failure? ((states.get? f.id).any (·.required)) (s.data.get? f.id)).value = none :=
    forall₂_congr fun f _ => by simp [Field.report?]
  simp only [outcome, after, hsubmit]
  rw [← hcounted, ← hreports]
  split
  case isTrue hempty =>
    refine ⟨iff_of_true rfl hempty, fun submission h => ?_, nofun, rfl, rfl, rfl, hfinalized, rfl⟩
    cases h
    exact isSubmission_build hids (hreports.mp hempty)
  case isFalse hempty =>
    refine ⟨iff_of_false nofun hempty, nofun, fun errors h => ?_, rfl, rfl, rfl, hfinalized, rfl⟩
    cases h
    refine ⟨Bool.not_eq_true _ ▸ hempty, fun id hid => ?_⟩
    obtain ⟨f, hf, hfid, hreport⟩ := Validator.mem_keys_standard.mp hid
    exact ⟨f, hf, hfid, Field.counts_of_report? hreport⟩

/-- The order form with its rule on bulk orders accepts an order of twelve pieces. -/
theorem submit_sound_complete_order :
    let d : Document := { Sample.order with logic := { rules := [Sample.bulkShipping] } }
    let ops : List Operation := [.load (.ofList [("qty", .int 12), ("price", .text "9.5")])]
    (d.fields.map (·.id)).Nodup ∧
    let w := d.setup "session" fun _ => .epoch
    let s := (w.performAll (w.start { id := "order" }).value ops).value.2
    (w.submit s).value.1.isAccepted ∧
    ∀ submission, (w.submit s).value.1 = .accepted submission →
      IsSubmission d.fields s.evaluation.states s.data submission :=
  ⟨by decide, by decide +kernel, (submit_sound_complete _ (by decide) _ _ _ _).2.1⟩

end LiveForm
