import LiveForm.Proofs.Submission
import LiveForm.Sample.Contact
import LiveForm.Session

/-!
# Hidden values stay inside

Validation and submission look at the values of the fields that count. So two people whose data
differs in hidden fields, in fields that are only displayed, or under ids that no field has, are
told the same and submit the same, even where several fields have one id.
-/

namespace LiveForm

/-- What validation reports depends on the values of the fields that count. -/
theorem Validator.standard_congr {fields : List Field} {states : FieldStates}
    {data data' : FormData}
    (h : ∀ f ∈ fields, f.counts states → data.get? f.id = data'.get? f.id) :
    (standard fields states data).value = (standard fields states data').value := by
  rw [standard_value, standard_value]
  congr 1
  refine List.filterMap_congr fun f hf => ?_
  rw [Field.report?_congr (h f hf)]

/-- Two sets of data that agree on the fields which are shown and take answers lead to the same
errors, the same submission, and the same outcome of a submit, whatever they have elsewhere. -/
theorem submit_secrecy {fields : List Field} {states : FieldStates} {data data' : FormData}
    (h : ∀ f ∈ fields, f.counts states → data.get? f.id = data'.get? f.id) :
    (Validator.standard fields states data).value =
      (Validator.standard fields states data').value ∧
    (Submission.build fields states data).value =
      (Submission.build fields states data').value ∧
    ∀ (σ : Type) (w : Setup σ) (s s' : Session σ),
      w.fields = fields → w.validator = Validator.standard →
      s.evaluation.states = states → s.data = data →
      s'.evaluation.states = states → s'.data = data' →
        (w.submit s).value.1 = (w.submit s').value.1 := by
  have herrors := Validator.standard_congr h
  have hsubmission := Submission.build_congr h
  refine ⟨herrors, hsubmission, ?_⟩
  rintro σ w s s' rfl hvalidator rfl rfl hstates rfl
  have hvalidate : (w.validate s).value = (w.validate s').value := by
    rw [Setup.validate, Setup.validate, hvalidator, hstates]
    exact herrors
  rw [Setup.submit_value, Setup.submit_value, hvalidate, hstates, hsubmission]
  split <;> rfl

/-- Of two inquiries about support one has a company left over from an inquiry about sales. -/
theorem submit_secrecy_contact :
    let data : FormData := .ofList [
      ("name", .text "Ada"), ("email", .text "ada@example.org"), ("inquiry_type", .text "Support"),
      ("message", .text "It does not start.")]
    let data' := data.insert "company" (.text "Analytical Engines")
    let rules : RuleSet := { rules := [Sample.supportTicket] }
    let states := (priorityEngine Sample.contactFields rules data).value.states
    data ≠ data' ∧
    (∀ f ∈ Sample.contactFields, f.counts states → data.get? f.id = data'.get? f.id) ∧
    (Submission.build Sample.contactFields states data).value =
      (Submission.build Sample.contactFields states data').value := by
  intro data data' rules states
  have h : ∀ f ∈ Sample.contactFields, f.counts states → data.get? f.id = data'.get? f.id := by
    decide +kernel
  exact ⟨by decide +kernel, h, (submit_secrecy h).2.1⟩

end LiveForm
