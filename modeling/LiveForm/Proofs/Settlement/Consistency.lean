import LiveForm.Proofs.Calculation.Dependence
import LiveForm.Proofs.Engine.Turn
import LiveForm.Proofs.Settlement.Trajectory

/-!
# Calculated values of settled data

A calculated field is evaluated over data that is still being written: the calculated fields behind
it have the values that the actions have left. If the run leaves the data as it was, these are the
values that they end up with, unless a rule writes them in between. So in settled data a calculated
field has the value of its expression over that data, as long as the expression does not depend on a
calculated field, itself or one behind it, that a rule which fires writes as well.
-/

namespace LiveForm

/-- The ids of those calculated fields, a given one or behind it, whose value some enabled rule
writes as well. -/
def rewrittenFrom (fields : List Field) (rules : RuleSet) (c : Field) : Set String :=
  {id | ∃ f ∈ fields, f.isCalculated ∧ f.id = id ∧ ¬f.Precedes fields c ∧ rules.Writes id}

section

variable {fields : List Field} {rules : RuleSet} {data : FormData} {c : Field}
  {expression : String} {x : Float}

/-- In a run that leaves the data as it was, a calculated field reads the numbers that the data ends
up with, but for those that rules write from it on. -/
theorem readNumber_dataAtTurn (hids : (fields.map (·.id)).Nodup) (hc : c ∈ fields)
    (hcalculated : c.isCalculated)
    (hsame : sameData (priorityEngine fields rules data).value.formData data) {id : String}
    (hid : id ∉ rewrittenFrom fields
      (rules.among (priorityEngine fields rules data).value.firedRules) c) :
    Calculation.readNumber (dataAtTurn fields rules data c) id =
      Calculation.readNumber (priorityEngine fields rules data).value.formData id := by
  by_cases hbefore : ∀ f ∈ fields, f.isCalculated → f.id = id → f.Precedes fields c
  · -- a calculated field before it, or no calculated field: the value is final
    unfold Calculation.readNumber Calculation.numberOf
    rw [get?_dataAtTurn hids hc hcalculated hbefore]
  · -- the field itself or one behind it: the value is what the run started with
    push Not at hbefore
    obtain ⟨f, hf, hfcalculated, rfl, hprecedes⟩ := hbefore
    have hstart : (dataAtTurn fields rules data c).get? f.id = data.get? f.id := by
      rw [get?_dataAtTurn_of_not_precedes, get?_dataAfterActions_of_firedRules fun hwrites =>
        hid ⟨f, hf, hfcalculated, rfl, hprecedes, hwrites⟩]
      intro g hg _ heq
      rwa [List.inj_on_of_nodup_map hids hg hf heq]
    refine (Calculation.readNumber_of_sameValue ?_).symm
    rw [hstart]
    exact sameValue_of_sameData hsame f.id

/-- In a run that leaves the data as it was, a calculated field gets the value that its expression
has over the data that comes out. -/
theorem get?_formData_of_sameData (hids : (fields.map (·.id)).Nodup) (hc : c ∈ fields)
    (hcalculated : c.isCalculated) (hexpression : c.calculation = some expression)
    (hignores : Calculation.Ignores expression (fields.map (·.id)) (rewrittenFrom fields
      (rules.among (priorityEngine fields rules data).value.firedRules) c))
    (hsame : sameData (priorityEngine fields rules data).value.formData data)
    (hx : (Calculation.evaluate expression (fields.map (·.id))
      (priorityEngine fields rules data).value.formData).value = some x) :
    (priorityEngine fields rules data).value.formData.get? c.id = some (.ofNumber x) := by
  have hturn := hignores (dataAtTurn fields rules data c) _ fun id hid =>
    readNumber_dataAtTurn hids hc hcalculated hsame hid
  rw [get?_calculated hids hc hcalculated, Working.refreshed, hexpression, Option.bind_some, hturn,
    hx]
  simp

end

/-- In data that has settled, a calculated field holds the value that its expression has over that
data, if there is one and the expression does not depend on the value of itself or of a calculated
field behind it that a rule which has fired writes. -/
theorem settle_calculated {fields : List Field} (hids : (fields.map (·.id)).Nodup)
    {rules : RuleSet} {data : FormData}
    (hconverged : (settle priorityEngine fields rules data).value.converged) {c : Field}
    (hc : c ∈ fields) (hcalculated : c.isCalculated) {expression : String}
    (hexpression : c.calculation = some expression)
    (hignores : Calculation.Ignores expression (fields.map (·.id)) (rewrittenFrom fields
      (rules.among (settle priorityEngine fields rules data).value.evaluation.firedRules) c))
    {x : Float}
    (hx : (Calculation.evaluate expression (fields.map (·.id))
      (settle priorityEngine fields rules data).value.evaluation.formData).value = some x) :
    (settle priorityEngine fields rules data).value.evaluation.formData.get? c.id =
      some (.ofNumber x) := by
  have hs := settle_stopsWithin priorityEngine fields rules data
  have hsame := hs.converged_eq ▸ hconverged
  rw [← hs.formData_eq, hs.evaluation_eq] at hsame
  rw [hs.evaluation_eq] at hignores hx ⊢
  exact get?_formData_of_sameData hids hc hcalculated hexpression hignores hsame hx

/-- The total of an order of twelve pieces, which ships free by a rule. -/
theorem settle_calculated_dozen :
    let total : Field :=
      { id := "total", label := "Total", kind := .calculated,
        calculation := some "subtotal + shipping" }
    (Sample.orderFields.map (·.id)).Nodup ∧ total ∈ Sample.orderFields ∧
    (settle priorityEngine Sample.orderFields Sample.bulkRules Sample.dozen).value.converged ∧
    Calculation.Ignores "subtotal + shipping" (Sample.orderFields.map (·.id))
      (rewrittenFrom Sample.orderFields (Sample.bulkRules.among
        (settle priorityEngine Sample.orderFields Sample.bulkRules
          Sample.dozen).value.evaluation.firedRules) total) ∧
    (Calculation.evaluate "subtotal + shipping" (Sample.orderFields.map (·.id))
      (settle priorityEngine Sample.orderFields Sample.bulkRules
        Sample.dozen).value.evaluation.formData).value = some 114.0 ∧
    (settle priorityEngine Sample.orderFields Sample.bulkRules
      Sample.dozen).value.evaluation.formData.get? "total" = some (.ofNumber 114.0) := by
  intro total
  have hids : (Sample.orderFields.map (·.id)).Nodup := by decide
  have hmem : total ∈ Sample.orderFields := by decide
  have hconverged : (settle priorityEngine Sample.orderFields Sample.bulkRules
    Sample.dozen).value.converged = true := by decide +kernel
  have hwords : ∀ id ∈ Sample.orderFields.map (·.id), Calculation.isWordId id := by decide +kernel
  have hwrites : ∀ f ∈ Sample.orderFields, f.isCalculated → ¬Sample.bulkRules.Writes f.id := by
    decide +kernel
  have hignores : Calculation.Ignores "subtotal + shipping" (Sample.orderFields.map (·.id))
      (rewrittenFrom Sample.orderFields (Sample.bulkRules.among
        (settle priorityEngine Sample.orderFields Sample.bulkRules
          Sample.dozen).value.evaluation.firedRules) total) :=
    (Calculation.ignores_unmentioned hwords _).mono fun _ ⟨f, hf, hcalculated, heq, _, hid⟩ =>
      absurd (heq ▸ hid).of_among (hwrites f hf hcalculated)
  have hx : (Calculation.evaluate "subtotal + shipping" (Sample.orderFields.map (·.id))
    (settle priorityEngine Sample.orderFields Sample.bulkRules
      Sample.dozen).value.evaluation.formData).value = some 114.0 := by decide +kernel
  exact ⟨hids, hmem, hconverged, hignores, hx,
    settle_calculated hids hconverged hmem rfl rfl hignores hx⟩

/-- A total before the fee that it adds up, a fee that a rule sets although it is calculated, and a
count that goes on from its own value. -/
def Sample.feeFields : List Field := [
  { id := "total", label := "Total", kind := .calculated, calculation := some "fee + 1" },
  { id := "fee", label := "Fee", kind := .calculated, calculation := some "10" },
  { id := "count", label := "Count", kind := .calculated, calculation := some "count + 1" },
  { id := "note", label := "Note", kind := .text }]

/-- Without a note the fee is five and the count starts again. -/
def Sample.feeRules : RuleSet where
  rules := [{
    id := "no-note"
    conditions := [{ fieldId := "note", operator := .isEmpty }]
    actions := [
      { kind := .setValue, targetFieldId := some "fee", value := some (.int 5) },
      { kind := .setValue, targetFieldId := some "count", value := some (.int 1) }] }]

/-- Where a rule writes a calculated field, settled data may hold other values than the expressions
have over it: here the total is 6 and not 11, and the count is 2 and not 3. -/
theorem settle_calculated_rewritten :
    (Sample.feeFields.map (·.id)).Nodup ∧
    (settle priorityEngine Sample.feeFields Sample.feeRules ∅).value.converged ∧
    (Calculation.evaluate "fee + 1" (Sample.feeFields.map (·.id))
      (settle priorityEngine Sample.feeFields Sample.feeRules
        ∅).value.evaluation.formData).value = some 11.0 ∧
    (settle priorityEngine Sample.feeFields Sample.feeRules
      ∅).value.evaluation.formData.get? "total" ≠ some (.ofNumber 11.0) ∧
    (Calculation.evaluate "count + 1" (Sample.feeFields.map (·.id))
      (settle priorityEngine Sample.feeFields Sample.feeRules
        ∅).value.evaluation.formData).value = some 3.0 ∧
    (settle priorityEngine Sample.feeFields Sample.feeRules
      ∅).value.evaluation.formData.get? "count" ≠ some (.ofNumber 3.0) := by
  decide +kernel

end LiveForm
