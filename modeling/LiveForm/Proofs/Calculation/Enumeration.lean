import LiveForm.Proofs.Calculation.Simultaneous
import LiveForm.Proofs.Diagnosis

/-!
# Ids in any order

The ids of a form are a set: they may come in any order and more than once. An id is put into its
place before ids are replaced, so one set of ids has one order of replacement, and whatever a
calculation yields, whatever names are left in it and whatever is found in a document do not depend
on how the ids are listed. What other data there is does not matter either.
-/

namespace LiveForm

namespace Calculation

variable {ids ids' : List String}

/-- No id is replaced before itself. -/
theorem not_goesBefore_self (id : String) : ¬goesBefore id id := by
  simp [goesBefore]

/-- Each id is replaced once. -/
theorem nodup_replacementOrder (ids : List String) : (replacementOrder ids).Nodup := by
  refine (pairwise_replacementOrder ids).imp fun {a b} hbefore heq => ?_
  rw [heq] at hbefore
  exact not_goesBefore_self b hbefore

/-- Ids are replaced in one order, however they are listed. -/
theorem replacementOrder_congr (h : ∀ id, id ∈ ids ↔ id ∈ ids') :
    replacementOrder ids = replacementOrder ids' := by
  have hmem : ∀ id, id ∈ replacementOrder ids ↔ id ∈ replacementOrder ids' := by
    intro id
    rw [mem_replacementOrder, mem_replacementOrder, h id]
  have hperm : (replacementOrder ids).Perm (replacementOrder ids') :=
    (List.perm_ext_iff_of_nodup (nodup_replacementOrder ids) (nodup_replacementOrder ids')).mpr hmem
  -- of two different ids only one goes before the other, so there is one sorted list
  refine hperm.eq_of_pairwise (fun a b _ _ hab hba => ?_) (pairwise_replacementOrder ids)
    (pairwise_replacementOrder ids')
  exact absurd (goesBefore_trans hab hba) (not_goesBefore_self a)

/-- Numbers are put in alike, however the ids are listed. -/
theorem substitute_enumerated (h : ∀ id, id ∈ ids ↔ id ∈ ids') (expression : String)
    (data : FormData) : substitute expression ids data = substitute expression ids' data := by
  rw [substitute, substitute, replacementOrder_congr h]

/-- The same names are left, however the ids are listed. -/
theorem unknownNames_enumerated (h : ∀ id, id ∈ ids ↔ id ∈ ids') (expression : String) :
    unknownNames expression ids = unknownNames expression ids' := by
  rw [unknownNames, unknownNames, substitute_enumerated h]

/-- The value of an expression is the same, however the ids are listed. -/
theorem evaluate_enumerated (h : ∀ id, id ∈ ids ↔ id ∈ ids') (expression : String)
    (data : FormData) : evaluate expression ids data = evaluate expression ids' data := by
  rw [evaluate, evaluate, substitute_enumerated h]

end Calculation

/-! ### Documents -/

/-- The findings in a document when its ids are listed in some way. -/
def Document.findingsOver (d : Document) (ids : List String) : List Finding :=
  ruleFindings ids [] d.logic.rules ++
    d.fields.flatMap fun f => (f.problems ids).map (Finding.mk (.field f.id))

/-- The findings in a document are those over its ids in the order of the fields. -/
theorem Document.findings_eq (d : Document) : d.findings = d.findingsOver d.fieldIds := rfl

section

variable {ids ids' : List String} (h : ∀ id, id ∈ ids ↔ id ∈ ids')

include h

/-- An id is found in one list just if it is in the other. -/
theorem contains_enumerated (id : String) : ids.contains id = ids'.contains id := by
  rw [Bool.eq_iff_iff, List.contains_iff_mem, List.contains_iff_mem]
  exact h id

/-- An expression has the same mistakes. -/
theorem expressionProblems_enumerated (expression : String) :
    expressionProblems ids expression = expressionProblems ids' expression := by
  rw [expressionProblems, expressionProblems, Calculation.unknownNames_enumerated h,
    Calculation.substitute_enumerated h]

/-- An action has the same mistakes. -/
theorem Action.problems_enumerated (a : Action) : a.problems ids = a.problems ids' := by
  have heffect (target : String) : a.effectProblems ids target = a.effectProblems ids' target := by
    simp only [effectProblems, expressionProblems_enumerated h]
  simp only [problems, contains_enumerated h, heffect]

/-- A rule has the same mistakes. -/
theorem Rule.problems_enumerated (r : Rule) : r.problems ids = r.problems ids' := by
  have hconditions : Condition.problems ids = Condition.problems ids' := by
    funext c
    simp only [Condition.problems, contains_enumerated h]
  have hactions : Action.problems ids = Action.problems ids' :=
    funext fun a => a.problems_enumerated h
  rw [problems, problems, hconditions, hactions]

/-- A field has the same mistakes. -/
theorem Field.problems_enumerated (f : Field) : f.problems ids = f.problems ids' := by
  simp only [problems, calculationProblems, expressionProblems_enumerated h]

/-- The same is found in rules. -/
theorem ruleFindings_enumerated (seen : List String) (rules : List Rule) :
    ruleFindings ids seen rules = ruleFindings ids' seen rules := by
  induction rules generalizing seen with
  | nil => rfl
  | cons r rules ih => rw [ruleFindings, ruleFindings, r.problems_enumerated h, ih]

/-- The same is found in a document. -/
theorem Document.findingsOver_enumerated (d : Document) :
    d.findingsOver ids = d.findingsOver ids' := by
  simp only [findingsOver, ruleFindings_enumerated h, Field.problems_enumerated h]

end

/-- **Ids are a set.** Two lists of the same ids, in any order and with any repetitions, give an
expression the same text, the same value and the same names that are left, over all data that has
the same values for these ids. So a document has the same findings in the same order, whatever the
order in which its ids are listed. -/
theorem findings_enumerated {ids ids' : List String} (h : ∀ id, id ∈ ids ↔ id ∈ ids') :
    (∀ data data' : FormData, (∀ id ∈ ids, data.get? id = data'.get? id) → ∀ expression,
      Calculation.substitute expression ids data = Calculation.substitute expression ids' data' ∧
      Calculation.evaluate expression ids data = Calculation.evaluate expression ids' data' ∧
      Calculation.unknownNames expression ids = Calculation.unknownNames expression ids') ∧
    ∀ d : Document, d.fieldIds = ids → d.findings = d.findingsOver ids' := by
  refine ⟨fun data data' hdata expression => ⟨?substitute, ?evaluate, ?names⟩, fun d hd => ?findings⟩
  case substitute =>
    rw [Calculation.substitute_congr hdata, Calculation.substitute_enumerated h]
  case evaluate => rw [Calculation.evaluate_congr hdata, Calculation.evaluate_enumerated h]
  case names => exact Calculation.unknownNames_enumerated h expression
  case findings => rw [d.findings_eq, hd, d.findingsOver_enumerated h]

/-- The ids of an order form with mistakes in it may come in another order, and one of them twice. -/
theorem findings_enumerated_faultyOrder :
    let d := Sample.faultyOrder
    let ids := ["qty", "shipping", "coupon"]
    let ids' := ["coupon", "qty", "shipping", "qty"]
    let data : FormData := .ofList [("qty", .int 3)]
    let data' : FormData := .ofList [("weight", .int 9), ("qty", .int 3)]
    (∀ id, id ∈ ids ↔ id ∈ ids') ∧ (∀ id ∈ ids, data.get? id = data'.get? id) ∧
    d.fieldIds = ids ∧
    Calculation.substitute "qty*(weight-qty)" ids data =
      Calculation.substitute "qty*(weight-qty)" ids' data' ∧
    Calculation.unknownNames "qty*(weight-qty)" ids' = ["weight"] ∧
    d.findings = d.findingsOver ids' := by
  intro d ids ids' data data'
  have hids : ∀ id, id ∈ ids ↔ id ∈ ids' := by
    intro id
    simp only [ids, ids', List.mem_cons, List.not_mem_nil, or_false]
    tauto
  have hdata : ∀ id ∈ ids, data.get? id = data'.get? id := by decide
  have hfields : d.fieldIds = ids := rfl
  obtain ⟨hcalculations, hfindings⟩ := findings_enumerated hids
  exact ⟨hids, hdata, hfields, (hcalculations data data' hdata _).1, by decide +kernel,
    hfindings d hfields⟩

end LiveForm
