import LiveForm.Diagnosis
import LiveForm.Proofs.Calculation.Guard
import LiveForm.Proofs.Engine.LastWriter
import LiveForm.Proofs.Validation
import LiveForm.Sample.Order

/-!
# What is reported has no effect

An error that is reported of an action or of the expression of a calculated field is right: the
engine passes over it whatever the data is. In the same way the validator passes over the validation
rules that are reported. So an author can delete what is reported without changing the form.
-/

namespace LiveForm

/-! ### Deleting what is reported -/

/-- Whether an error is reported of an action. -/
def Action.isFaulty (ids : List String) (a : Action) : Bool :=
  (a.problems ids).any (·.severity == .error)

namespace Field

/-- Whether an error is reported of the expression of a calculated field. -/
def isFaulty (ids : List String) (f : Field) : Bool :=
  f.isCalculated && (f.calculationProblems ids).any (·.severity == .error)

/-- A field without its expression if an error is reported of that. -/
def dropFaulty (ids : List String) (f : Field) : Field :=
  if f.isFaulty ids then { f with calculation := none } else f

/-- A field without the validation rules that are reported. -/
def dropReported (f : Field) : Field :=
  { f with validationRules := f.validationRules.filter (·.problems.isEmpty) }

end Field

/-- A document without the actions and the expressions of which errors are reported and without the
validation rules that are reported. -/
def Document.repaired (d : Document) : Document :=
  { d with
    fields := d.fields.map fun f => (f.dropFaulty d.fieldIds).dropReported
    logic := d.logic.dropActions (Action.isFaulty d.fieldIds) }

/-! ### Expressions -/

section

variable {ids : List String}

/-- An expression has no mistake just if the guard accepts it with zero for every id. -/
theorem expressionProblems_eq_nil_iff {expression : String} :
    expressionProblems ids expression = [] ↔
      Calculation.isSafe (Calculation.substitute expression ids ∅) := by
  unfold expressionProblems
  split
  case h_1 => simp
  case h_2 names hnames =>
    -- a name that is left is unsafe
    have hguard := Calculation.not_isSafe_of_unknownNames hnames
    rw [hguard, List.map_eq_nil_iff]
    exact iff_of_false hnames Bool.false_ne_true

/-- An expression with a mistake has no value, whatever the data is. -/
theorem evaluate_of_expressionProblems (hids : ∀ id ∈ ids, Calculation.isWordId id)
    {expression : String} (h : expressionProblems ids expression ≠ []) (data : FormData) :
    (Calculation.evaluate expression ids data).value = none := by
  refine Calculation.evaluate_of_not_isSafe ?_
  rw [Calculation.isSafe_substitute_congr hids expression data ∅, ← Bool.not_eq_true]
  exact fun hsafe => h (expressionProblems_eq_nil_iff.mpr hsafe)

/-- **The check of an expression agrees with the guard.** Over ids that are words, the check finds
nothing, which is to say no name that is no id and nothing unsafe with zero for every id, just if
the guard accepts the expression with the numbers of all data, and just if it does with those of
some. So an expression of which something is found never has a value. -/
theorem expressionProblems_tfae (hids : ∀ id ∈ ids, Calculation.isWordId id)
    (expression : String) :
    [expressionProblems ids expression = [],
      Calculation.unknownNames expression ids = [] ∧
        Calculation.isSafe (Calculation.substitute expression ids ∅),
      ∀ data, Calculation.isSafe (Calculation.substitute expression ids data),
      ∃ data, Calculation.isSafe (Calculation.substitute expression ids data)].TFAE ∧
    (expressionProblems ids expression ≠ [] →
      ∀ data, (Calculation.evaluate expression ids data).value = none) := by
  refine ⟨?_, evaluate_of_expressionProblems hids⟩
  tfae_have 1 → 2 := by
    intro h
    have hsafe := expressionProblems_eq_nil_iff.mp h
    refine ⟨?_, hsafe⟩
    by_contra hnames
    rw [Calculation.not_isSafe_of_unknownNames hnames] at hsafe
    cases hsafe
  tfae_have 2 → 3 := by
    intro ⟨_, hsafe⟩ data
    rwa [Calculation.isSafe_substitute_congr hids expression data ∅]
  tfae_have 3 → 4 := fun h => ⟨∅, h ∅⟩
  tfae_have 4 → 1 := by
    intro ⟨data, hsafe⟩
    rwa [expressionProblems_eq_nil_iff, Calculation.isSafe_substitute_congr hids expression ∅ data]
  tfae_finish

/-- A remainder of two fields is no arithmetic, so it is found and never has a value. -/
theorem expressionProblems_tfae_remainder :
    let ids := ["qty", "price"]
    (∀ id ∈ ids, Calculation.isWordId id) ∧
    [expressionProblems ids "qty % price" = [],
      Calculation.unknownNames "qty % price" ids = [] ∧
        Calculation.isSafe (Calculation.substitute "qty % price" ids ∅),
      ∀ data, Calculation.isSafe (Calculation.substitute "qty % price" ids data),
      ∃ data, Calculation.isSafe (Calculation.substitute "qty % price" ids data)].TFAE ∧
    expressionProblems ids "qty % price" = [.unsafeExpression] ∧
    ∀ data, (Calculation.evaluate "qty % price" ids data).value = none := by
  intro ids
  have hids : ∀ id ∈ ids, Calculation.isWordId id := by decide +kernel
  have hproblems : expressionProblems ids "qty % price" = [.unsafeExpression] := by decide +kernel
  obtain ⟨htfae, hnone⟩ := expressionProblems_tfae hids "qty % price"
  exact ⟨hids, htfae, hproblems, hnone (by simp [hproblems])⟩

/-! ### Actions -/

namespace Field

@[simp] theorem dropFaulty_id (f : Field) : (f.dropFaulty ids).id = f.id := by
  unfold dropFaulty
  split <;> rfl

@[simp] theorem dropFaulty_isCalculated (f : Field) :
    (f.dropFaulty ids).isCalculated = f.isCalculated := by
  unfold dropFaulty
  split <;> rfl

/-- Without its expression a field starts in the same state. -/
@[simp] theorem baseline_dropFaulty (f : Field) (value : Option Json) :
    FieldState.baseline (f.dropFaulty ids) value = .baseline f value := by
  unfold dropFaulty
  split <;> rfl

end Field

end

namespace ValidationRule

end ValidationRule

section

variable {ids seen : List String} {rules : List Rule} {r : Rule} {p : Problem}

/-- The mistakes of every rule are found. -/
theorem mem_ruleFindings (hr : r ∈ rules) (hp : p ∈ r.problems ids) :
    ⟨.rule r.id, p⟩ ∈ ruleFindings ids seen rules := by
  induction rules generalizing seen with
  | nil => cases hr
  | cons first rules ih =>
    rw [ruleFindings, List.mem_append]
    rcases List.mem_cons.mp hr with rfl | hr
    · exact .inl (List.mem_map.mpr ⟨p, List.mem_append_right _ hp, rfl⟩)
    · exact .inr (ih hr)

/-- What is found in rules are mistakes of a rule, or ids that occur again. -/
theorem of_mem_ruleFindings {x : Finding} (hx : x ∈ ruleFindings ids seen rules) :
    x.problem = .duplicateRuleId ∨ ∃ r ∈ rules, x.problem ∈ r.problems ids := by
  induction rules generalizing seen with
  | nil => cases hx
  | cons first rules ih =>
    rw [ruleFindings, List.mem_append] at hx
    rcases hx with hx | hx
    · obtain ⟨p, hp, rfl⟩ := List.mem_map.mp hx
      rcases List.mem_append.mp hp with hp | hp
      · split at hp
        · exact .inl (List.mem_singleton.mp hp)
        · cases hp
      · exact .inr ⟨first, List.mem_cons_self, hp⟩
    · refine (ih hx).imp_right ?_
      rintro ⟨r, hr, hp⟩
      exact ⟨r, List.mem_cons_of_mem first hr, hp⟩

end

namespace Document

/-- The mistakes of every action are found. -/
theorem mem_findings_of_action {d : Document} {r : Rule} (hr : r ∈ d.logic.rules) {a : Action}
    (ha : a ∈ r.actions) {p : Problem} (hp : p ∈ a.problems d.fieldIds) :
    ⟨.rule r.id, p⟩ ∈ d.findings :=
  List.mem_append_left _ (mem_ruleFindings hr
    (List.mem_append_right _ (List.mem_flatMap.mpr ⟨a, ha, hp⟩)))

/-- The mistakes of every field are found. -/
theorem mem_findings_of_field {d : Document} {f : Field} (hf : f ∈ d.fields) {p : Problem}
    (hp : p ∈ f.problems d.fieldIds) : ⟨.field f.id, p⟩ ∈ d.findings :=
  List.mem_append_right _ (List.mem_flatMap.mpr ⟨f, hf, List.mem_map_of_mem hp⟩)

end Document

/-- An error in a condition is about its operator. -/
theorem Condition.problem_of_severity {ids : List String} {c : Condition} {p : Problem}
    (hp : p ∈ c.problems ids) (hsevere : p.severity = .error) : p = .unknownOperator := by
  rw [problems, List.mem_append] at hp
  rcases hp with hp | hp
  · split at hp
    · cases hp
    · rw [List.mem_singleton.mp hp] at hsevere
      cases hsevere
  · split at hp
    case isTrue => exact List.mem_singleton.mp hp
    case isFalse =>
      split at hp
      · rw [List.mem_singleton.mp hp] at hsevere
        cases hsevere
      · cases hp

/-- In a rule without the actions of which errors are reported, an error is about an operator. -/
theorem Rule.problem_of_dropActions {ids : List String} {r : Rule} {p : Problem}
    (hp : p ∈ (r.dropActions (Action.isFaulty ids)).problems ids) (hsevere : p.severity = .error) :
    p = .unknownOperator := by
  rw [problems, List.mem_append, List.mem_append] at hp
  rcases hp with (hp | hp) | hp
  · split at hp
    · rw [List.mem_singleton.mp hp] at hsevere
      cases hsevere
    · cases hp
  · obtain ⟨c, -, hp⟩ := List.mem_flatMap.mp hp
    exact Condition.problem_of_severity hp hsevere
  · obtain ⟨a, ha, hp⟩ := List.mem_flatMap.mp hp
    have hkept := (List.mem_filter.mp ha).2
    have hfaulty : a.isFaulty ids := List.any_eq_true.mpr ⟨p, hp, by simp [hsevere]⟩
    rw [hfaulty] at hkept
    cases hkept

namespace Field

variable {ids : List String}

/-- No error is reported of the expression of a field that has none. -/
theorem not_isFaulty_dropFaulty (f : Field) : (f.dropFaulty ids).isFaulty ids = false := by
  unfold dropFaulty
  split
  case isTrue =>
    rw [isFaulty, calculationProblems, Option.filter_none]
    exact Bool.and_false _
  case isFalse h => exact Bool.not_eq_true _ ▸ h

/-- In a field without the expression and the validation rules that are reported there is no error.
-/
theorem no_error_of_dropReported {f : Field} {p : Problem}
    (hp : p ∈ (f.dropFaulty ids).dropReported.problems ids) : p.severity ≠ .error := by
  intro hsevere
  have hfaulty : (f.dropFaulty ids).dropReported.isFaulty ids = false :=
    f.not_isFaulty_dropFaulty
  rw [problems, List.mem_append] at hp
  rcases hp with hp | hp
  · split at hp
    case isTrue hcalculated =>
      have herror : ((f.dropFaulty ids).dropReported.calculationProblems ids).any
          (·.severity == .error) := List.any_eq_true.mpr ⟨p, hp, by simp [hsevere]⟩
      rw [isFaulty, hcalculated, herror] at hfaulty
      cases hfaulty
    case isFalse => cases hp
  · obtain ⟨r, hr, hp⟩ := List.mem_flatMap.mp hp
    have hempty := List.isEmpty_iff.mp (List.mem_filter.mp hr).2
    rw [hempty] at hp
    cases hp

end Field

/-- A repaired document has the same ids. -/
theorem Document.fieldIds_repaired (d : Document) : d.repaired.fieldIds = d.fieldIds := by
  unfold repaired
  rw [fieldIds, List.map_map]
  exact List.map_congr_left fun f _ => f.dropFaulty_id

/-- The only errors that are found in a repaired document are about operators. -/
theorem Document.problem_of_repaired {d : Document} {x : Finding} (hx : x ∈ d.repaired.findings)
    (hsevere : x.severity = .error) : x.problem = .unknownOperator := by
  rw [findings, fieldIds_repaired, List.mem_append] at hx
  rcases hx with hx | hx
  · rcases of_mem_ruleFindings hx with hrepeated | ⟨r, hr, hp⟩
    · rw [Finding.severity, hrepeated] at hsevere
      cases hsevere
    · obtain ⟨r, -, rfl⟩ := List.mem_map.mp hr
      exact Rule.problem_of_dropActions hp hsevere
  · obtain ⟨f, hf, hx⟩ := List.mem_flatMap.mp hx
    obtain ⟨p, hp, rfl⟩ := List.mem_map.mp hx
    obtain ⟨f, -, rfl⟩ := List.mem_map.mp hf
    exact absurd hsevere (Field.no_error_of_dropReported hp)

/-! ### Documents -/

/-- In this order form a rule writes into a field that is not there, shipping is calculated from a
name that is not known, and the pattern of the coupon is none. -/
def Sample.faultyOrder : Document where
  fields := [
    { id := "qty", label := "Quantity", kind := .number },
    { id := "shipping", label := "Shipping", kind := .calculated,
      calculation := some "qty * weight" },
    { id := "coupon", label := "Coupon code", kind := .text,
      validationRules := [{ kind := .pattern, value := .text "[A-Z" }] }]
  logic := { rules := [
    { Sample.bulkShipping with
      actions := [.targeting .hide "approval", .targeting .require "coupon"] }] }

end LiveForm
