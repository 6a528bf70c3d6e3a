import LiveForm.Diagnosis
import LiveForm.Proofs.Calculation.Simultaneous
import LiveForm.Proofs.Engine.LastWriter
import LiveForm.Proofs.Engine.Turn
import LiveForm.Sample.Order

/-!
# Actions without a hint

An action that skips or shows a message is reported if it adds no hint when its rule fires, and if
it adds one it is not. There is one exception: a value that is not null but has no text, such as an
empty list, is taken for a hint by the check, and the engine finds none in it.
-/

namespace LiveForm

/-! ### Values without a text -/

namespace Json

/-- A value reads as no text: null, an empty text, an empty list, or a list with one such value. -/
inductive IsBlank : Json → Prop
  | null : IsBlank .null
  | text : IsBlank (.text "")
  | empty : IsBlank (.list [])
  | singleton {v : Json} (h : IsBlank v) : IsBlank (.list [v])

/-- A number has a text. -/
theorem numberText_ne_empty (x : Float) : numberText x ≠ "" := by
  rw [Ne, ← String.toList_eq_nil_iff]
  intro hnil
  unfold numberText at hnil
  split at hnil
  case h_1 n _ =>
    have hdigits (m : Nat) : (Nat.repr m).toList ≠ [] := by
      rw [Nat.toList_repr]
      exact Nat.toDigits_ne_nil
    rw [Int.toString_eq_repr, Int.repr_eq_if] at hnil
    split at hnil
    · exact hdigits _ hnil
    · simp at hnil
  case h_2 =>
    have hsize : Decimal.plainLayout.size x ≠ [] := by
      intro hsize
      have hdigit := Calculation.any_isDigit_size x
      rw [hsize] at hdigit
      cases hdigit
    unfold Decimal.Layout.render at hnil
    split at hnil
    · simp at hnil
    · rw [String.toList_ofList, List.append_eq_nil_iff] at hnil
      obtain ⟨-, hnil⟩ := hnil
      split at hnil
      · cases hnil
      · exact hsize hnil

/-- Several texts with commas between them are never empty. -/
theorem intercalate_cons_cons_ne_empty (s t : String) (texts : List String) :
    String.intercalate "," (s :: t :: texts) ≠ "" := by
  rw [String.intercalate_cons_cons, Ne, String.append_eq_empty_iff, String.append_eq_empty_iff]
  rintro ⟨⟨-, hcomma⟩, -⟩
  exact absurd hcomma (by decide)

/-- The values that read as no text are the blank ones. -/
theorem plainText_eq_empty_iff (v : Json) : v.plainText = "" ↔ v.IsBlank := by
  induction v using induct with
  | null => exact iff_of_true rfl .null
  | bool b =>
    refine iff_of_false ?_ nofun
    cases b <;> exact nofun
  | int n => exact iff_of_false (numberText_ne_empty _) nofun
  | float x => exact iff_of_false (numberText_ne_empty x) nofun
  | text s =>
    constructor
    · rintro rfl
      exact .text
    · rintro ⟨⟩
      rfl
  | list items ih =>
    match items with
    | [] => exact iff_of_true rfl .empty
    | [v] =>
      have hv := ih v List.mem_cons_self
      rw [plainText, plainTexts, plainTexts, String.intercalate_singleton, hv]
      exact ⟨.singleton, fun h => by cases h; assumption⟩
    | v :: w :: items => exact iff_of_false (intercalate_cons_cons_ne_empty _ _ _) nofun
  | object entries ih =>
    refine iff_of_false (fun h => ?_) nofun
    rw [plainText, compact, ← String.toList_eq_nil_iff, String.toList_ofList, compactChars] at h
    simp at h

end Json

/-! ### Taking out an action -/

/-- Rules without one action: the `j`-th of the `i`-th rule. -/
def RuleSet.eraseAction (s : RuleSet) (i j : Nat) : RuleSet :=
  { s with rules := s.rules.modify i fun r => { r with actions := r.actions.eraseIdx j } }

/-- A document without one action: the `j`-th of the `i`-th rule. -/
def Document.eraseAction (d : Document) (i j : Nat) : Document :=
  { d with logic := d.logic.eraseAction i j }

/-- The hints of one run over some data. -/
def Document.hints (d : Document) (data : FormData) : List Hint :=
  (priorityEngine d.fields d.logic data).value.hints

/-- Some rules with a place for actions in one of them. -/
def rulesAround (before : List Rule) (r : Rule) (first rest : List Action) (behind : List Rule)
    (actions : List Action) : List Rule :=
  before ++ { r with actions := first ++ actions ++ rest } :: behind

/-- The rules around the action that is taken out stay as they are, and so do the actions. -/
theorem RuleSet.exists_rulesAround {s : RuleSet} {i j : Nat} {r : Rule} {a : Action}
    (hr : s.rules[i]? = some r) (ha : r.actions[j]? = some a) : ∃ before first rest behind,
      s.rules = rulesAround before r first rest behind [a] ∧
      (s.eraseAction i j).rules = rulesAround before r first rest behind [] := by
  obtain ⟨hi, rfl⟩ := List.getElem?_eq_some_iff.mp hr
  obtain ⟨hj, rfl⟩ := List.getElem?_eq_some_iff.mp ha
  refine ⟨s.rules.take i, s.rules[i].actions.take j, s.rules[i].actions.drop (j + 1),
    s.rules.drop (i + 1), ?_, ?_⟩
  · rw [rulesAround, List.append_assoc, List.singleton_append, List.getElem_cons_drop,
      List.take_append_drop, List.getElem_cons_drop, List.take_append_drop]
  · rw [rulesAround, eraseAction, List.modify_eq_take_cons_drop hi,
      List.eraseIdx_eq_take_drop_succ, List.append_nil]

/-! ### Findings -/

/-- The findings in some rules and in those that come after them. -/
theorem ruleFindings_append (ids seen : List String) (before rules : List Rule) :
    ruleFindings ids seen (before ++ rules) = ruleFindings ids seen before ++
      ruleFindings ids ((before.map (·.id)).reverse ++ seen) rules := by
  induction before generalizing seen with
  | nil => rfl
  | cons r before ih => simp [ruleFindings, ih]

/-- The mistakes of actions are found at their place, with their rule as the location, and what is
found elsewhere does not depend on them. -/
theorem exists_ruleFindings_eq (ids seen : List String) (before : List Rule) (r : Rule)
    (first rest : List Action) (behind : List Rule) : ∃ front back, ∀ actions,
      ruleFindings ids seen (rulesAround before r first rest behind actions) =
        front ++ (actions.flatMap (·.problems ids)).map (Finding.mk (.rule r.id)) ++ back := by
  let seen' := (before.map (·.id)).reverse ++ seen
  let repeated := if !r.id.isEmpty && seen'.contains r.id then [Problem.duplicateRuleId] else []
  let conditions := (if r.conditions.isEmpty then [Problem.noConditions] else []) ++
    r.conditions.flatMap (Condition.problems ids)
  let located := List.map (Finding.mk (.rule r.id))
  refine ⟨ruleFindings ids seen before ++
      located (repeated ++ conditions ++ first.flatMap (Action.problems ids)),
    located (rest.flatMap (Action.problems ids)) ++ ruleFindings ids (r.id :: seen') behind,
    fun actions => ?_⟩
  rw [rulesAround, ruleFindings_append, ruleFindings, Rule.problems]
  simp [located, repeated, conditions, seen']

section

variable {d : Document} {i j : Nat} {r : Rule} {a : Action}

/-- A document has the findings that it has without an action, and at its place the mistakes of the
action, with its rule as their location. -/
theorem Document.exists_findings_eq (hr : d.logic.rules[i]? = some r)
    (ha : r.actions[j]? = some a) : ∃ front back,
      d.findings = front ++ (a.problems d.fieldIds).map (Finding.mk (.rule r.id)) ++ back ∧
      (d.eraseAction i j).findings = front ++ back := by
  obtain ⟨before, first, rest, behind, hrules, herased⟩ := RuleSet.exists_rulesAround hr ha
  obtain ⟨front, back, hfindings⟩ := exists_ruleFindings_eq d.fieldIds [] before r first rest behind
  let inFields := d.fields.flatMap fun f => (f.problems d.fieldIds).map (Finding.mk (.field f.id))
  refine ⟨front, back ++ inFields, ?_, ?_⟩
  · rw [findings, hrules, hfindings]
    simp [inFields]
  · change ruleFindings d.fieldIds [] (d.logic.eraseAction i j).rules ++ inFields = _
    rw [herased, hfindings]
    simp

/-! ### Hints -/

/-- A rule fires if it is enabled and its conditions hold. -/
theorem RuleSet.mem_fired {s : RuleSet} {data : FormData} :
    r ∈ s.fired data ↔ r ∈ s.rules ∧ r.enabled ∧ r.holds data := by
  rw [fired, List.mem_filter, mem_ordered, and_assoc]

/-- The hints of some rules for some data, in the order in which the rules are declared. -/
def declaredHints (rules : List Rule) (data : FormData) : List Hint :=
  (rules.filter fun r => r.enabled && r.holds data).flatMap fun r =>
    r.actions.filterMap (·.hint? r.id)

/-- The hints of a run are those of its rules, in some order. -/
theorem perm_declaredHints (fields : List Field) (rules : RuleSet) (data : FormData) :
    (priorityEngine fields rules data).value.hints.Perm (declaredHints rules.rules data) := by
  have hsteps (fired : List Rule) :
      (fired.flatMap Rule.steps).filterMap (fun step => step.2.hint? step.1.id) =
        fired.flatMap fun r => r.actions.filterMap (·.hint? r.id) := by
    simp [Rule.steps, List.filterMap_flatMap, List.filterMap_map]
  have hfired : (rules.fired data).Perm
      (rules.rules.filter fun r => r.enabled && r.holds data) := by
    have hsorted := (List.mergeSort_perm (rules.rules.filter (·.enabled))
      fun a b => a.priority ≤ b.priority).filter (·.holds data)
    rw [List.filter_filter] at hsorted
    simpa only [RuleSet.fired, RuleSet.ordered, Bool.and_comm] using hsorted
  rw [priorityEngine_hints, RuleSet.steps, hsteps]
  exact hfired.flatMap_right _

/-- If a rule fires, then the hints of actions in it are at their place, and the other hints do not
depend on them. -/
theorem exists_declaredHints_eq (before : List Rule) (first rest : List Action)
    (behind : List Rule) {data : FormData} (henabled : r.enabled) (hholds : r.holds data) :
    ∃ front back, ∀ actions,
      declaredHints (rulesAround before r first rest behind actions) data =
        front ++ actions.filterMap (·.hint? r.id) ++ back := by
  refine ⟨declaredHints before data ++ first.filterMap (·.hint? r.id),
    rest.filterMap (·.hint? r.id) ++ declaredHints behind data, fun actions => ?_⟩
  let fires (r : Rule) : Bool := r.enabled && r.holds data
  have hfires : fires { r with actions := first ++ actions ++ rest } := by
    rw [Bool.and_eq_true]
    exact ⟨henabled, hholds⟩
  have hkept : (rulesAround before r first rest behind actions).filter fires =
      before.filter fires ++
        { r with actions := first ++ actions ++ rest } :: behind.filter fires := by
    rw [rulesAround, List.filter_append, List.filter_cons_of_pos hfires]
  change ((rulesAround before r first rest behind actions).filter fires).flatMap _ = _
  rw [hkept]
  simp [declaredHints, fires]

/-- Taking out an action with a hint from a rule that fires loses one hint. -/
theorem Document.length_hints_eraseAction (hr : d.logic.rules[i]? = some r)
    (ha : r.actions[j]? = some a) {data : FormData} (hfires : r ∈ d.logic.fired data) :
    (d.hints data).length =
      ((d.eraseAction i j).hints data).length + (a.hint? r.id).toList.length := by
  obtain ⟨before, first, rest, behind, hrules, herased⟩ := RuleSet.exists_rulesAround hr ha
  obtain ⟨-, henabled, hholds⟩ := RuleSet.mem_fired.mp hfires
  obtain ⟨front, back, hhints⟩ := exists_declaredHints_eq before first rest behind henabled hholds
  have hlogic : (d.eraseAction i j).logic = d.logic.eraseAction i j := rfl
  have hone : [a].filterMap (·.hint? r.id) = (a.hint? r.id).toList := by
    cases hhint : a.hint? r.id <;> simp [hhint]
  have hall := (perm_declaredHints d.fields d.logic data).length_eq
  have hothers := (perm_declaredHints d.fields (d.eraseAction i j).logic data).length_eq
  rw [hrules, hhints, hone, List.length_append, List.length_append] at hall
  rw [hlogic, herased, hhints, List.filterMap_nil, List.append_nil, List.length_append] at hothers
  have hfields : (d.eraseAction i j).fields = d.fields := rfl
  rw [hints, hints, hfields, hlogic, hall, hothers]
  omega

/-- Taking out an action that makes no sense makes no difference to an evaluation. -/
theorem RuleSet.priorityEngine_eraseAction {s : RuleSet} (hr : s.rules[i]? = some r)
    (ha : r.actions[j]? = some a) {fields : List Field} (hvoid : a.isVoid (fields.map (·.id)))
    (data : FormData) : (priorityEngine fields (s.eraseAction i j) data).value =
      (priorityEngine fields s data).value := by
  obtain ⟨before, first, rest, behind, hrules, herased⟩ := exists_rulesAround hr ha
  -- both come to the same when all actions that make no sense are left out
  have hsame : (s.eraseAction i j).dropActions (·.isVoid (fields.map (·.id))) =
      s.dropActions (·.isVoid (fields.map (·.id))) := by
    have hsettings : (s.eraseAction i j).globalSettings = s.globalSettings := rfl
    simp [dropActions, hsettings, hrules, herased, rulesAround, Rule.dropActions, hvoid]
  rw [← priorityEngine_dropActions (fun _ h => h) s, ← hsame,
    priorityEngine_dropActions fun _ h => h]

/-- Taking out an action that skips or shows a message from a rule that fires leaves the hints of a
run as they are just if the action has no hint. -/
theorem Document.hints_eraseAction_iff (hr : d.logic.rules[i]? = some r)
    (ha : r.actions[j]? = some a) (hkind : a.kind = .skipTo ∨ a.kind = .showMessage)
    {data : FormData} (hfires : r ∈ d.logic.fired data) :
    d.hints data = (d.eraseAction i j).hints data ↔ a.hint? r.id = none := by
  constructor
  · intro hsame
    have hlength := length_hints_eraseAction hr ha hfires
    rw [hsame] at hlength
    cases hhint : a.hint? r.id with
    | none => rfl
    | some h =>
      rw [hhint, Option.toList_some, List.length_singleton] at hlength
      omega
  · intro hnone
    have hvoid : a.isVoid (d.fields.map (·.id)) := by
      rw [Action.hint?_eq_none_iff r.id ""] at hnone
      rcases hkind with hkind | hkind <;> simp [Action.isVoid, hkind, hnone]
    exact congrArg Evaluation.hints (RuleSet.priorityEngine_eraseAction hr ha hvoid data).symm

end

/-! ### Reports -/

namespace Action

/-- An action has a value that is not null and reads as no text. -/
def HasSilentValue (a : Action) : Prop := ∃ v ∈ a.value, v ≠ .null ∧ v.IsBlank

/-- A value reads as no text just if it is blank, or there is none. -/
theorem asText_eq_empty_iff (v : Option Json) : Json.asText v = "" ↔ ∀ w ∈ v, w.IsBlank := by
  cases v with
  | none => simp [Json.asText]
  | some w => simp [Json.asText, Json.plainText_eq_empty_iff]

/-- An action has no value other than null just if its value is blank and not silent. -/
theorem hasValue_eq_false_iff (a : Action) :
    a.hasValue = false ↔ Json.asText a.value = "" ∧ ¬a.HasSilentValue := by
  rw [asText_eq_empty_iff, HasSilentValue, hasValue]
  cases a.value with
  | none => simp
  | some v =>
    by_cases hnull : v = .null
    · simp [hnull, Json.IsBlank.null]
    · simp [hnull]

/-- An action that skips or shows a message has a mistake just if it has no hint and no silent
value. -/
theorem problems_ne_nil_iff {a : Action} (hkind : a.kind = .skipTo ∨ a.kind = .showMessage)
    (ids : List String) (ruleId : String) :
    a.problems ids ≠ [] ↔ a.hint? ruleId = none ∧ ¬a.HasSilentValue := by
  have hvalue := a.hasValue_eq_false_iff
  rcases hkind with hkind | hkind
  · rw [problems, hint?, hkind]
    by_cases htext : Json.asText a.value = "" <;> cases a.targetFieldId <;>
      simp_all
  · rw [problems, hint?, hkind]
    have hmessage : (a.message.any fun m => !m.isEmpty) = true ↔ a.message.getD "" ≠ "" := by
      cases a.message <;> simp
    by_cases htext : Json.asText a.value = "" <;> by_cases hm : a.message.getD "" = "" <;>
      simp_all

end Action

/-- **Hints are reported if they are missing.** In a document with an action that skips or shows a
message, whatever its value, target and message, the check finds what it finds without the action,
and a report on the action for its rule. If the rule fires, then there is something in the report
just if the hints of the run are those without the action, except that a value which is not null and
reads as no text is never reported. -/
theorem findings_report_iff {d : Document} {i j : Nat} {r : Rule} {a : Action}
    (hr : d.logic.rules[i]? = some r) (ha : r.actions[j]? = some a)
    (hkind : a.kind = .skipTo ∨ a.kind = .showMessage) {data : FormData}
    (hfires : r ∈ d.logic.fired data) : ∃ report : List Problem,
      (∃ front back, d.findings = front ++ report.map (Finding.mk (.rule r.id)) ++ back ∧
        (d.eraseAction i j).findings = front ++ back) ∧
      (report ≠ [] ↔ d.hints data = (d.eraseAction i j).hints data ∧ ¬a.HasSilentValue) := by
  refine ⟨a.problems d.fieldIds, Document.exists_findings_eq hr ha, ?_⟩
  rw [Action.problems_ne_nil_iff hkind d.fieldIds r.id,
    Document.hints_eraseAction_iff hr ha hkind hfires]

/-- The second action of this rule skips to no step: its value is null. -/
def Sample.stuckShipping : Rule :=
  { bulkShipping with
    actions := [.targeting .disable "shipping", { kind := .skipTo, value := some .null }] }

/-- An order form with a rule that skips to no step. -/
def Sample.stuckOrder : Document := { order with logic := { rules := [stuckShipping] } }

/-- The skip of the order form is reported, and it adds no hint for a bulk order. -/
theorem findings_report_iff_stuckOrder :
    let d := Sample.stuckOrder
    let r := Sample.stuckShipping
    let a : Action := { kind := .skipTo, value := some .null }
    let data : FormData := .ofList [("qty", .int 12)]
    d.logic.rules[0]? = some r ∧ r.actions[1]? = some a ∧ r ∈ d.logic.fired data ∧
      d.findings = [⟨.rule "bulk-shipping", .noStep⟩] ∧ ∃ report : List Problem,
        (∃ front back, d.findings = front ++ report.map (Finding.mk (.rule r.id)) ++ back ∧
          (d.eraseAction 0 1).findings = front ++ back) ∧
        (report ≠ [] ↔ d.hints data = (d.eraseAction 0 1).hints data ∧ ¬a.HasSilentValue) := by
  intro d r a data
  have hfires : r ∈ d.logic.fired data := by decide +kernel
  exact ⟨rfl, rfl, hfires, by decide +kernel, findings_report_iff rfl rfl (.inl rfl) hfires⟩

/-- In this order form a rule skips to an empty text and shows an empty list. -/
def Sample.silentOrder : Document :=
  { order with logic := { rules := [{ bulkShipping with
      actions := [{ kind := .skipTo, value := some (.text "") },
        { kind := .showMessage, value := some (.list []) }] }] } }

/-- The rule fires for a bulk order, and neither action adds a hint, but neither is reported. -/
theorem findings_report_silentOrder :
    let d := Sample.silentOrder
    let data : FormData := .ofList [("qty", .int 12)]
    d.logic.fired data = d.logic.rules ∧
    (d.logic.rules.flatMap (·.actions)).map (·.kind) = [.skipTo, .showMessage] ∧
    ∀ j < 2, d.hints data = (d.eraseAction 0 j).hints data ∧
      d.findings = (d.eraseAction 0 j).findings := by
  decide +kernel

end LiveForm
