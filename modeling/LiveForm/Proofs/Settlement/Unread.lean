import LiveForm.Proofs.Calculation.Dependence
import LiveForm.Proofs.Engine.LastWriter
import LiveForm.Proofs.Engine.Turn
import LiveForm.Proofs.Json.Sameness
import LiveForm.Proofs.Settlement.Runs
import LiveForm.Sample.Order

/-!
# Data that nobody reads

A run reads the values of the fields of the form, and those that conditions of enabled rules test.
Runs over data that agrees on these go in step: they fire the same rules, apply the same actions and
write the same values. All other data stays as it is, so it does not decide either whether a run has
changed anything.
-/

namespace LiveForm

/-- The ids that conditions of enabled rules test. -/
def RuleSet.testedIds (rules : RuleSet) : List String :=
  (rules.rules.filter (·.enabled)).flatMap fun r => r.conditions.map (·.fieldId)

/-- The ids whose values a run reads. -/
def readIds (fields : List Field) (rules : RuleSet) : List String :=
  fields.map (·.id) ++ rules.testedIds

/-- Whether two sets of data have the same values for some ids. -/
def AgreeOn (ids : List String) (d d' : FormData) : Prop := ∀ id ∈ ids, d.get? id = d'.get? id

instance (ids : List String) (d d' : FormData) : Decidable (AgreeOn ids d d') :=
  inferInstanceAs (Decidable (∀ id ∈ ids, _))

/-- Two evaluations show the same, and their data agrees on some ids. -/
structure Evaluation.AgreeOn (ids : List String) (e e' : Evaluation) : Prop where
  /-- The states are equal. -/
  states : e.states = e'.states
  /-- The hints are equal. -/
  hints : e.hints = e'.hints
  /-- The same rules have fired. -/
  firedRules : e.firedRules = e'.firedRules
  /-- The data agrees. -/
  formData : LiveForm.AgreeOn ids e.formData e'.formData

/-! ### One run -/

/-- Over data that agrees on what the conditions of enabled rules test, the same rules fire. -/
theorem RuleSet.fired_congr {rules : RuleSet} {d d' : FormData}
    (h : AgreeOn rules.testedIds d d') : rules.fired d = rules.fired d' := by
  refine List.filter_congr fun r hr => Rule.holds_congr fun t ht => h t.fieldId ?_
  obtain ⟨hrule, henabled⟩ := RuleSet.mem_ordered.mp hr
  exact List.mem_flatMap.mpr
    ⟨r, List.mem_filter.mpr ⟨hrule, henabled⟩, List.mem_map_of_mem ht⟩

namespace Working

variable {ids read : List String} {d d' : FormData}

/-- A run over data that agrees on the fields starts with the same states. -/
theorem start_states_congr {fields : List Field} (h : AgreeOn (fields.map (·.id)) d d') :
    (start fields d).states = (start fields d').states := by
  have hbaseline : (fields.map fun f => (f.id, FieldState.baseline f (d.get? f.id))) =
      fields.map fun f => (f.id, FieldState.baseline f (d'.get? f.id)) :=
    List.map_congr_left fun f hf => by rw [h f.id (List.mem_map_of_mem hf)]
  rw [start, start, hbaseline]

/-- Actions keep data in agreement on ids with those of all fields among them. -/
theorem agreeOn_after (hread : ids ⊆ read) (steps : List (Rule × Action)) {w w' : Working}
    (hw : w.Covers ids) (hw' : w'.Covers ids) (h : AgreeOn read w.data w'.data) :
    AgreeOn read (w.after ids steps).data (w'.after ids steps).data := by
  induction steps generalizing w w' with
  | nil => exact h
  | cons step steps ih =>
    refine ih (hw.apply step.1 step.2) (hw'.apply step.1 step.2) fun id hid => ?_
    have hwritten : step.2.written? ids w.data = step.2.written? ids w'.data :=
      Action.written?_congr fun _ expression _ => by
        rw [Calculation.evaluate_congr (fun i hi => h i (hread hi)) expression]
    rw [get?_apply_data_eq, get?_apply_data_eq, hw id, hw' id, hwritten, h id hid]

/-- So does evaluating calculated fields. -/
theorem agreeOn_foldl_refreshed (hread : ids ⊆ read) (cs : List Field)
    (h : AgreeOn read d d') :
    AgreeOn read (cs.foldl (refreshed ids) d) (cs.foldl (refreshed ids) d') := by
  induction cs generalizing d d' with
  | nil => exact h
  | cons c cs ih =>
    refine ih ?_
    unfold refreshed
    cases c.calculation with
    | none => exact h
    | some expression =>
      rw [Option.bind_some, Option.bind_some,
        Calculation.evaluate_congr (fun i hi => h i (hread hi)) expression]
      cases (Calculation.evaluate expression ids d').value with
      | none => exact h
      | some x =>
        intro id hid
        simp [h id hid]

end Working

section

variable {fields : List Field} {rules : RuleSet} {d d' : FormData}

/-- Over data that agrees on what runs read, they apply the same actions. -/
theorem RuleSet.steps_congr (h : AgreeOn (readIds fields rules) d d') :
    rules.fired d = rules.fired d' ∧ rules.steps d = rules.steps d' := by
  have hfired : rules.fired d = rules.fired d' :=
    RuleSet.fired_congr fun id hid => h id (List.mem_append_right _ hid)
  exact ⟨hfired, by rw [RuleSet.steps, RuleSet.steps, hfired]⟩

/-- They produce data that agrees on it. -/
theorem agreeOn_formData (h : AgreeOn (readIds fields rules) d d') :
    AgreeOn (readIds fields rules) (priorityEngine fields rules d).value.formData
      (priorityEngine fields rules d').value.formData := by
  have hfields : fields.map (·.id) ⊆ readIds fields rules := List.subset_append_left _ _
  rw [priorityEngine_formData, priorityEngine_formData, dataAfterActions, dataAfterActions,
    (RuleSet.steps_congr h).2]
  exact Working.agreeOn_foldl_refreshed hfields _ (Working.agreeOn_after hfields _
    (Working.covers_start fields d) (Working.covers_start fields d') h)

/-- They give every field the same state. -/
theorem states_eq_of_agreeOn (h : AgreeOn (readIds fields rules) d d') :
    (priorityEngine fields rules d).value.states =
      (priorityEngine fields rules d').value.states := by
  have hfields : fields.map (·.id) ⊆ readIds fields rules := List.subset_append_left _ _
  have hstart := Working.start_states_congr fun id hid => h id (hfields hid)
  rw [priorityEngine_states, priorityEngine_states, (RuleSet.steps_congr h).1, hstart]
  ext id
  rw [SortedMap.get?_mapValues, SortedMap.get?_mapValues]
  cases hs : (Working.start fields d').states.get? id with
  | none => rw [Option.map_none, Option.map_none]
  | some s =>
    -- what has a state is a field, so the data agrees on it
    have hid : id ∈ fields.map (·.id) := by
      have hcovers := Working.covers_start fields d' id
      rw [SortedMap.contains, hs] at hcovers
      exact List.contains_iff_mem.mp hcovers.symm
    rw [Option.map_some, Option.map_some, agreeOn_formData h id (hfields hid)]

/-- Runs over data that agrees on what they read show the same, and produce data that agrees on
it. -/
theorem priorityEngine_agreeOn (h : AgreeOn (readIds fields rules) d d') :
    (priorityEngine fields rules d).value.AgreeOn (readIds fields rules)
      (priorityEngine fields rules d').value where
  states := states_eq_of_agreeOn h
  hints := by rw [priorityEngine_hints, priorityEngine_hints, (RuleSet.steps_congr h).2]
  firedRules := by
    rw [priorityEngine_firedRules, priorityEngine_firedRules, (RuleSet.steps_congr h).1]
  formData := agreeOn_formData h

/-- A run leaves the values that it does not read as they are. -/
theorem get?_priorityEngine_of_not_read {id : String} (hid : id ∉ readIds fields rules) :
    (priorityEngine fields rules d).value.formData.get? id = d.get? id :=
  get?_priorityEngine_data fields rules d fun hfield => hid (List.mem_append_left _ hfield)

end

/-! ### Settling -/

/-- Two sets of data have come in step from two given ones: they agree on some ids, and everything
else is as it was given. -/
structure InStep (ids : List String) (data data' d d' : FormData) : Prop where
  /-- They agree on the ids. -/
  agree : AgreeOn ids d d'
  /-- The first has all other values as they were given. -/
  left : ∀ id ∉ ids, d.get? id = data.get? id
  /-- So has the second. -/
  right : ∀ id ∉ ids, d'.get? id = data'.get? id

section

variable {fields : List Field} {rules : RuleSet} {data data' d d' : FormData}

/-- Runs keep data in step. -/
theorem InStep.run (h : InStep (readIds fields rules) data data' d d') :
    InStep (readIds fields rules) data data' (priorityEngine fields rules d).value.formData
      (priorityEngine fields rules d').value.formData where
  agree := agreeOn_formData h.agree
  left id hid := (get?_priorityEngine_of_not_read hid).trans (h.left id hid)
  right id hid := (get?_priorityEngine_of_not_read hid).trans (h.right id hid)

/-- Of two runs over data in step both have changed anything, or none, as values that are not read
are kept. -/
theorem InStep.sameData_eq (hfinite : ∀ e ∈ data.toList, e.2.isFinite)
    (hfinite' : ∀ e ∈ data'.toList, e.2.isFinite)
    (h : InStep (readIds fields rules) data data' d d') :
    sameData (priorityEngine fields rules d).value.formData d =
      sameData (priorityEngine fields rules d').value.formData d' := by
  rw [Bool.eq_iff_iff, sameData_iff_sameValue, sameData_iff_sameValue]
  refine forall_congr' fun id => ?_
  by_cases hid : id ∈ readIds fields rules
  · rw [agreeOn_formData h.agree id hid, h.agree id hid]
  · rw [get?_priorityEngine_of_not_read hid, get?_priorityEngine_of_not_read hid, h.left id hid,
      h.right id hid]
    exact iff_of_true
      (FieldState.sameValue_self fun v hv => hfinite _ (SortedMap.mem_of_find?_eq_some hv))
      (FieldState.sameValue_self fun v hv => hfinite' _ (SortedMap.mem_of_find?_eq_some hv))

end

/-- **Data that nobody reads does not matter.** Take any form and any two sets of data that agree
on its fields and on what conditions of enabled rules test, their numbers being finite as all
numbers of JSON are. They settle after the same number of runs, converged or not, and show the same
states, hints and fired rules; the data that comes out agrees where the given data did, and is as it
was everywhere else. -/
theorem settle_unread {fields : List Field} {rules : RuleSet} {data data' : FormData}
    (hfinite : ∀ e ∈ data.toList, e.2.isFinite) (hfinite' : ∀ e ∈ data'.toList, e.2.isFinite)
    (h : AgreeOn (readIds fields rules) data data') :
    let s := (settle priorityEngine fields rules data).value
    let s' := (settle priorityEngine fields rules data').value
    s.evaluation.AgreeOn (readIds fields rules) s'.evaluation ∧
    s.iterations = s'.iterations ∧ s.converged = s'.converged ∧
    ∀ id ∉ readIds fields rules, s.evaluation.formData.get? id = data.get? id ∧
      s'.evaluation.formData.get? id = data'.get? id := by
  intro s s'
  have hstart : InStep (readIds fields rules) data data' data data' :=
    ⟨h, fun _ _ => rfl, fun _ _ => rfl⟩
  obtain ⟨last, last', runs, converged, hlast, hs, hs'⟩ :=
    settle_simulation (fun _ _ hd => hd.run) (fun _ _ hd => hd.sameData_eq hfinite hfinite') hstart
  have hs : s = ⟨(priorityEngine fields rules last).value, runs, converged⟩ := hs
  have hs' : s' = ⟨(priorityEngine fields rules last').value, runs, converged⟩ := hs'
  rw [hs, hs']
  exact ⟨priorityEngine_agreeOn hlast.agree, rfl, rfl, fun id hid =>
    ⟨hlast.run.left id hid, hlast.run.right id hid⟩⟩

/-- Rules of the order form of which one tests a key that no field has. -/
def Sample.partnerRules : RuleSet where
  rules := [Sample.bulkShipping, {
    id := "partner"
    conditions := [{ fieldId := "channel", operator := .equals, value := some (.text "partner") }]
    actions := [.targeting .hide "coupon"] }]

/-- Two orders through a partner, of which one carries a draft and the other a referrer and a
rating. -/
theorem settle_unread_partner :
    let data : FormData := .ofList
      [("channel", .text "partner"), ("draft", .bool true), ("price", .float 9.5), ("qty", .int 12)]
    let data' : FormData := .ofList
      [("channel", .text "partner"), ("price", .float 9.5), ("qty", .int 12),
        ("rating", .float (-0.0)), ("referrer", .null)]
    (∀ e ∈ data.toList, e.2.isFinite) ∧ (∀ e ∈ data'.toList, e.2.isFinite) ∧
    AgreeOn (readIds Sample.orderFields Sample.partnerRules) data data' ∧
    let s := (settle priorityEngine Sample.orderFields Sample.partnerRules data).value
    let s' := (settle priorityEngine Sample.orderFields Sample.partnerRules data').value
    s.evaluation.AgreeOn (readIds Sample.orderFields Sample.partnerRules) s'.evaluation ∧
    s.iterations = s'.iterations ∧ s.converged = s'.converged ∧
    ∀ id ∉ readIds Sample.orderFields Sample.partnerRules,
      s.evaluation.formData.get? id = data.get? id ∧
        s'.evaluation.formData.get? id = data'.get? id := by
  intro data data'
  have hfinite : ∀ e ∈ data.toList, e.2.isFinite := by decide +kernel
  have hfinite' : ∀ e ∈ data'.toList, e.2.isFinite := by decide +kernel
  have hagree : AgreeOn (readIds Sample.orderFields Sample.partnerRules) data data' := by
    decide +kernel
  exact ⟨hfinite, hfinite', hagree, settle_unread hfinite hfinite' hagree⟩

end LiveForm
