import LiveForm.Proofs.Engine.Turn
import LiveForm.Proofs.Settlement.RuleOrder
import LiveForm.Proofs.Settlement.Trajectory

/-!
# Where form data changes

A run changes data only where it may write: it sets and calculates values of fields of the form, and
takes none away. A field that is not calculated ends up with the value of the last action on it that
had one to write, and a calculated field without a value of its own with what the actions have left.
Settling changes data only where some run of it may.
-/

namespace LiveForm

namespace Working

variable {ids : List String} {id : String}

/-- The action at a place among some actions writes a value for an id, over the data as it stands at
that action. -/
def WritesAt (ids : List String) (w : Working) (steps : List (Rule × Action)) (id : String)
    (n : Nat) (v : Json) : Prop :=
  ∃ step, steps[n]? = some step ∧ step.2.targetFieldId = some id ∧
    step.2.written? ids (w.after ids (steps.take n)).data = some v

/-- The first action writes over the data that it is given. -/
theorem writesAt_zero {w : Working} {step : Rule × Action} {steps : List (Rule × Action)}
    {v : Json} : w.WritesAt ids (step :: steps) id 0 v ↔
      step.2.targetFieldId = some id ∧ step.2.written? ids w.data = some v := by
  simp [WritesAt]

/-- The actions after the first write over what it has left. -/
theorem writesAt_succ {w : Working} {step : Rule × Action} {steps : List (Rule × Action)}
    {n : Nat} {v : Json} : w.WritesAt ids (step :: steps) id (n + 1) v ↔
      (apply ids step.1 w step.2).value.WritesAt ids steps id n v := by
  simp [WritesAt]

/-- An id for which no action writes a value keeps the one that it has. -/
theorem get?_after_of_not_writesAt {steps : List (Rule × Action)} {w : Working}
    (h : ∀ n v, ¬w.WritesAt ids steps id n v) :
    (w.after ids steps).data.get? id = w.data.get? id := by
  induction steps generalizing w with
  | nil => rfl
  | cons step steps ih =>
    have hfirst : (if step.2.targetFieldId = some id ∧ w.states.contains id then
        step.2.written? ids w.data else none) = none := by
      split
      case isTrue htarget =>
        refine Option.eq_none_iff_forall_ne_some.mpr fun v hv => ?_
        exact h 0 v (writesAt_zero.mpr ⟨htarget.1, hv⟩)
      case isFalse => rfl
    rw [after_cons, ih fun n v hn => h (n + 1) v (writesAt_succ.mpr hn), get?_apply_data_eq, hfirst,
      Option.none_or]

/-- A field ends up with the last value that an action writes for it. -/
theorem get?_after_of_writesAt {steps : List (Rule × Action)} {w : Working} (hw : w.Covers ids)
    (hid : id ∈ ids) {n : Nat} {v : Json} (h : w.WritesAt ids steps id n v)
    (hlast : ∀ m > n, ∀ u, ¬w.WritesAt ids steps id m u) :
    (w.after ids steps).data.get? id = some v := by
  induction steps generalizing w n with
  | nil =>
    obtain ⟨_, hstep, _⟩ := h
    cases hstep
  | cons step steps ih =>
    rw [after_cons]
    cases n with
    | zero =>
      obtain ⟨htarget, hv⟩ := writesAt_zero.mp h
      have hdefined : w.states.contains id := by
        rw [hw id]
        exact List.contains_iff_mem.mpr hid
      rw [get?_after_of_not_writesAt fun m u hm =>
          hlast (m + 1) (Nat.succ_pos m) u (writesAt_succ.mpr hm),
        get?_apply_data_eq, if_pos ⟨htarget, hdefined⟩, hv, Option.some_or]
    | succ n =>
      exact ih (hw.apply step.1 step.2) (writesAt_succ.mp h) fun m hm u hu =>
        hlast (m + 1) (Nat.succ_lt_succ hm) u (writesAt_succ.mpr hu)

/-- Actions take no value away. -/
theorem isSome_get?_after (steps : List (Rule × Action)) {w : Working}
    (h : (w.data.get? id).isSome) : ((w.after ids steps).data.get? id).isSome := by
  induction steps generalizing w with
  | nil => exact h
  | cons step steps ih =>
    refine ih ?_
    rw [get?_apply_data_eq, Option.isSome_or, h, Bool.or_true]

/-- Evaluating calculated fields takes no value away. -/
theorem isSome_get?_foldl_refreshed (cs : List Field) {data : FormData}
    (h : (data.get? id).isSome) : ((cs.foldl (refreshed ids) data).get? id).isSome := by
  induction cs generalizing data with
  | nil => exact h
  | cons c cs ih =>
    refine ih ?_
    rw [get?_refreshed_eq, Option.isSome_or, h, Bool.or_true]

end Working

/-! ### One run -/

section

variable {fields : List Field} {rules : RuleSet} {data : FormData}

/-- A run takes no value away. -/
theorem mem_keys_priorityEngine {id : String} (hid : id ∈ data.keys) :
    id ∈ (priorityEngine fields rules data).value.formData.keys := by
  rw [SortedMap.mem_keys_iff] at hid ⊢
  rw [priorityEngine_formData]
  exact Working.isSome_get?_foldl_refreshed _ (Working.isSome_get?_after _ hid)

/-- A run leaves a value as it is if no calculated field has the id, and no action of a rule that
fires is there to write it. -/
theorem get?_formData_of_untouched {id : String}
    (hcalculated : ∀ f ∈ fields, f.isCalculated → f.id ≠ id)
    (hactions : ∀ r ∈ rules.fired data, ∀ a ∈ r.actions, a.IsWrite → a.targetFieldId ≠ some id) :
    (priorityEngine fields rules data).value.formData.get? id = data.get? id := by
  rw [get?_formData_of_not_calculated hcalculated]
  refine Working.get?_after_data (fun step hstep => ?_) _
  obtain ⟨r, hr, hmem⟩ := List.mem_flatMap.mp hstep
  obtain ⟨a, ha, rfl⟩ := List.mem_map.mp hmem
  exact hactions r hr a ha

/-- A rule that fires is one of the live ones. -/
theorem RuleSet.isLive_of_mem_fired {r : Rule} (h : r ∈ rules.fired data) :
    r ∈ rules.rules ∧ r.isLive := by
  obtain ⟨hordered, hholds⟩ := List.mem_filter.mp h
  obtain ⟨hrule, henabled⟩ := RuleSet.mem_ordered.mp hordered
  exact ⟨hrule, by rw [Rule.isLive_of_holds hholds, henabled]⟩

end

/-- The data of an evaluation differs from the data that a run of it started with only where the run
may write. -/
structure Evaluation.Frames (fields : List Field) (rules : RuleSet) (data : FormData)
    (e : Evaluation) : Prop where
  /-- No value is taken away. -/
  kept : ∀ id ∈ data.keys, id ∈ e.formData.keys
  /-- What is not a field stays as it is. -/
  undefined : ∀ id ∉ fields.map (·.id), e.formData.get? id = data.get? id
  /-- So does a field that is not calculated and that no action of a rule which fires is there to
  write. -/
  untouched : ∀ f ∈ fields, ¬f.isCalculated →
    (∀ r ∈ rules.fired data, ∀ a ∈ r.actions, a.IsWrite → a.targetFieldId ≠ some f.id) →
    e.formData.get? f.id = data.get? f.id
  /-- A field that is not calculated gets the value that the last action writes which has one. -/
  written : ∀ f ∈ fields, ¬f.isCalculated → ∀ n v,
    (Working.start fields data).WritesAt (fields.map (·.id)) (rules.steps data) f.id n v →
    (∀ m > n, ∀ u,
      ¬(Working.start fields data).WritesAt (fields.map (·.id)) (rules.steps data) f.id m u) →
    e.formData.get? f.id = some v
  /-- It stays as it is if no action has a value to write. -/
  unwritten : ∀ f ∈ fields, ¬f.isCalculated →
    (∀ n v,
      ¬(Working.start fields data).WritesAt (fields.map (·.id)) (rules.steps data) f.id n v) →
    e.formData.get? f.id = data.get? f.id
  /-- A calculated field whose expression is missing, or has no value when it is evaluated, keeps
  what the actions have left. -/
  uncalculated : ∀ f ∈ fields, f.isCalculated →
    (∀ expression ∈ f.calculation, (Calculation.evaluate expression (fields.map (·.id))
      (dataAtTurn fields rules data f)).value = none) →
    e.formData.get? f.id = (dataAfterActions fields rules data).get? f.id

/-- In a form with different ids, a run changes data only where it may write. -/
theorem priorityEngine_frames {fields : List Field} (hids : (fields.map (·.id)).Nodup)
    (rules : RuleSet) (data : FormData) :
    (priorityEngine fields rules data).value.Frames fields rules data := by
  have hsame {f g : Field} (hf : f ∈ fields) (hg : g ∈ fields) (heq : g.id = f.id) : g = f :=
    List.inj_on_of_nodup_map hids hg hf heq
  have hplain {f : Field} (hf : f ∈ fields) (hnot : ¬f.isCalculated) :
      ∀ g ∈ fields, g.isCalculated → g.id ≠ f.id := fun g hg hcalculated heq =>
    hnot (hsame hf hg heq ▸ hcalculated)
  exact {
    kept := fun id hid => mem_keys_priorityEngine hid
    undefined := fun id hid => get?_priorityEngine_data fields rules data hid
    untouched := fun f hf hnot hactions => get?_formData_of_untouched (hplain hf hnot) hactions
    written := fun f hf hnot n v hn hlast => by
      rw [get?_formData_of_not_calculated (hplain hf hnot)]
      exact Working.get?_after_of_writesAt (Working.covers_start fields data)
        (List.mem_map_of_mem hf) hn hlast
    unwritten := fun f hf hnot hnone => by
      rw [get?_formData_of_not_calculated (hplain hf hnot)]
      exact Working.get?_after_of_not_writesAt hnone
    uncalculated := fun f hf hcalculated hnone => by
      have hvalue : (f.calculation.bind fun expression => (Calculation.evaluate expression
          (fields.map (·.id)) (dataAtTurn fields rules data f)).value) = none :=
        Option.bind_eq_none_iff.mpr hnone
      rw [get?_calculated hids hf hcalculated, Working.get?_refreshed_eq, if_pos rfl, hvalue,
        Option.map_none, Option.none_or, get?_dataAtTurn_of_not_precedes]
      intro g hg _ heq
      rw [hsame hf hg heq]
      exact Nat.lt_irrefl _ }

/-! ### Settling -/

/-- Whether settling may change the value of an id: it is that of a field that is calculated, or that
an enabled rule with conditions is there to write. -/
def IsWritable (fields : List Field) (rules : RuleSet) (id : String) : Prop :=
  ∃ f ∈ fields, f.id = id ∧ (f.isCalculated ∨
    ∃ r ∈ rules.rules, r.enabled ∧ r.conditions ≠ [] ∧
      ∃ a ∈ r.actions, a.IsWrite ∧ a.targetFieldId = some id)

/-- A run changes only what settling may change. -/
theorem get?_priorityEngine_of_not_isWritable {fields : List Field} {rules : RuleSet}
    {data : FormData} {id : String} (hid : ¬IsWritable fields rules id) :
    (priorityEngine fields rules data).value.formData.get? id = data.get? id := by
  by_cases hfield : ∃ f ∈ fields, f.id = id
  · obtain ⟨f, hf, hfid⟩ := hfield
    refine get?_formData_of_untouched (fun g hg hcalculated heq =>
      hid ⟨g, hg, heq, .inl hcalculated⟩) fun r hr a ha hwrite htarget => ?_
    obtain ⟨hrule, hlive⟩ := RuleSet.isLive_of_mem_fired hr
    rw [Rule.isLive, Bool.and_eq_true, Bool.not_eq_true', List.isEmpty_eq_false_iff] at hlive
    exact hid ⟨f, hf, hfid, .inr ⟨r, hrule, hlive.1, hlive.2, a, ha, hwrite, htarget⟩⟩
  · refine get?_priorityEngine_data fields rules data fun hmem => ?_
    obtain ⟨f, hf, hfid⟩ := List.mem_map.mp hmem
    exact hfield ⟨f, hf, hfid⟩

/-- **Form data is changed only where a pass may write.** In a form with different ids, one run over
any data changes it only as `Evaluation.Frames` says; and settling any data takes no value away and
changes only values of fields that are calculated, or that an enabled rule with conditions sets or
calculates. -/
theorem formData_frame {fields : List Field} (hids : (fields.map (·.id)).Nodup) (rules : RuleSet)
    (data : FormData) :
    (priorityEngine fields rules data).value.Frames fields rules data ∧
    let settled := (settle priorityEngine fields rules data).value.evaluation.formData
    (∀ id ∈ data.keys, id ∈ settled.keys) ∧
      ∀ id, settled.get? id ≠ data.get? id → IsWritable fields rules id := by
  refine ⟨priorityEngine_frames hids rules data, ?_⟩
  intro settled
  -- what every run keeps: the keys that were given, and the values that it may not write
  obtain ⟨last, ⟨hkeys, hvalues⟩, heq⟩ := settle_invariant
    (fun d => (∀ id ∈ data.keys, id ∈ d.keys) ∧
      ∀ id, ¬IsWritable fields rules id → d.get? id = data.get? id)
    (fun d hd => ⟨fun id hid => mem_keys_priorityEngine (hd.1 id hid), fun id hid =>
      (get?_priorityEngine_of_not_isWritable hid).trans (hd.2 id hid)⟩)
    ⟨fun _ hid => hid, fun _ _ => rfl⟩
  have hsettled : settled = (priorityEngine fields rules last).value.formData := by rw [← heq]
  rw [hsettled]
  refine ⟨fun id hid => mem_keys_priorityEngine (hkeys id hid), fun id hne => ?_⟩
  by_contra hid
  exact hne ((get?_priorityEngine_of_not_isWritable hid).trans (hvalues id hid))

/-- Rules of the order form that write the shipping several times: bulk orders ship free, and then a
quarter of the price is calculated, an expression without a value, and a value for no field. -/
def Sample.shippingRules : RuleSet where
  rules := [Sample.bulkShipping, {
    id := "price-shipping"
    priority := 20
    conditions := [{ fieldId := "price", operator := .isNotEmpty }]
    actions := [
      { kind := .calculate, targetFieldId := some "shipping", calculation := some "price / 4" },
      { kind := .calculate, targetFieldId := some "shipping", calculation := some "price / 0" },
      { kind := .setValue, targetFieldId := some "tax", value := some (.int 1) }] }]

/-- An order of twelve pieces, of which the shipping is written by two rules, and ends up with the
quarter of the price. -/
theorem formData_frame_shipping :
    (Sample.orderFields.map (·.id)).Nodup ∧
    (priorityEngine Sample.orderFields Sample.shippingRules Sample.dozen).value.Frames
      Sample.orderFields Sample.shippingRules Sample.dozen ∧
    (priorityEngine Sample.orderFields Sample.shippingRules Sample.dozen).value.formData.get?
      "shipping" = some (.float 2.375) ∧
    let settled := (settle priorityEngine Sample.orderFields Sample.shippingRules
      Sample.dozen).value.evaluation.formData
    (∀ id ∈ Sample.dozen.keys, id ∈ settled.keys) ∧
      ∀ id, settled.get? id ≠ Sample.dozen.get? id →
        IsWritable Sample.orderFields Sample.shippingRules id := by
  have hids : (Sample.orderFields.map (·.id)).Nodup := by decide
  have hordered : Sample.shippingRules.ordered = Sample.shippingRules.rules :=
    List.mergeSort_of_pairwise (by decide)
  have hfired : Sample.shippingRules.fired Sample.dozen = Sample.shippingRules.rules := by
    rw [RuleSet.fired, hordered]
    exact List.filter_eq_self.mpr (by decide +kernel)
  have hshipping : (priorityEngine Sample.orderFields Sample.shippingRules
      Sample.dozen).value.formData.get? "shipping" = some (.float 2.375) := by
    rw [priorityEngine_formData, dataAfterActions, RuleSet.steps, hfired]
    decide +kernel
  obtain ⟨hframes, hsettled⟩ := formData_frame hids Sample.shippingRules Sample.dozen
  exact ⟨hids, hframes, hshipping, hsettled⟩

end LiveForm
