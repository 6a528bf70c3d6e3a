import LiveForm.Proofs.Engine.Frame
import LiveForm.Sample.Order
import Mathlib.Data.List.Perm.Basic

/-!
# The last writer wins

The actions that one run applies form one list: rules in the order of priorities, and the actions of
each rule as they are written. The state of a field depends on that list alone, and of all votes on
one attribute of the field the last one decides. Actions that make no sense can be left out of the
rules without any difference.
-/

namespace LiveForm

/-! ### The order of rules -/

/-- Some rules are those that fire for some data, in the order of application: by priority, and
those of one priority as they are declared. -/
structure FiringOrder (declared : List Rule) (data : FormData) (fired : List Rule) : Prop where
  /-- Lower priorities go first. -/
  byPriority : fired.Pairwise fun a b => a.priority ≤ b.priority
  /-- The rules of one priority that fire are the enabled ones whose conditions hold, in the order
  of declaration. -/
  ties : ∀ p : Int, fired.filter (·.priority == p) =
    declared.filter fun r => r.priority == p && (r.enabled && r.holds data)

/-- The comparison of priorities that rules are sorted by is transitive. -/
theorem priority_le_trans (a b c : Rule) (hab : decide (a.priority ≤ b.priority) = true)
    (hbc : decide (b.priority ≤ c.priority) = true) : decide (a.priority ≤ c.priority) = true := by
  simp only [decide_eq_true_eq] at *
  omega

/-- Of two rules one has a priority that is not larger. -/
theorem priority_le_total (a b : Rule) :
    (decide (a.priority ≤ b.priority) || decide (b.priority ≤ a.priority)) = true := by
  simp only [Bool.or_eq_true, decide_eq_true_eq]
  omega

/-- Sorting by priority leaves rules of one priority in their order. -/
theorem filter_mergeSort_priority (rules : List Rule) (p : Int) :
    (rules.mergeSort fun a b => a.priority ≤ b.priority).filter (·.priority == p) =
      rules.filter (·.priority == p) := by
  have htied : (rules.filter (·.priority == p)).Pairwise
      fun a b => (decide (a.priority ≤ b.priority)) = true := by
    refine List.pairwise_iff_forall_sublist.mpr fun {a b} hab => ?_
    have ha := List.of_mem_filter (hab.subset (by simp : a ∈ [a, b]))
    have hb := List.of_mem_filter (hab.subset (by simp : b ∈ [a, b]))
    simp only [beq_iff_eq] at ha hb
    simp [ha, hb]
  have hsublist := List.sublist_mergeSort priority_le_trans priority_le_total htied
    List.filter_sublist
  have hperm := (List.mergeSort_perm rules fun a b => a.priority ≤ b.priority).filter
    (·.priority == p)
  have h := hsublist.filter (·.priority == p)
  rw [List.filter_filter] at h
  simp only [Bool.and_self] at h
  exact (h.eq_of_length hperm.length_eq.symm).symm

/-- The rules that fire come in the order of application. -/
theorem RuleSet.fired_order (s : RuleSet) (data : FormData) :
    FiringOrder s.rules data (s.fired data) where
  byPriority := by
    refine List.Pairwise.filter _ ?_
    have h := List.pairwise_mergeSort priority_le_trans priority_le_total
      (s.rules.filter (·.enabled))
    exact h.imp fun hab => by simpa using hab
  ties p := by
    unfold fired ordered
    rw [List.filter_filter]
    simp only [Bool.and_comm (_ == p)]
    rw [← List.filter_filter, filter_mergeSort_priority, List.filter_filter, List.filter_filter]
    refine List.filter_congr fun r _ => ?_
    cases r.holds data <;> cases r.enabled <;> simp

/-! ### Votes -/

/-- The last vote on an attribute of a field among some actions. -/
def lastVote {β : Type} (vote? : Action → Option β) (id : String) (actions : List Action) :
    Option β :=
  ((actions.filter (·.targetFieldId == some id)).filterMap vote?).getLast?

/-- The state that a field should have after some actions: of every attribute the last vote counts,
and what the definition says if there is none. A calculated field stays read-only. -/
def FieldState.decided (f : Field) (actions : List Action) (value : Option Json) : FieldState where
  visible := (lastVote Action.visibility? f.id actions).getD !f.defaultHidden
  required := (lastVote Action.requirement? f.id actions).getD f.required
  value := value
  options := (lastVote Action.choices? f.id actions).getD f.options
  disabled := f.isCalculated || (lastVote Action.locking? f.id actions).getD false

/-- An attribute that every action changes by its vote has the last vote after several actions. -/
theorem foldl_after_attribute {β : Type} {vote? : Action → Option β} {get : FieldState → β}
    (h : ∀ s a, get (FieldState.after s a) = (vote? a).getD (get s))
    (actions : List Action) (s : FieldState) :
    get (actions.foldl FieldState.after s) = ((actions.filterMap vote?).getLast?).getD (get s) := by
  induction actions generalizing s with
  | nil => rfl
  | cons a actions ih =>
    rw [List.foldl_cons, ih, h, List.filterMap_cons]
    cases vote? a with
    | none => rfl
    | some v => cases actions.filterMap vote? <;> simp [List.getLast?_cons]

namespace Working

variable {ids : List String}

/-- After some actions the state of every field is what those on it make of its state. -/
theorem after_states (steps : List (Rule × Action)) (w : Working) :
    (w.after ids steps).states = w.states.mapValues fun id s =>
      ((steps.map (·.2)).filter (·.targetFieldId == some id)).foldl FieldState.after s := by
  induction steps generalizing w with
  | nil =>
    ext id
    simp
  | cons step steps ih =>
    rw [after_cons, ih, apply_states]
    ext id
    simp only [SortedMap.get?_mapValues, Option.map_map, List.map_cons, List.filter_cons]
    cases w.states.get? id with
    | none => rfl
    | some s => by_cases h : step.2.targetFieldId = some id <;> simp [h]

/-- After some actions the hints are those of the actions, in order. -/
theorem after_hints (steps : List (Rule × Action)) (w : Working) :
    (w.after ids steps).hints =
      w.hints ++ steps.filterMap fun step => step.2.hint? step.1.id := by
  induction steps generalizing w with
  | nil => simp
  | cons step steps ih =>
    rw [after_cons, ih, apply_hints, List.filterMap_cons]
    cases step.2.hint? step.1.id <;> simp

end Working

/-! ### Actions that make no sense -/

/-- Whether an action makes no sense in a form with the given fields: it is of no known kind, it has
no field of the form as its target, it lacks the value, list or expression that its kind needs, or
it asks for a hint without a text. -/
def Action.isVoid (ids : List String) (a : Action) : Bool :=
  let hasTarget := a.targetFieldId.any ids.contains
  match a.kind with
  | .unknown => true
  | .skipTo | .showMessage => (a.hint? "").isNone
  | .setValue => !hasTarget || a.value.isNone
  | .setOptions => !hasTarget || !(a.value matches some (.list _))
  | .calculate => !hasTarget || a.calculation.isNone
  | .show | .hide | .require | .optional | .enable | .disable => !hasTarget

/-- An action changes nothing that a run over the given fields has produced so far. -/
def Action.IsInert (ids : List String) (a : Action) : Prop :=
  ∀ w : Working, w.Covers ids → ∀ r, (Working.apply ids r w a).value = w

/-- A rule without the actions that a test selects. -/
def Rule.dropActions (drop : Action → Bool) (r : Rule) : Rule :=
  { r with actions := r.actions.filter (!drop ·) }

/-- The rules without the actions that a test selects. -/
def RuleSet.dropActions (drop : Action → Bool) (s : RuleSet) : RuleSet :=
  { s with rules := s.rules.map (Rule.dropActions drop) }

/-- Whether an action has a hint does not depend on the rule. -/
theorem Action.hint?_eq_none_iff {a : Action} (ruleId ruleId' : String) :
    a.hint? ruleId = none ↔ a.hint? ruleId' = none := by
  unfold hint?
  split
  · split <;> simp
  · split
    · simp
    · split <;> simp
  · simp

namespace Working

variable {ids : List String}

/-- What an action does depends on its rule only by the id of the rule. -/
theorem apply_value_congr {r r' : Rule} (h : r.id = r'.id) (w : Working) (a : Action) :
    (apply ids r w a).value = (apply ids r' w a).value := by
  rw [apply_value, apply_value, h]

/-- An action that makes no sense has no vote on a field of the form. -/
theorem after_of_isVoid {a : Action} (ha : a.isVoid ids) {id : String} (hid : ids.contains id)
    (ht : a.targetFieldId = some id) (s : FieldState) : s.after a = s := by
  cases hkind : a.kind with
  | setOptions =>
    cases hvalue : a.value with
    | none =>
      simp [FieldState.after, Action.visibility?, Action.requirement?, Action.choices?,
        Action.locking?, hkind, hvalue]
    | some v =>
      cases v <;> simp_all [Action.isVoid, FieldState.after, Action.visibility?,
        Action.requirement?, Action.choices?, Action.locking?]
  | _ => simp_all [Action.isVoid, FieldState.after, Action.visibility?, Action.requirement?,
      Action.choices?, Action.locking?]

/-- An action that makes no sense writes nothing. -/
theorem write?_of_isVoid {w : Working} (hw : w.Covers ids) {a : Action} (ha : a.isVoid ids) :
    w.write? ids a = none := by
  unfold write?
  cases ht : a.targetFieldId with
  | none => rfl
  | some target =>
    rw [Option.bind_some, hw target]
    split
    case isFalse => rfl
    case isTrue hid =>
      cases hkind : a.kind <;> simp_all [Action.isVoid, Action.written?]

/-- An action that makes no sense adds no hint. -/
theorem hint?_of_isVoid {a : Action} (ha : a.isVoid ids) (ruleId : String) :
    a.hint? ruleId = none := by
  rw [Action.hint?_eq_none_iff ruleId ""]
  cases hkind : a.kind with
  | skipTo | showMessage => simpa [Action.isVoid, hkind] using ha
  | _ => simp [Action.hint?, hkind]

/-- An action changes nothing if it has no vote on a field of the form, writes nothing and adds no
hint. -/
theorem isInert_of_silent {a : Action}
    (hafter : ∀ id, ids.contains id → a.targetFieldId = some id → ∀ s : FieldState, s.after a = s)
    (hwrite : ∀ w : Working, w.Covers ids → w.write? ids a = none)
    (hhint : ∀ ruleId, a.hint? ruleId = none) : a.IsInert ids := by
  intro w hw r
  have hstates : (w.states.mapValues fun id s =>
      if a.targetFieldId = some id then s.after a else s) = w.states := by
    refine mapValues_after_eq_self fun id s hs ht => hafter id ?_ ht s
    rw [← hw id, SortedMap.contains, hs]
    rfl
  rw [apply_value, hstates, hwrite w hw, hhint]
  simp

/-- An action that makes no sense changes nothing. -/
theorem isInert_of_isVoid {a : Action} (ha : a.isVoid ids) : a.IsInert ids :=
  isInert_of_silent (fun _ hid ht s => after_of_isVoid ha hid ht s)
    (fun _ hw => write?_of_isVoid hw ha) (hint?_of_isVoid ha)

/-- Leaving out actions that change nothing makes no difference. -/
theorem after_dropActions {drop : Action → Bool} (hdrop : ∀ a, drop a → a.IsInert ids)
    (rules : List Rule) {w : Working} (hw : w.Covers ids) :
    w.after ids ((rules.map (Rule.dropActions drop)).flatMap Rule.steps) =
      w.after ids (rules.flatMap Rule.steps) := by
  have hactions (r : Rule) (actions : List Action) {w : Working} (hw : w.Covers ids) :
      w.after ids ((actions.filter (!drop ·)).map (r.dropActions drop, ·)) =
        w.after ids (actions.map (r, ·)) ∧ (w.after ids (actions.map (r, ·))).Covers ids := by
    induction actions generalizing w with
    | nil => exact ⟨rfl, hw⟩
    | cons a actions ih =>
      have ih := ih (hw.apply r a)
      refine ⟨?_, ih.2⟩
      rw [List.map_cons, after_cons, ← ih.1, List.filter_cons]
      split
      case isTrue =>
        have hid : (r.dropActions drop).id = r.id := rfl
        rw [List.map_cons, after_cons, apply_value_congr hid]
      case isFalse h => rw [hdrop a (by simpa using h) w hw r]
  induction rules generalizing w with
  | nil => rfl
  | cons r rules ih =>
    obtain ⟨hsame, hcovers⟩ := hactions r r.actions hw
    rw [List.map_cons, List.flatMap_cons, List.flatMap_cons, after_append, after_append]
    change (w.after ids ((r.actions.filter (!drop ·)).map (r.dropActions drop, ·))).after ids _ = _
    rw [hsame]
    exact ih hcovers

end Working

/-- Leaving out actions does not change which rules fire, or when. -/
theorem RuleSet.fired_dropActions (drop : Action → Bool) (s : RuleSet) (data : FormData) :
    (s.dropActions drop).fired data =
      (s.fired data).map (Rule.dropActions drop) := by
  have hsort (rules : List Rule) :
      (rules.map (Rule.dropActions drop)).mergeSort (fun a b => a.priority ≤ b.priority) =
        (rules.mergeSort fun a b => a.priority ≤ b.priority).map (Rule.dropActions drop) :=
    (List.map_mergeSort (by intro a _ b _; rfl)).symm
  unfold fired ordered dropActions
  rw [List.filter_map, hsort, List.filter_map]
  rfl

/-- Actions that change nothing can be left out without any difference to an evaluation. -/
theorem priorityEngine_dropInert {fields : List Field} {drop : Action → Bool}
    (hdrop : ∀ a, drop a → a.IsInert (fields.map (·.id))) (rules : RuleSet) (data : FormData) :
    (priorityEngine fields (rules.dropActions drop) data).value =
      (priorityEngine fields rules data).value := by
  have hids : ((rules.dropActions drop).fired data).map (·.id) =
      (rules.fired data).map (·.id) := by
    rw [RuleSet.fired_dropActions, List.map_map]
    rfl
  rw [priorityEngine_value, priorityEngine_value, hids, RuleSet.steps, RuleSet.fired_dropActions,
    Working.after_dropActions hdrop _ (Working.covers_start fields data)]
  rfl

/-- Actions that make no sense can be left out without any difference to an evaluation. -/
theorem priorityEngine_dropActions {fields : List Field} {drop : Action → Bool}
    (hdrop : ∀ a, drop a → a.isVoid (fields.map (·.id))) (rules : RuleSet) (data : FormData) :
    (priorityEngine fields (rules.dropActions drop) data).value =
      (priorityEngine fields rules data).value :=
  priorityEngine_dropInert (fun a ha => Working.isInert_of_isVoid (hdrop a ha)) rules data

/-! ### The evaluation -/

/-- An evaluation of some data is decided by the last writers among the actions of some rules. -/
structure LastWriterWins (fields : List Field) (rules : RuleSet) (data : FormData)
    (fired : List Rule) (e : Evaluation) : Prop where
  /-- The rules are those that fire for the data that the run started with, in order. -/
  order : FiringOrder rules.rules data fired
  /-- Their ids are reported. -/
  firedRules : e.firedRules = fired.map (·.id)
  /-- There is one state for each field. -/
  keys : e.states.keys.Perm (fields.map (·.id))
  /-- The state of a field is decided by the last votes on it and by the data that came out. -/
  states : ∀ f ∈ fields, e.states.get? f.id =
    some (.decided f (fired.flatMap (·.actions)) (e.formData.get? f.id))
  /-- The hints are those of all actions, in order. -/
  hints : e.hints = (fired.flatMap Rule.steps).filterMap fun step => step.2.hint? step.1.id

/-- The states of a run are those of the definitions, changed by the actions on each field, with
calculated fields read-only and the values of the data. -/
theorem priorityEngine_states (fields : List Field) (rules : RuleSet) (data : FormData) :
    (priorityEngine fields rules data).value.states =
      (Working.start fields data).states.mapValues fun id s =>
        let t := (((rules.fired data).flatMap (·.actions)).filter
          (·.targetFieldId == some id)).foldl FieldState.after s
        { t with
          value := (priorityEngine fields rules data).value.formData.get? id
          disabled :=
            t.disabled || ((fields.filter (·.isCalculated)).map (·.id)).contains id } := by
  have hactions : (rules.steps data).map (·.2) = (rules.fired data).flatMap (·.actions) := by
    simp [RuleSet.steps, Rule.steps, List.map_flatMap, Function.comp_def]
  rw [priorityEngine_value, Working.foldl_refresh]
  ext id
  simp only [Working.finish, SortedMap.get?_mapValues, Working.after_states, hactions,
    Option.map_map]
  cases (Working.start fields data).states.get? id with
  | none => rfl
  | some s =>
    simp only [Option.map_some, Function.comp_apply, List.contains_eq_mem]
    by_cases hid : id ∈ (fields.filter (·.isCalculated)).map (·.id)
    · simp only [hid, if_true, decide_true, Bool.or_true]
    · simp only [hid, if_false, decide_false, Bool.or_false]

/-- The hints of a run are those of the actions that it applies, in order. -/
theorem priorityEngine_hints (fields : List Field) (rules : RuleSet) (data : FormData) :
    (priorityEngine fields rules data).value.hints =
      (rules.steps data).filterMap fun step => step.2.hint? step.1.id := by
  rw [priorityEngine_value, Working.foldl_refresh]
  exact (Working.after_hints _ _).trans (List.nil_append _)

/-- A run reports the rules that fire, in order. -/
theorem priorityEngine_firedRules (fields : List Field) (rules : RuleSet) (data : FormData) :
    (priorityEngine fields rules data).value.firedRules = (rules.fired data).map (·.id) := by
  rw [priorityEngine_value]
  rfl

/-- Whether a field is calculated can be told from its id, as no other field has it. -/
theorem contains_calculated_iff {fields : List Field} (hids : (fields.map (·.id)).Nodup) {f : Field}
    (hf : f ∈ fields) :
    ((fields.filter (·.isCalculated)).map (·.id)).contains f.id = f.isCalculated := by
  rw [Bool.eq_iff_iff, List.contains_iff_mem, List.mem_map]
  constructor
  · rintro ⟨g, hg, hid⟩
    rw [List.mem_filter] at hg
    rw [← List.inj_on_of_nodup_map hids hg.1 hf hid]
    exact hg.2
  · exact fun h => ⟨f, List.mem_filter.mpr ⟨hf, h⟩, rfl⟩

/-- A run starts with the baseline of every field. -/
theorem get?_start_states {fields : List Field} (hids : (fields.map (·.id)).Nodup) (data : FormData)
    {f : Field} (hf : f ∈ fields) :
    (Working.start fields data).states.get? f.id = some (.baseline f (data.get? f.id)) := by
  have hkeys : ((fields.map fun f => (f.id, FieldState.baseline f (data.get? f.id))).map
      (·.1)).Nodup := by
    rw [List.map_map]
    exact hids
  rw [Working.start, SortedMap.get?_ofList hkeys]
  exact SortedMap.find?_eq_some_of_mem hkeys (List.mem_map_of_mem hf)

/-- There is one state for each field. -/
theorem priorityEngine_keys {fields : List Field} (hids : (fields.map (·.id)).Nodup)
    (rules : RuleSet) (data : FormData) :
    (priorityEngine fields rules data).value.states.keys.Perm (fields.map (·.id)) := by
  refine (List.perm_ext_iff_of_nodup (SortedMap.nodup_keys _) hids).mpr fun id => ?_
  rw [SortedMap.mem_keys_iff, priorityEngine_states, SortedMap.get?_mapValues, Option.isSome_map,
    ← SortedMap.mem_keys_iff, Working.start, SortedMap.mem_keys_ofList, List.map_map]
  rfl

/-- **The last writer wins.** In a form with different ids, one run over any data fires the enabled
rules whose conditions hold for that data, by priority and then as declared; of all votes on an
attribute of a field the last one decides, and the definition where there is none; and actions that
make no sense count for nothing. -/
theorem priorityEngine_lastWriterWins {fields : List Field} (hids : (fields.map (·.id)).Nodup)
    (rules : RuleSet) (data : FormData) :
    (∃ fired, LastWriterWins fields rules data fired (priorityEngine fields rules data).value) ∧
      ∀ drop : Action → Bool, (∀ a, drop a → a.isVoid (fields.map (·.id))) →
        (priorityEngine fields (rules.dropActions drop) data).value =
          (priorityEngine fields rules data).value := by
  refine ⟨⟨rules.fired data, rules.fired_order data, ?firedRules,
    priorityEngine_keys hids rules data, fun f hf => ?states, ?hints⟩,
    fun drop hdrop => priorityEngine_dropActions hdrop rules data⟩
  case firedRules => rw [priorityEngine_value]; rfl
  case hints =>
    rw [priorityEngine_value, Working.foldl_refresh]
    exact (Working.after_hints _ _).trans (List.nil_append _)
  case states =>
    have hvotes {β : Type} (vote? : Action → Option β) (get : FieldState → β)
        (h : ∀ s a, get (FieldState.after s a) = (vote? a).getD (get s)) (s : FieldState) :=
      foldl_after_attribute h
        (((rules.fired data).flatMap (·.actions)).filter (·.targetFieldId == some f.id)) s
    rw [priorityEngine_states, SortedMap.get?_mapValues, get?_start_states hids data hf,
      Option.map_some, contains_calculated_iff hids hf]
    simp only [FieldState.decided, lastVote,
      hvotes Action.visibility? FieldState.visible (fun _ _ => rfl),
      hvotes Action.requirement? FieldState.required (fun _ _ => rfl),
      hvotes Action.choices? FieldState.options (fun _ _ => rfl),
      hvotes Action.locking? FieldState.disabled (fun _ _ => rfl)]
    cases hcalculated : f.isCalculated <;> simp [FieldState.baseline, hcalculated]

/-- A bulk order: shipping is set by a rule that also locks it, and the total calls for approval. -/
theorem priorityEngine_lastWriterWins_bulkOrder :
    (Sample.order.fields.map (·.id)).Nodup ∧
      let data : FormData := .ofList [("qty", .int 12), ("price", .float 9.5), ("total", .int 120)]
      (∃ fired, LastWriterWins Sample.order.fields Sample.order.logic data fired
        (priorityEngine Sample.order.fields Sample.order.logic data).value) ∧
      ∀ drop : Action → Bool, (∀ a, drop a → a.isVoid (Sample.order.fields.map (·.id))) →
        (priorityEngine Sample.order.fields (Sample.order.logic.dropActions drop) data).value =
          (priorityEngine Sample.order.fields Sample.order.logic data).value :=
  have hids : (Sample.order.fields.map (·.id)).Nodup := by decide
  ⟨hids, priorityEngine_lastWriterWins hids _ _⟩

end LiveForm
