import LiveForm.Engine
import LiveForm.Proofs.SortedMap

/-!
# What an action does

An action votes on at most one attribute of its target, writes at most one value, or adds at most
one hint. Each of these is a function of the action alone, apart from a calculation, which reads the
data. The lemmas here say once what one action, one rule and one refreshed field do to the states,
the data and the hints of a run; whatever is proved about a run cites them.
-/

namespace LiveForm

/-- The result of a loop over logged steps is that of the loop over their results. -/
@[simp] theorem Logged.value_foldlM {α β : Type} (f : β → α → Logged β) (b : β) (l : List α) :
    (l.foldlM f b).value = l.foldl (fun b a => (f b a).value) b := by
  induction l generalizing b with
  | nil => rfl
  | cons a l ih => rw [List.foldlM_cons, value_bind, ih, List.foldl_cons]

namespace Action

/-- Whether an action makes its target visible or hidden. -/
def visibility? (a : Action) : Option Bool :=
  match a.kind with
  | .show => some true
  | .hide => some false
  | _ => none

/-- Whether an action makes an answer of its target required or optional. -/
def requirement? (a : Action) : Option Bool :=
  match a.kind with
  | .require => some true
  | .optional => some false
  | _ => none

/-- The options that an action gives its target: the texts of its value, which has to be a list. -/
def choices? (a : Action) : Option (List String) :=
  match a.kind, a.value with
  | .setOptions, some (.list items) => some (Json.plainTexts items)
  | _, _ => none

/-- Whether an action makes its target read-only or editable. -/
def locking? (a : Action) : Option Bool :=
  match a.kind with
  | .disable => some true
  | .enable => some false
  | _ => none

/-- The value that an action writes into its target when it is applied over some data. -/
def written? (ids : List String) (data : FormData) (a : Action) : Option Json :=
  match a.kind with
  | .setValue => a.value
  | .calculate =>
    a.calculation.bind fun expression =>
      (Calculation.evaluate expression ids data).value.map Json.ofNumber
  | _ => none

/-- What an action writes depends on the data only by the value of its calculation. -/
theorem written?_congr {ids : List String} {d d' : FormData} {a : Action}
    (h : a.kind = .calculate → ∀ expression ∈ a.calculation,
      (Calculation.evaluate expression ids d).value =
        (Calculation.evaluate expression ids d').value) :
    a.written? ids d = a.written? ids d' := by
  unfold written?
  split
  case h_1 | h_3 => rfl
  case h_2 hkind =>
    cases hcalculation : a.calculation with
    | none => rw [Option.bind_none, Option.bind_none]
    | some expression =>
      rw [Option.bind_some, Option.bind_some, h hkind expression hcalculation]

/-- Whether an action is not about a field: it asks for a hint, or it is not known. -/
def IsAside (a : Action) : Prop :=
  a.kind = .skipTo ∨ a.kind = .showMessage ∨ a.kind = .unknown

/-- The hint that an action adds for its rule. A skip goes to the text of the value, or else to the
target; a message is the message of the action, or else the text of the value. Empty texts do not
count. -/
def hint? (ruleId : String) (a : Action) : Option Hint :=
  match a.kind with
  | .skipTo =>
    if Json.asText a.value ≠ "" then some (.skipTo ruleId (Json.asText a.value))
    else a.targetFieldId.map (.skipTo ruleId)
  | .showMessage =>
    if a.message.getD "" ≠ "" then some (.showMessage ruleId (a.message.getD ""))
    else if Json.asText a.value ≠ "" then some (.showMessage ruleId (Json.asText a.value))
    else none
  | _ => none

/-- The target of a skip is the text of the value if there is one, or else the target field. -/
theorem skipTarget?_eq (a : Action) :
    a.skipTarget? =
      if Json.asText a.value ≠ "" then some (Json.asText a.value) else a.targetFieldId := by
  unfold skipTarget? Json.asText
  cases a.value with
  | none => simp
  | some v => by_cases h : Json.plainText v = "" <;> simp [h, Option.filter_some]

/-- The text of a message is the message if there is one, or else the text of the value. -/
theorem messageText?_eq (a : Action) :
    a.messageText? =
      if a.message.getD "" ≠ "" then some (a.message.getD "")
      else if Json.asText a.value ≠ "" then some (Json.asText a.value)
      else none := by
  unfold messageText? Json.asText
  cases a.value with
  | none =>
    cases a.message with
    | none => simp
    | some m => by_cases hm : m = "" <;> simp [hm, Option.filter_some]
  | some v =>
    cases a.message with
    | none => by_cases h : Json.plainText v = "" <;> simp [h, Option.filter_some]
    | some m =>
      by_cases hm : m = "" <;> by_cases h : Json.plainText v = "" <;>
        simp [hm, h, Option.filter_some]

end Action

/-- The state of a field after an action on it. -/
def FieldState.after (s : FieldState) (a : Action) : FieldState where
  visible := a.visibility?.getD s.visible
  required := a.requirement?.getD s.required
  value := s.value
  options := a.choices?.getD s.options
  disabled := a.locking?.getD s.disabled

/-- An action that is not about a field leaves every state as it is. -/
theorem FieldState.after_of_isAside {a : Action} (h : a.IsAside) (s : FieldState) :
    s.after a = s := by
  rcases h with h | h | h <;>
    simp [FieldState.after, Action.visibility?, Action.requirement?, Action.choices?,
      Action.locking?, h]

namespace Working

variable {ids : List String} {rule : Rule} {a : Action}

/-- An action on a defined field changes the state of that field as its votes say. -/
theorem applyTo_states {w : Working} {target : String} {s : FieldState}
    (hs : w.states.get? target = some s) :
    (applyTo ids rule a target s w).value.states = w.states.insert target (s.after a) := by
  have hsame : w.states = w.states.insert target s := by
    ext id
    rw [SortedMap.get?_insert]
    split
    case isTrue h => rw [h, hs]
    case isFalse => rfl
  obtain ⟨_, kind, _, value, calculation, _⟩ := a
  cases kind with
  | setValue => cases value <;> exact hsame
  | setOptions =>
    rcases value with _ | v
    · exact hsame
    · cases v <;> first | exact hsame | rfl
  | calculate =>
    rcases calculation with _ | expression
    · exact hsame
    · simp only [applyTo, Logged.value_bind]
      split <;> exact hsame
  | skipTo | showMessage | unknown => exact hsame
  | _ => rfl

/-- An action on a defined field writes its value into that field, if it has one to write. -/
theorem applyTo_data {w : Working} {target : String} {s : FieldState} :
    (applyTo ids rule a target s w).value.data =
      ((a.written? ids w.data).map (w.data.insert target)).getD w.data := by
  obtain ⟨_, kind, _, value, calculation, _⟩ := a
  cases kind with
  | setValue => cases value <;> rfl
  | setOptions =>
    rcases value with _ | v
    · rfl
    · cases v <;> rfl
  | calculate =>
    rcases calculation with _ | expression
    · rfl
    · simp only [applyTo, Action.written?, Logged.value_bind, Option.bind_some]
      cases (Calculation.evaluate expression ids w.data).value <;> rfl
  | _ => rfl

/-- An action on a defined field adds no hint. -/
theorem applyTo_hints {w : Working} {target : String} {s : FieldState} :
    (applyTo ids rule a target s w).value.hints = w.hints := by
  obtain ⟨_, kind, _, value, calculation, _⟩ := a
  cases kind with
  | setValue => cases value <;> rfl
  | setOptions =>
    rcases value with _ | v
    · rfl
    · cases v <;> rfl
  | calculate =>
    rcases calculation with _ | expression
    · rfl
    · simp only [applyTo, Logged.value_bind]
      cases (Calculation.evaluate expression ids w.data).value <;> rfl
  | _ => rfl

/-- Where the target of an action has no state, or the action leaves it as it is, so do all fields.
-/
theorem mapValues_after_eq_self {states : FieldStates}
    (h : ∀ id s, states.get? id = some s → a.targetFieldId = some id → s.after a = s) :
    (states.mapValues fun id s => if a.targetFieldId = some id then s.after a else s) = states := by
  ext id
  rw [SortedMap.get?_mapValues]
  cases hs : states.get? id with
  | none => rfl
  | some s =>
    rw [Option.map_some]
    split
    case isTrue ht => rw [h id s hs ht]
    case isFalse => rfl

/-- An action about a field changes the state of its target as its votes say. -/
theorem applyToField_states (w : Working) :
    (applyToField ids rule a w).value.states =
      w.states.mapValues fun id s => if a.targetFieldId = some id then s.after a else s := by
  unfold applyToField
  split
  case h_1 hnone =>
    exact (mapValues_after_eq_self fun id s _ ht => by simp [hnone] at ht).symm
  case h_2 target htarget =>
    split
    case h_1 hundefined =>
      refine (mapValues_after_eq_self fun id s hs ht => ?_).symm
      obtain rfl : target = id := by simpa [htarget] using ht
      change w.states.get? target = some s at hs
      rw [hundefined] at hs
      cases hs
    case h_2 s hs =>
      rw [applyTo_states hs]
      ext id
      rw [SortedMap.get?_insert, SortedMap.get?_mapValues, htarget]
      by_cases hid : id = target
      · simp [hid, hs]
      · simp [hid, Ne.symm hid]

/-- Applying an action is applying it to its field, unless it is not about a field; then states and
data stay as they are. -/
theorem apply_cases (w : Working) :
    apply ids rule w a = applyToField ids rule a w ∧ ¬a.IsAside ∨
      a.IsAside ∧ (apply ids rule w a).value.states = w.states ∧
        (apply ids rule w a).value.data = w.data := by
  unfold apply
  split
  case h_1 hkind => right; refine ⟨.inl hkind, ?_⟩; split <;> exact ⟨rfl, rfl⟩
  case h_2 hkind => right; refine ⟨.inr (.inl hkind), ?_⟩; split <;> exact ⟨rfl, rfl⟩
  case h_3 hkind => exact .inr ⟨.inr (.inr hkind), rfl, rfl⟩
  case h_4 h₁ h₂ h₃ => exact .inl ⟨rfl, fun h => by rcases h with h | h | h <;> contradiction⟩

/-- An action changes the state of its target as its votes say, and of no other field. -/
theorem apply_states (w : Working) :
    (apply ids rule w a).value.states =
      w.states.mapValues fun id s => if a.targetFieldId = some id then s.after a else s := by
  rcases apply_cases w with ⟨h, _⟩ | ⟨haside, h, _⟩
  · rw [h]
    exact applyToField_states w
  · rw [h]
    exact (mapValues_after_eq_self fun _ s _ _ => s.after_of_isAside haside).symm

/-- The entry that an action writes: a value for its target, if the target is defined. -/
def write? (ids : List String) (w : Working) (a : Action) : Option (String × Json) :=
  a.targetFieldId.bind fun target =>
    if w.states.contains target then (a.written? ids w.data).map (target, ·) else none

/-- An action writes at most one value, into its target, and leaves the rest of the data as it is.
-/
theorem apply_data (w : Working) :
    (apply ids rule w a).value.data =
      ((w.write? ids a).map fun e => w.data.insert e.1 e.2).getD w.data := by
  rcases apply_cases w with ⟨h, _⟩ | ⟨haside, _, h⟩
  · rw [h]
    unfold applyToField write? SortedMap.contains
    split
    case h_1 hnone => simp [hnone, ignore]
    case h_2 target htarget =>
      split
      case h_1 hundefined => simp [htarget, hundefined, ignore]
      case h_2 s hs =>
        rw [applyTo_data, htarget, Option.bind_some, hs, Option.isSome_some, if_pos rfl]
        cases a.written? ids w.data <;> rfl
  · have hwritten : a.written? ids w.data = none := by
      rcases haside with h | h | h <;> simp [Action.written?, h]
    rw [h, write?]
    cases a.targetFieldId <;> simp [hwritten]

/-- An action adds its hint, if it has one, after those that are there. -/
theorem apply_hints (w : Working) :
    (apply ids rule w a).value.hints = w.hints ++ (a.hint? rule.id).toList := by
  unfold apply Action.hint?
  split
  case h_1 hkind =>
    rw [Action.skipTarget?_eq]
    split
    case h_1 target htarget =>
      by_cases ht : Json.asText a.value = "" <;> simp_all [hint]
    case h_2 hnone =>
      by_cases ht : Json.asText a.value = "" <;> simp_all [ignore]
  case h_2 hkind =>
    rw [Action.messageText?_eq]
    split
    case h_1 message hmessage =>
      by_cases hm : a.message.getD "" = "" <;> by_cases ht : Json.asText a.value = "" <;>
        simp_all [hint]
    case h_2 hnone =>
      by_cases hm : a.message.getD "" = "" <;> by_cases ht : Json.asText a.value = "" <;>
        simp_all [ignore]
  case h_3 hkind => simp [hkind, ignore]
  case h_4 h₁ h₂ h₃ =>
    have hfield : (applyToField ids rule a w).value.hints = w.hints := by
      unfold applyToField
      split
      · rfl
      · split
        · rfl
        · exact applyTo_hints
    simp [hfield]

/-- All that an action does. -/
theorem apply_value (w : Working) :
    (apply ids rule w a).value =
      { states := w.states.mapValues fun id s =>
          if a.targetFieldId = some id then s.after a else s
        data := ((w.write? ids a).map fun e => w.data.insert e.1 e.2).getD w.data
        hints := w.hints ++ (a.hint? rule.id).toList } := by
  rw [← apply_states, ← apply_data, ← apply_hints]

end Working

/-! ### Rules -/

namespace Rule

/-- Whether the conditions of a rule hold: it has some, and all or any of them hold, as it says. -/
def holds (r : Rule) (data : FormData) : Bool :=
  !r.conditions.isEmpty &&
    match r.conditionLogic with
    | .all => r.conditions.all (·.holds data)
    | .any => r.conditions.any (·.holds data)

/-- Whether the conditions of a rule hold depends on the values that they test, and on no other. -/
theorem holds_congr {r : Rule} {d d' : FormData}
    (h : ∀ t ∈ r.conditions, d.get? t.fieldId = d'.get? t.fieldId) : r.holds d = r.holds d' := by
  have hconditions : ∀ t ∈ r.conditions, t.holds d = t.holds d' := fun t ht => by
    rw [Condition.holds, Condition.holds, h t ht]
  have hall : r.conditions.all (·.holds d) = r.conditions.all (·.holds d') := by
    rw [Bool.eq_iff_iff, List.all_eq_true, List.all_eq_true]
    exact forall₂_congr fun t ht => by rw [hconditions t ht]
  have hany : r.conditions.any (·.holds d) = r.conditions.any (·.holds d') := by
    rw [Bool.eq_iff_iff, List.any_eq_true, List.any_eq_true]
    exact exists_congr fun t => and_congr_right fun ht => by rw [hconditions t ht]
  rw [holds, holds, hall, hany]

/-- Testing conditions until one gives an answer tells whether one of them gives it. -/
theorem testUntil_value (r : Rule) (data : FormData) (stop : Bool) (cs : List Condition) :
    (r.testUntil data stop cs).value = cs.any (fun c => c.holds data == stop) := by
  induction cs with
  | nil => rfl
  | cons c cs ih =>
    have htest : (r.test data c).value = c.holds data := rfl
    simp only [testUntil, Logged.value_bind, htest, List.any_cons]
    split
    case isTrue h => simp [h]
    case isFalse h => simp [h, ih]

/-- A rule is satisfied exactly when its conditions hold. -/
@[simp] theorem satisfied_value (r : Rule) (data : FormData) :
    (r.satisfied data).value = r.holds data := by
  unfold satisfied holds
  split
  case isTrue h => simp [h]
  case isFalse h =>
    simp only [h, Bool.not_false, Bool.true_and]
    cases r.conditionLogic with
    | all => simp [testUntil_value, List.all_eq_not_any_not]
    | any => simp [testUntil_value]

/-- The actions of a rule, each with the rule that it belongs to. -/
def steps (r : Rule) : List (Rule × Action) := r.actions.map (r, ·)

end Rule

namespace RuleSet

/-- The rules that fire for some data, in the order in which they are applied. -/
def fired (s : RuleSet) (data : FormData) : List Rule := s.ordered.filter (·.holds data)

/-- The actions that are applied for some data, in order, each with its rule. -/
def steps (s : RuleSet) (data : FormData) : List (Rule × Action) :=
  (s.fired data).flatMap Rule.steps

end RuleSet

namespace Working

variable {ids : List String}

/-- What is there after some actions. -/
def after (ids : List String) (w : Working) (steps : List (Rule × Action)) : Working :=
  steps.foldl (fun w step => (apply ids step.1 w step.2).value) w

@[simp] theorem after_nil (w : Working) : w.after ids [] = w := rfl

@[simp] theorem after_cons (w : Working) (step : Rule × Action) (steps : List (Rule × Action)) :
    w.after ids (step :: steps) = (apply ids step.1 w step.2).value.after ids steps := rfl

theorem after_append (w : Working) (first second : List (Rule × Action)) :
    w.after ids (first ++ second) = (w.after ids first).after ids second :=
  List.foldl_append

/-- Firing rules applies the actions of those whose conditions hold, and reports their ids. -/
theorem fireAll_value (data : FormData) (rules : List Rule) (w : Working) :
    (fireAll ids data rules w).value =
      (w.after ids ((rules.filter (·.holds data)).flatMap Rule.steps),
        (rules.filter (·.holds data)).map (·.id)) := by
  induction rules generalizing w with
  | nil => rfl
  | cons r rules ih =>
    have hfire : (fire ids data w r).value =
        (if r.holds data then w.after ids r.steps else w, r.holds data) := by
      simp only [fire, Logged.value_bind, Rule.satisfied_value]
      split
      case isTrue h => simp [h, after, Rule.steps, List.foldl_map]
      case isFalse h => simp [h]
    simp only [fireAll, Logged.value_bind, Logged.value_pure, hfire, ih]
    by_cases h : r.holds data
    · simp [h, after_append]
    · simp [h]

/-! ### Calculated fields -/

/-- The data after a calculated field has been evaluated. -/
def refreshed (ids : List String) (data : FormData) (f : Field) : FormData :=
  ((f.calculation.bind fun expression => (Calculation.evaluate expression ids data).value).map
    fun x => data.insert f.id (.ofNumber x)).getD data

/-- Making a field read-only changes no other state. -/
theorem disable_states (w : Working) (id : String) :
    (w.disable id).states =
      w.states.mapValues fun id' s => if id = id' then { s with disabled := true } else s := by
  unfold disable
  ext id'
  rw [SortedMap.get?_mapValues]
  cases hs : w.states.get? id with
  | none =>
    by_cases h : id = id'
    · simp [← h, hs]
    · simp [h]
  | some s =>
    by_cases h : id = id'
    · simp [setState, ← h, hs]
    · simp [setState, h, Ne.symm h]

@[simp] theorem disable_data (w : Working) (id : String) : (w.disable id).data = w.data := by
  unfold disable
  split <;> rfl

@[simp] theorem disable_hints (w : Working) (id : String) : (w.disable id).hints = w.hints := by
  unfold disable
  split <;> rfl

/-- Refreshing a field keeps it read-only, writes the value of its calculation if there is one, and
adds no hint. -/
theorem refresh_value (w : Working) (f : Field) :
    (refresh ids w f).value =
      { states := (w.disable f.id).states
        data := refreshed ids w.data f
        hints := w.hints } := by
  have hdisabled (data : FormData) : ({ w with data := data }.disable f.id) =
      { states := (w.disable f.id).states, data := data, hints := w.hints } := by
    simp only [disable]
    cases w.states.get? f.id <;> rfl
  unfold refresh refreshed
  cases f.calculation with
  | none => exact hdisabled w.data
  | some expression =>
    simp only [Logged.value_bind, Option.bind_some]
    cases (Calculation.evaluate expression ids w.data).value with
    | none => exact hdisabled w.data
    | some x => exact hdisabled _

/-- Refreshing fields makes all of them read-only, evaluates them one after another, and adds no
hint. -/
theorem foldl_refresh (fields : List Field) (w : Working) :
    fields.foldl (fun w f => (refresh ids w f).value) w =
      { states := w.states.mapValues fun id s =>
          if id ∈ fields.map (·.id) then { s with disabled := true } else s
        data := fields.foldl (refreshed ids) w.data
        hints := w.hints } := by
  induction fields generalizing w with
  | nil =>
    have hstates : (w.states.mapValues fun _ s => s) = w.states := by
      ext id
      simp
    simp [hstates]
  | cons f fields ih =>
    rw [List.foldl_cons, ih, refresh_value]
    simp only [List.foldl_cons, List.map_cons, List.mem_cons, disable_states, mk.injEq, and_true]
    ext id
    simp only [SortedMap.get?_mapValues, Option.map_map]
    cases w.states.get? id with
    | none => rfl
    | some s =>
      by_cases h : f.id = id
      · simp [h]
      · simp [h, Ne.symm h]

end Working

/-- The evaluation of one run: the actions of the rules that fire are applied to the baseline, then
the calculated fields are evaluated, and at last every state gets the value in the data. -/
theorem priorityEngine_value (fields : List Field) (rules : RuleSet) (data : FormData) :
    (priorityEngine fields rules data).value =
      ((fields.filter (·.isCalculated)).foldl
        (fun w f => (Working.refresh (fields.map (·.id)) w f).value)
        ((Working.start fields data).after (fields.map (·.id)) (rules.steps data))).finish
        ((rules.fired data).map (·.id)) := by
  simp only [priorityEngine, Logged.value_bind, Logged.value_pure, Working.fireAll_value,
    Logged.value_foldlM]
  rfl

end LiveForm
