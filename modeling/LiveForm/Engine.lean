import LiveForm.Calculation.Evaluation
import LiveForm.Condition
import LiveForm.Rule.Codec
import LiveForm.State

/-!
# The rule engine

One run of the engine over form data. Every enabled rule whose conditions hold for the data fires,
in the order of priorities, and its actions are applied in order; the last action on an attribute of
a field decides it. Then every calculated field is evaluated, in the order of definition. Conditions
read the data that the run started with, calculations the data as written so far.
-/

namespace LiveForm

/-- A way to evaluate a form: from definitions, rules and data alone. -/
abbrev Engine := List Field → RuleSet → FormData → Logged Evaluation

namespace RuleSet

/-- The enabled rules in the order in which they are applied: by priority, and rules of equal
priority as they are written. -/
def ordered (s : RuleSet) : List Rule :=
  (s.rules.filter (·.enabled)).mergeSort fun a b => a.priority ≤ b.priority

end RuleSet

namespace Action

/-- The step that an action skips to: the text of its value, or else its target. -/
def skipTarget? (a : Action) : Option String :=
  (a.value.map Json.plainText).filter (!·.isEmpty) <|> a.targetFieldId

/-- The text that an action shows: its message, or else the text of its value. -/
def messageText? (a : Action) : Option String :=
  (a.message.filter (!·.isEmpty) <|> a.value.map Json.plainText).filter (!·.isEmpty)

end Action

/-- The states, data and hints that a run has produced so far. -/
structure Working where
  states : FieldStates
  data : FormData
  hints : List Hint
  deriving DecidableEq, Repr

namespace Working

/-- An event of the engine. -/
def event (level : Level) (message : String) (details : List (String × String)) : Event :=
  ⟨level, "formflow_rules::engine", message, details⟩

/-- What a run starts with. Of several fields with one id the last counts. -/
def start (fields : List Field) (data : FormData) : Working where
  states := SortedMap.ofList (fields.map fun f => (f.id, FieldState.baseline f (data.get? f.id)))
  data := data
  hints := []

/-- Changes the state of a field. -/
def setState (w : Working) (id : String) (s : FieldState) : Working :=
  { w with states := w.states.insert id s }

/-- Writes a value. -/
def write (w : Working) (id : String) (v : Json) : Working :=
  { w with data := w.data.insert id v }

/-- Adds a hint. -/
def hint (w : Working) (h : Hint) : Working := { w with hints := w.hints ++ [h] }

/-- Leaves everything as it is and reports why. -/
def ignore (w : Working) (level : Level) (message : String) (details : List (String × String)) :
    Logged Working := do
  Logged.log (event level message details)
  return w

/-- Applies an action to a field that is defined and has the given state. -/
def applyTo (ids : List String) (rule : Rule) (a : Action) (target : String) (s : FieldState)
    (w : Working) : Logged Working :=
  let about := [("rule_id", rule.id), ("target", target)]
  match a.kind with
  | .show => pure (w.setState target { s with visible := true })
  | .hide => pure (w.setState target { s with visible := false })
  | .require => pure (w.setState target { s with required := true })
  | .optional => pure (w.setState target { s with required := false })
  | .enable => pure (w.setState target { s with disabled := false })
  | .disable => pure (w.setState target { s with disabled := true })
  | .setValue =>
    match a.value with
    | some v => pure (w.write target v)
    | none => w.ignore .debug "set_value without a value; ignored" about
  | .setOptions =>
    match a.value with
    | some (.list items) => pure (w.setState target { s with options := Json.plainTexts items })
    | _ => w.ignore .warn "set_options value is not a list; ignored" about
  | .calculate =>
    match a.calculation with
    | some expression => do
      match ← Calculation.evaluate expression ids w.data with
      | some x => return w.write target (.ofNumber x)
      | none => return w
    | none => w.ignore .warn "calculate without an expression; ignored" about
  | .skipTo | .showMessage | .unknown => pure w

/-- Applies an action that changes a field. -/
def applyToField (ids : List String) (rule : Rule) (a : Action) (w : Working) : Logged Working :=
  match a.targetFieldId with
  | none =>
    w.ignore .warn "action has no target field; ignored"
      [("rule_id", rule.id), ("action", a.kind.title)]
  | some target =>
    match w.states.get? target with
    | none =>
      w.ignore .warn "action targets an undefined field; ignored"
        [("rule_id", rule.id), ("target", target)]
    | some s => applyTo ids rule a target s w

/-- Applies an action of a rule that fires. -/
def apply (ids : List String) (rule : Rule) (w : Working) (a : Action) : Logged Working :=
  match a.kind with
  | .skipTo =>
    match a.skipTarget? with
    | some target => pure (w.hint (.skipTo rule.id target))
    | none => w.ignore .debug "skip_to without a target; ignored" [("rule_id", rule.id)]
  | .showMessage =>
    match a.messageText? with
    | some message => pure (w.hint (.showMessage rule.id message))
    | none => w.ignore .debug "show_message without text; ignored" [("rule_id", rule.id)]
  | .unknown =>
    w.ignore .warn "unknown action type; ignored" [("rule_id", rule.id), ("action_id", a.id)]
  | _ => applyToField ids rule a w

/-- Fires a rule if its conditions hold for the data that the run started with. The second part of
the result tells whether it did. -/
def fire (ids : List String) (data : FormData) (w : Working) (rule : Rule) :
    Logged (Working × Bool) := do
  if ← rule.satisfied data then
    Logged.log
      (event .debug "rule fired" [("rule_id", rule.id), ("priority", toString rule.priority)])
    let w ← rule.actions.foldlM (apply ids rule) w
    return (w, true)
  else return (w, false)

/-- Fires those of some rules whose conditions hold, and collects their ids. -/
def fireAll (ids : List String) (data : FormData) :
    List Rule → Working → Logged (Working × List String)
  | [], w => pure (w, [])
  | rule :: rules, w => do
    let (w, fired) ← fire ids data w rule
    let (w, rest) ← fireAll ids data rules w
    return (w, if fired then rule.id :: rest else rest)

/-- Makes a field read-only. -/
def disable (w : Working) (id : String) : Working :=
  match w.states.get? id with
  | some s => w.setState id { s with disabled := true }
  | none => w

/-- Evaluates a calculated field over the data written so far, and keeps it read-only. A calculation
without a value leaves the value that is there. -/
def refresh (ids : List String) (w : Working) (f : Field) : Logged Working :=
  match f.calculation with
  | none => pure (w.disable f.id)
  | some expression => do
    match ← Calculation.evaluate expression ids w.data with
    | some x => return (w.write f.id (.ofNumber x)).disable f.id
    | none =>
      Logged.log
        (event .debug "calculation produced no value; keeping previous value"
          [("field_id", f.id)])
      return w.disable f.id

/-- The evaluation of a run that is done: every state has the value that the data has. -/
def finish (w : Working) (fired : List String) : Evaluation where
  states := w.states.mapValues fun id s => { s with value := w.data.get? id }
  formData := w.data
  hints := w.hints
  firedRules := fired

end Working

/-- One run over form data. -/
def priorityEngine : Engine := fun fields rules data => do
  let ids := fields.map (·.id)
  let (w, fired) ← Working.fireAll ids data rules.ordered (Working.start fields data)
  let w ← (fields.filter (·.isCalculated)).foldlM (Working.refresh ids) w
  return w.finish fired

end LiveForm
