import LiveForm.Json.Basic

/-!
# Rules

A rule reads: when these conditions hold, apply these actions. The rules of a form are applied in
the order of their priorities, and rules of equal priority in the order in which they are written.
-/

namespace LiveForm

/-- How a condition compares the answer of its field with its own value. -/
inductive Operator where
  | equals
  | notEquals
  | contains
  | notContains
  | greaterThan
  | lessThan
  | isEmpty
  | isNotEmpty
  | unknown
  deriving DecidableEq, Repr

/-- A test of the answer of one field. -/
structure Condition where
  /-- The name of the condition in reports. -/
  id : String := ""
  /-- The field whose answer is tested. -/
  fieldId : String
  /-- The comparison. -/
  operator : Operator
  /-- The value to compare with. -/
  value : Option Json := none
  deriving DecidableEq, Repr

/-- How a rule combines its conditions. -/
inductive ConditionLogic where
  | all
  | any
  deriving DecidableEq, Repr

/-- What an action does. -/
inductive ActionKind where
  | show
  | hide
  | require
  | optional
  | enable
  | disable
  | setValue
  | setOptions
  | calculate
  | skipTo
  | showMessage
  | unknown
  deriving DecidableEq, Repr

/-- One effect of a rule. -/
structure Action where
  /-- The name of the action in reports. -/
  id : String := ""
  /-- What it does. -/
  kind : ActionKind
  /-- The field that it changes. -/
  targetFieldId : Option String := none
  /-- The value that it sets, or the step that it skips to. -/
  value : Option Json := none
  /-- The expression that it evaluates. -/
  calculation : Option String := none
  /-- The text that it shows. -/
  message : Option String := none
  deriving DecidableEq, Repr

/-- Conditions and the actions that follow from them. -/
structure Rule where
  /-- The name of the rule in reports. -/
  id : String := ""
  /-- A title for its author. -/
  name : String := ""
  /-- A note for its author. -/
  description : String := ""
  /-- Whether it takes part at all. -/
  enabled : Bool := true
  /-- The conditions. A rule without conditions never fires. -/
  conditions : List Condition := []
  /-- How the conditions are combined. -/
  conditionLogic : ConditionLogic := .all
  /-- The actions, applied in order. -/
  actions : List Action := []
  /-- Rules of a lower priority go first, so that later ones have the last word. -/
  priority : Int := 0
  deriving DecidableEq, Repr

/-- Switches for whoever shows the form. -/
structure GlobalSettings where
  enableAnimations : Bool := false
  showLogicIndicators : Bool := false
  debugMode : Bool := false
  deriving DecidableEq, Repr

/-- The rules of a form and its switches. -/
structure RuleSet where
  rules : List Rule := []
  globalSettings : GlobalSettings := {}
  deriving DecidableEq, Repr

/-- An action on a field, without any further value. -/
def Action.targeting (kind : ActionKind) (target : String) : Action :=
  { kind, targetFieldId := some target }

/-- Adds an action to the end of every rule. -/
def RuleSet.addAction (rules : RuleSet) (action : Action) : RuleSet :=
  { rules with rules := rules.rules.map fun r => { r with actions := r.actions ++ [action] } }

end LiveForm
