import LiveForm.Calculation.Substitution
import LiveForm.Document
import LiveForm.Json.Decoding
import LiveForm.Pattern
import LiveForm.Rule.Codec

/-!
# Diagnosis

Mistakes of the author of a form. A broken rule does nothing when the form is used, which hides the
mistake, so the mistakes are looked for beforehand. An error is something that can never take effect
as it is written, a warning something that has an effect but hardly the one that is meant.
-/

namespace LiveForm

/-- How bad a mistake is. -/
inductive Severity where
  | warning
  | error
  deriving DecidableEq, Repr

/-- The name of a severity. -/
def Severity.name : Severity → String
  | .warning => "warning"
  | .error => "error"

/-- A mistake. -/
inductive Problem where
  | duplicateRuleId
  | noConditions
  | undefinedConditionField (id : String)
  | unknownOperator
  | noComparisonValue (id : String)
  | unknownAction
  | noStep
  | noText
  | noTarget (kind : ActionKind)
  | undefinedTarget (id : String)
  | noValue (target : String)
  | noList (target : String)
  | noExpression (target : String)
  | unknownName (name : String)
  | unsafeExpression
  | noFieldExpression
  | selfReference
  | lengthNotNumber (value : Json)
  | invalidPattern (value : Json)
  | unknownCheck
  deriving DecidableEq, Repr

namespace Problem

/-- How bad a mistake is. -/
def severity : Problem → Severity
  | duplicateRuleId | noConditions | undefinedConditionField _ | noComparisonValue _ | noStep
  | noText | noValue _ | noFieldExpression | selfReference | unknownCheck => .warning
  | unknownOperator | unknownAction | noTarget _ | undefinedTarget _ | noList _ | noExpression _
  | unknownName _ | unsafeExpression | lengthNotNumber _ | invalidPattern _ => .error

/-- The wording of a mistake. -/
def message : Problem → String
  | duplicateRuleId => "duplicate rule id"
  | noConditions => "rule has no conditions and never fires"
  | undefinedConditionField id => "condition tests undefined field '" ++ id ++ "'"
  | unknownOperator => "unknown operator; condition is always false"
  | noComparisonValue id => "condition on '" ++ id ++ "' has no comparison value"
  | unknownAction => "unknown action type; action is ignored"
  | noStep => "skip_to has no target step"
  | noText => "show_message has no message"
  | noTarget kind => kind.title ++ " action has no target field"
  | undefinedTarget id => "action targets undefined field '" ++ id ++ "'"
  | noValue target => "set_value on '" ++ target ++ "' has no value"
  | noList target => "set_options on '" ++ target ++ "' needs a list value"
  | noExpression target => "calculate on '" ++ target ++ "' has no expression"
  | unknownName name => "calculation references unknown identifier '" ++ name ++ "'"
  | unsafeExpression =>
    "calculation contains characters outside digits, operators and parentheses"
  | noFieldExpression => "calculated field has no expression"
  | selfReference => "calculation references its own field and changes on every pass"
  | lengthNotNumber value => "length rule value " ++ value.compact ++ " is not a number"
  | invalidPattern value => "pattern " ++ value.compact ++ " is not a valid regular expression"
  | unknownCheck => "unknown validation rule type is ignored"

end Problem

/-- Where a mistake is. -/
inductive Location where
  | rule (id : String)
  | field (id : String)
  deriving DecidableEq, Repr

/-- The wording of a location. -/
def Location.text : Location → String
  | .rule id => "rule '" ++ id ++ "'"
  | .field id => "field '" ++ id ++ "'"

/-- A mistake and where it is. -/
structure Finding where
  location : Location
  problem : Problem
  deriving DecidableEq, Repr

namespace Finding

/-- How bad the mistake is. -/
def severity (f : Finding) : Severity := f.problem.severity

/-- The line that reports a finding. -/
def line (f : Finding) : String :=
  f.severity.name ++ ": " ++ f.location.text ++ ": " ++ f.problem.message

/-- Writes a finding. -/
def toJson (f : Finding) : Json :=
  .object [
    ("severity", .text f.severity.name),
    ("location", .text f.location.text),
    ("message", .text f.problem.message)]

end Finding

/-- The mistakes of an expression over some fields: names that are no field, or else characters that
are refused even with all names replaced. -/
def expressionProblems (ids : List String) (expression : String) : List Problem :=
  match Calculation.unknownNames expression ids with
  | [] =>
    if Calculation.isSafe (Calculation.substitute expression ids ∅) then [] else [.unsafeExpression]
  | names => names.map .unknownName

/-- Whether an operator compares with a value of its own. -/
def Operator.needsValue : Operator → Bool
  | .contains | .notContains | .greaterThan | .lessThan => true
  | _ => false

/-- The mistakes of a condition. -/
def Condition.problems (ids : List String) (c : Condition) : List Problem :=
  (if ids.contains c.fieldId then [] else [.undefinedConditionField c.fieldId]) ++
    if c.operator == .unknown then [.unknownOperator]
    else if c.operator.needsValue && c.value.isNone then [.noComparisonValue c.fieldId]
    else []

namespace Action

/-- Whether an action has a value other than null. -/
def hasValue (a : Action) : Bool := a.value.any (· != .null)

/-- The mistakes of an action on a field in what it does to it. -/
def effectProblems (ids : List String) (a : Action) (target : String) : List Problem :=
  match a.kind with
  | .setValue => if a.value.isNone then [.noValue target] else []
  | .setOptions =>
    match a.value with
    | some (.list _) => []
    | _ => [.noList target]
  | .calculate =>
    match a.calculation with
    | none => [.noExpression target]
    | some expression => expressionProblems ids expression
  | _ => []

/-- The mistakes of an action. -/
def problems (ids : List String) (a : Action) : List Problem :=
  match a.kind with
  | .unknown => [.unknownAction]
  | .skipTo => if a.hasValue || a.targetFieldId.isSome then [] else [.noStep]
  | .showMessage => if a.message.any (!·.isEmpty) || a.hasValue then [] else [.noText]
  | kind =>
    match a.targetFieldId with
    | none => [.noTarget kind]
    | some target =>
      (if ids.contains target then [] else [.undefinedTarget target]) ++
        a.effectProblems ids target

end Action

/-- The mistakes of a rule in itself. -/
def Rule.problems (ids : List String) (r : Rule) : List Problem :=
  (if r.conditions.isEmpty then [.noConditions] else []) ++
    r.conditions.flatMap (Condition.problems ids) ++ r.actions.flatMap (Action.problems ids)

/-- The mistakes of a validation rule. -/
def ValidationRule.problems (r : ValidationRule) : List Problem :=
  match r.kind with
  | .minLength | .maxLength => if r.value.number?.isSome then [] else [.lengthNotNumber r.value]
  | .pattern => if r.value.text?.any Pattern.isValid then [] else [.invalidPattern r.value]
  | .unknown => [.unknownCheck]

namespace Field

/-- The mistakes of the expression of a calculated field. -/
def calculationProblems (ids : List String) (f : Field) : List Problem :=
  match f.calculation.filter (!·.isEmpty) with
  | none => [.noFieldExpression]
  | some expression =>
    expressionProblems ids expression ++
      if Calculation.mentions expression f.id then [.selfReference] else []

/-- The mistakes of a field. -/
def problems (ids : List String) (f : Field) : List Problem :=
  (if f.isCalculated then f.calculationProblems ids else []) ++
    f.validationRules.flatMap ValidationRule.problems

end Field

/-- The findings in rules after some ids of rules have been seen. -/
def ruleFindings (ids seen : List String) : List Rule → List Finding
  | [] => []
  | r :: rs =>
    let repeated := !r.id.isEmpty && seen.contains r.id
    ((if repeated then [Problem.duplicateRuleId] else []) ++ r.problems ids).map
        (Finding.mk (.rule r.id)) ++
      ruleFindings ids (r.id :: seen) rs

/-- The findings in a document: those in its rules, and then those in its fields. -/
def Document.findings (d : Document) : List Finding :=
  ruleFindings d.fieldIds [] d.logic.rules ++
    d.fields.flatMap fun f => (f.problems d.fieldIds).map (Finding.mk (.field f.id))

end LiveForm
