import LiveForm.Json.Decoding
import LiveForm.Rule

/-!
# Rules in documents

How rules are written in a document and read from one. The rules of a form may be a list, or an
object keyed by rule id: then they come in the order of the keys, and a key stands for an id that is
left out. Operators and actions that are not known read as `unknown`.
-/

namespace LiveForm

open Json (Format)

namespace Operator

/-- The name of an operator. -/
def name : Operator → String
  | .equals => "equals"
  | .notEquals => "not_equals"
  | .contains => "contains"
  | .notContains => "not_contains"
  | .greaterThan => "greater_than"
  | .lessThan => "less_than"
  | .isEmpty => "is_empty"
  | .isNotEmpty => "is_not_empty"
  | .unknown => "unknown"

/-- The operators that have a name of their own. -/
def all : List Operator :=
  [.equals, .notEquals, .contains, .notContains, .greaterThan, .lessThan, .isEmpty, .isNotEmpty]

/-- The operator of a name. -/
def ofName (s : String) : Operator := (all.find? (·.name == s)).getD .unknown

/-- Reads an operator. -/
def ofJson? (v : Json) : Option Operator := (Json.member? .json v).map ofName

@[simp]
theorem ofName_name (o : Operator) : ofName o.name = o := by cases o <;> decide

end Operator

namespace Condition

/-- Writes a condition. -/
def toJson (c : Condition) : Json :=
  .object <|
    [("id", .text c.id), ("field_id", .text c.fieldId), ("operator", .text c.operator.name)] ++
    Json.entryOf "value" (fun v => v) c.value

/-- Reads a condition. -/
def ofJson? : Json → Option Condition :=
  Json.record? .json 4 fun v => do
    let id ← Json.part? ["id"] 0 (some "") Json.text? v
    let fieldId ← Json.part? ["field_id", "fieldId"] 1 none Json.text? v
    let operator ← Json.part? ["operator"] 2 none Operator.ofJson? v
    let value ← Json.part? ["value"] 3 (some none) (Json.optional? Json.free?) v
    return { id, fieldId, operator, value }

end Condition

namespace ConditionLogic

/-- The name of a combination. -/
def name : ConditionLogic → String
  | .all => "AND"
  | .any => "OR"

/-- Reads a combination, in capital or small letters. -/
def ofJson? (v : Json) : Option ConditionLogic :=
  match Json.member? .json v with
  | some "AND" | some "and" => some .all
  | some "OR" | some "or" => some .any
  | _ => none

end ConditionLogic

namespace ActionKind

/-- The name of a kind of action. -/
def name : ActionKind → String
  | .show => "show"
  | .hide => "hide"
  | .require => "require"
  | .optional => "optional"
  | .enable => "enable"
  | .disable => "disable"
  | .setValue => "set_value"
  | .setOptions => "set_options"
  | .calculate => "calculate"
  | .skipTo => "skip_to"
  | .showMessage => "show_message"
  | .unknown => "unknown"

/-- The kinds that have a name of their own. -/
def all : List ActionKind :=
  [.show, .hide, .require, .optional, .enable, .disable, .setValue, .setOptions, .calculate,
    .skipTo, .showMessage]

/-- The kind of a name. -/
def ofName (s : String) : ActionKind := (all.find? (·.name == s)).getD .unknown

/-- Reads a kind of action. -/
def ofJson? (v : Json) : Option ActionKind := (Json.member? .json v).map ofName

@[simp]
theorem ofName_name (k : ActionKind) : ofName k.name = k := by cases k <;> decide

/-- The name of a kind of action in reports, which write it as one capitalised word. -/
def title : ActionKind → String
  | .show => "Show"
  | .hide => "Hide"
  | .require => "Require"
  | .optional => "Optional"
  | .enable => "Enable"
  | .disable => "Disable"
  | .setValue => "SetValue"
  | .setOptions => "SetOptions"
  | .calculate => "Calculate"
  | .skipTo => "SkipTo"
  | .showMessage => "ShowMessage"
  | .unknown => "Unknown"

end ActionKind

namespace Action

/-- Writes an action. -/
def toJson (a : Action) : Json :=
  .object <|
    [("id", .text a.id), ("type", .text a.kind.name)] ++
    Json.entryOf "target_field_id" .text a.targetFieldId ++
    Json.entryOf "value" (fun v => v) a.value ++
    Json.entryOf "calculation" .text a.calculation ++
    Json.entryOf "message" .text a.message

/-- Reads an action. -/
def ofJson? : Json → Option Action :=
  Json.record? .json 6 fun v => do
    let id ← Json.part? ["id"] 0 (some "") Json.text? v
    let kind ← Json.part? ["type"] 1 none ActionKind.ofJson? v
    let targetFieldId ←
      Json.part? ["target_field_id", "targetFieldId"] 2 (some none) (Json.optional? Json.text?) v
    let value ← Json.part? ["value"] 3 (some none) (Json.optional? Json.free?) v
    let calculation ← Json.part? ["calculation"] 4 (some none) (Json.optional? Json.text?) v
    let message ← Json.part? ["message"] 5 (some none) (Json.optional? Json.text?) v
    return { id, kind, targetFieldId, value, calculation, message }

end Action

namespace Rule

/-- Writes a rule. -/
def toJson (r : Rule) : Json :=
  .object [
    ("id", .text r.id),
    ("name", .text r.name),
    ("description", .text r.description),
    ("enabled", .bool r.enabled),
    ("conditions", .list (r.conditions.map Condition.toJson)),
    ("condition_logic", .text r.conditionLogic.name),
    ("actions", .list (r.actions.map Action.toJson)),
    ("priority", .int r.priority)]

/-- Reads a rule. -/
def ofJson? : Json → Option Rule :=
  Json.record? .json 8 fun v => do
    let id ← Json.part? ["id"] 0 (some "") Json.text? v
    let name ← Json.part? ["name"] 1 (some "") Json.text? v
    let description ← Json.part? ["description"] 2 (some "") Json.text? v
    let enabled ← Json.part? ["enabled"] 3 (some true) Json.bool? v
    let conditions ← Json.part? ["conditions"] 4 (some []) (Json.listOf? Condition.ofJson?) v
    let conditionLogic ←
      Json.part? ["condition_logic", "conditionLogic"] 5 (some .all) ConditionLogic.ofJson? v
    let actions ← Json.part? ["actions"] 6 (some []) (Json.listOf? Action.ofJson?) v
    let priority ←
      Json.part? ["priority"] 7 (some 0) (Json.intWithin? Json.int64Range.1 Json.int64Range.2) v
    return { id, name, description, enabled, conditions, conditionLogic, actions, priority }

/-- The rule with an id of its own, or else the given one. -/
def withId (r : Rule) (id : String) : Rule := if r.id.isEmpty then { r with id } else r

/-- Reads the rules of a form: a list, or an object keyed by id. -/
def listOfJson? (v : Json) : Option (List Rule) :=
  match v with
  | .list _ => Json.listOf? ofJson? v
  | _ => (Json.mapOf? ofJson? v).map fun m => m.toList.map fun e => e.2.withId e.1

end Rule

namespace GlobalSettings

/-- Writes the switches of a form. -/
def toJson (s : GlobalSettings) : Json :=
  .object [
    ("enable_animations", .bool s.enableAnimations),
    ("show_logic_indicators", .bool s.showLogicIndicators),
    ("debug_mode", .bool s.debugMode)]

/-- Reads the switches of a form. -/
def ofJson? (format : Format) : Json → Option GlobalSettings :=
  Json.record? format 3 fun v => do
    let enableAnimations ←
      Json.part? ["enable_animations", "enableAnimations"] 0 (some false) Json.bool? v
    let showLogicIndicators ←
      Json.part? ["show_logic_indicators", "showLogicIndicators"] 1 (some false) Json.bool? v
    let debugMode ← Json.part? ["debug_mode", "debugMode"] 2 (some false) Json.bool? v
    return { enableAnimations, showLogicIndicators, debugMode }

end GlobalSettings

namespace RuleSet

/-- Writes a rule set. -/
def toJson (s : RuleSet) : Json :=
  .object [
    ("rules", .list (s.rules.map Rule.toJson)),
    ("global_settings", s.globalSettings.toJson)]

/-- Reads a rule set. -/
def ofJson? (format : Format) : Json → Option RuleSet :=
  Json.record? format 2 fun v => do
    let rules ← Json.part? ["rules"] 0 (some []) Rule.listOfJson? v
    let globalSettings ←
      Json.part? ["global_settings", "globalSettings"] 1 (some {})
        (GlobalSettings.ofJson? format) v
    return { rules, globalSettings }

end RuleSet

end LiveForm
