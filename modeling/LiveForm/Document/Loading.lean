import LiveForm.Document.Codec
import LiveForm.Error
import LiveForm.Event
import LiveForm.Json.Reader
import LiveForm.Toml.Reader

/-!
# Loading documents

Loading is strict where evaluating is not: a text that is no document, a field without an id and two
fields with one id are refused.
-/

namespace LiveForm.Document

open Draft (Shape)

/-- The parts of a field's validation rule. -/
def validationRuleShape : Shape := .record [(["type"], .any), (["value"], .any), (["message"], .any)]

/-- The parts of a field. -/
def fieldShape : Shape := .record [
  (["id"], .any), (["label"], .any), (["type"], .any), (["required"], .any),
  (["default_hidden", "defaultHidden"], .any), (["options"], .any), (["placeholder"], .any),
  (["calculation"], .any),
  (["validation_rules", "validationRules"], .list validationRuleShape),
  (["display_text", "displayText"], .any), (["default_value", "defaultValue"], .any)]

/-- The parts of a rule set. Its rules are free data at first, all of which is looked at. -/
def ruleSetShape : Shape := .record [
  (["rules"], .any),
  (["global_settings", "globalSettings"], .record [
    (["enable_animations", "enableAnimations"], .any),
    (["show_logic_indicators", "showLogicIndicators"], .any),
    (["debug_mode", "debugMode"], .any)])]

/-- The parts of a document. -/
def shape : Shape := .record [
  (["form"], .record [(["id"], .any), (["title"], .any), (["description"], .any)]),
  (["fields"], .list fieldShape),
  (["logic", "conditionalLogic"], ruleSetShape)]

/-- The value that a text denotes in a format, as far as it matters to a document. -/
def valueOfText? : DocumentFormat → String → Option Json
  | .json, text => (Draft.read? text).bind (Draft.select? Json.maxLevels shape)
  | .toml, text => Toml.read? text

/-- The document that a text denotes in a format. -/
def ofText? (format : DocumentFormat) (text : String) : Option Document :=
  (valueOfText? format text).bind (ofJson? format.conventions)

/-- The first id in a list that is empty, or that has been seen or stands earlier in the list. -/
def idFault? (seen : List String) : List String → Option ConfigurationFault
  | [] => none
  | id :: ids =>
    if id.isEmpty then some .emptyFieldId
    else if seen.contains id then some (.duplicateFieldId id)
    else idFault? (id :: seen) ids

/-- Reports that a document is loaded. -/
def announce (d : Document) : Logged Unit :=
  Logged.log ⟨.debug, "formflow_rules::document", "form document loaded", [
    ("form_id", d.form.id),
    ("field_count", toString d.fields.length),
    ("rule_count", toString d.logic.rules.length)]⟩

/-- Loads a document from its text. -/
def load (format : DocumentFormat) (text : String) : Logged (Except FormError Document) :=
  match ofText? format text with
  | none => pure (.error (.configuration (.malformed format)))
  | some d =>
    match idFault? [] d.fieldIds with
    | some fault => pure (.error (.configuration fault))
    | none => do
      d.announce
      return .ok d

end LiveForm.Document
