import LiveForm.Field
import LiveForm.Json.Decoding

/-!
# Fields in documents

How fields are written in a document and read from one. A kind that is not known reads as `other`,
so that documents written for later versions still load.
-/

namespace LiveForm

open Json (Format)

namespace FieldKind

/-- The name of a kind. -/
def name : FieldKind → String
  | .text => "text"
  | .email => "email"
  | .number => "number"
  | .date => "date"
  | .textarea => "textarea"
  | .select => "select"
  | .radio => "radio"
  | .checkbox => "checkbox"
  | .phone => "phone"
  | .url => "url"
  | .calculated => "calculated"
  | .display => "display"
  | .other => "other"

/-- The kinds that have a name of their own. -/
def all : List FieldKind :=
  [.text, .email, .number, .date, .textarea, .select, .radio, .checkbox, .phone, .url, .calculated,
    .display]

/-- The kind of a name. -/
def ofName (s : String) : FieldKind := (all.find? (·.name == s)).getD .other

/-- Reads a kind. -/
def ofJson? (format : Format) (v : Json) : Option FieldKind := (Json.member? format v).map ofName

@[simp]
theorem ofName_name (k : FieldKind) : ofName k.name = k := by cases k <;> decide

end FieldKind

namespace CheckKind

/-- The name of a check. -/
def name : CheckKind → String
  | .minLength => "min_length"
  | .maxLength => "max_length"
  | .pattern => "pattern"
  | .unknown => "unknown"

/-- The check of a name. -/
def ofName (s : String) : CheckKind :=
  ([minLength, maxLength, pattern].find? (·.name == s)).getD .unknown

/-- Reads a check. -/
def ofJson? (format : Format) (v : Json) : Option CheckKind := (Json.member? format v).map ofName

@[simp]
theorem ofName_name (k : CheckKind) : ofName k.name = k := by cases k <;> decide

end CheckKind

namespace ValidationRule

/-- Writes a validation rule. -/
def toJson (r : ValidationRule) : Json :=
  .object [("type", .text r.kind.name), ("value", r.value), ("message", .text r.message)]

/-- Reads a validation rule. -/
def ofJson? (format : Format) : Json → Option ValidationRule :=
  Json.record? format 3 fun v => do
    let kind ← Json.part? ["type"] 0 none (CheckKind.ofJson? format) v
    let value ← Json.part? ["value"] 1 (some .null) Json.free? v
    let message ← Json.part? ["message"] 2 (some "") Json.text? v
    return { kind, value, message }

end ValidationRule

namespace Field

/-- Writes a field. Parts that it does not have are left out. -/
def toJson (f : Field) : Json :=
  .object <|
    [("id", .text f.id),
      ("label", .text f.label),
      ("type", .text f.kind.name),
      ("required", .bool f.required),
      ("default_hidden", .bool f.defaultHidden),
      ("options", Json.ofTexts f.options)] ++
    Json.entryOf "placeholder" .text f.placeholder ++
    Json.entryOf "calculation" .text f.calculation ++
    [("validation_rules", .list (f.validationRules.map ValidationRule.toJson))] ++
    Json.entryOf "display_text" .text f.displayText ++
    Json.entryOf "default_value" (fun v => v) f.defaultValue

/-- Reads a field. -/
def ofJson? (format : Format) : Json → Option Field :=
  Json.record? format 11 fun v => do
    let id ← Json.part? ["id"] 0 none Json.text? v
    let label ← Json.part? ["label"] 1 (some "") Json.text? v
    let kind ← Json.part? ["type"] 2 none (FieldKind.ofJson? format) v
    let required ← Json.part? ["required"] 3 (some false) Json.bool? v
    let defaultHidden ←
      Json.part? ["default_hidden", "defaultHidden"] 4 (some false) Json.bool? v
    let options ← Json.part? ["options"] 5 (some []) (Json.listOf? Json.text?) v
    let placeholder ← Json.part? ["placeholder"] 6 (some none) (Json.optional? Json.text?) v
    let calculation ← Json.part? ["calculation"] 7 (some none) (Json.optional? Json.text?) v
    let validationRules ←
      Json.part? ["validation_rules", "validationRules"] 8 (some [])
        (Json.listOf? (ValidationRule.ofJson? format)) v
    let displayText ←
      Json.part? ["display_text", "displayText"] 9 (some none) (Json.optional? Json.text?) v
    let defaultValue ←
      Json.part? ["default_value", "defaultValue"] 10 (some none) (Json.optional? Json.free?) v
    return {
      id, label, kind, required, defaultHidden, options, placeholder, calculation,
      validationRules, displayText, defaultValue }

end Field

end LiveForm
