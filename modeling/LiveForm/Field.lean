import LiveForm.Json.Basic

/-!
# Fields

A field as its author defines it: what it asks, how it starts, and what a valid answer is. Rules
never change a definition, only the state that is derived from it.
-/

namespace LiveForm

/-- What kind of answer a field takes. -/
inductive FieldKind where
  | text
  | email
  | number
  | date
  | textarea
  | select
  | radio
  | checkbox
  | phone
  | url
  | calculated
  | display
  | other
  deriving DecidableEq, Repr

/-- What a validation rule checks. -/
inductive CheckKind where
  | minLength
  | maxLength
  | pattern
  | unknown
  deriving DecidableEq, Repr

/-- One check that an answer has to pass. -/
structure ValidationRule where
  /-- What is checked. -/
  kind : CheckKind
  /-- A length, or a regular expression. -/
  value : Json := .null
  /-- The message of a failure; an empty one is replaced by a generated one. -/
  message : String := ""
  deriving DecidableEq, Repr

/-- A field of a form. -/
structure Field where
  /-- The key of the field in form data and expressions. -/
  id : String
  /-- The name shown to people. -/
  label : String
  /-- What kind of answer it takes. -/
  kind : FieldKind
  /-- Whether an answer is required before any rule fires. -/
  required : Bool := false
  /-- Whether it starts hidden. -/
  defaultHidden : Bool := false
  /-- The options it starts with. -/
  options : List String := []
  /-- A hint inside the empty input. -/
  placeholder : Option String := none
  /-- The expression of a calculated field. -/
  calculation : Option String := none
  /-- Checks of a non-empty answer, in order. -/
  validationRules : List ValidationRule := []
  /-- The text of a display field. -/
  displayText : Option String := none
  /-- The value it starts with. -/
  defaultValue : Option Json := none
  deriving DecidableEq, Repr

namespace Field

/-- Whether its value is computed. -/
def isCalculated (f : Field) : Bool := f.kind == .calculated

/-- Whether it carries an answer at all. -/
def isSubmittable (f : Field) : Bool := f.kind != .display

/-- The name used in messages: the label, or the id if there is none. -/
def displayLabel (f : Field) : String := if f.label.isEmpty then f.id else f.label

end Field

end LiveForm
