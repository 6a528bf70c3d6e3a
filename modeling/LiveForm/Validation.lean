import LiveForm.Pattern
import LiveForm.Json.Decoding
import LiveForm.State
import LiveForm.Event

/-!
# Validation

What is wrong with the answers of a form. A field counts if it is shown and takes an answer. An
empty answer is wrong if one is required; any other has to be of the field's kind and to pass the
field's validation rules in order. Only the first failure of a field is reported. A rule that makes
no sense never fails.
-/

namespace LiveForm

/-- The message of each field that fails. -/
abbrev ValidationErrors := SortedMap String

/-- A way to validate a form: from definitions, states and data alone. -/
abbrev Validator := List Field → FieldStates → FormData → Logged ValidationErrors

/-- Whether a text is an address: without blanks, with one at sign, something before it, and after
it a dot that stands neither first nor last. -/
def isAddress (s : List Char) : Bool :=
  !s.any Text.isBlank &&
    match s.span (· != '@') with
    | (name, _ :: host) =>
      !name.isEmpty && !host.contains '@' && host.tail.dropLast.contains '.'
    | (_, []) => false

namespace Field

/-- An event of the validator about a field. -/
def validationEvent (f : Field) (level : Level) (message : String)
    (details : List (String × String)) : Event :=
  ⟨level, "formflow_validate::engine", message, ("field_id", f.id) :: details⟩

/-- What is wrong with the kind of a non-empty answer. -/
def kindFailure? (f : Field) (value : Json) : Option String :=
  match f.kind with
  | .email =>
    if isAddress (Text.trim (Json.plainText value).toList) then none
    else some (f.displayLabel ++ " must be a valid email address")
  | .number => if value.number?.isSome then none else some (f.displayLabel ++ " must be a number")
  | _ => none

end Field

namespace ValidationRule

/-- The message of a failure: the rule's own, or else a generated one. -/
def failureText (r : ValidationRule) (f : Field) : String :=
  if !r.message.isEmpty then r.message
  else
    match r.kind with
    | .minLength =>
      f.displayLabel ++ " must be at least " ++ Json.plainText r.value ++ " characters"
    | .maxLength =>
      f.displayLabel ++ " must be at most " ++ Json.plainText r.value ++ " characters"
    | .pattern | .unknown => f.displayLabel ++ " is not in the expected format"

/-- Whether a text fails a rule; nothing if the rule makes no sense. -/
def fails? (r : ValidationRule) (text : String) : Option Bool :=
  match r.kind with
  | .minLength => r.value.number?.map fun limit => Float.ofNat text.length < limit
  | .maxLength => r.value.number?.map fun limit => Float.ofNat text.length > limit
  | .pattern => (r.value.text?.bind fun p => Pattern.matches? p text).map (!·)
  | .unknown => none

/-- Why a rule makes no sense, as an event. -/
def skipped (r : ValidationRule) (f : Field) : Event :=
  match r.kind with
  | .minLength | .maxLength =>
    f.validationEvent .warn "length rule value is not a number; rule skipped"
      [("value", r.value.compact)]
  | .pattern =>
    if r.value.text?.isSome then
      f.validationEvent .warn "invalid pattern; rule skipped" [("error", "invalid pattern")]
    else f.validationEvent .warn "pattern is not a string; rule skipped" []
  | .unknown => f.validationEvent .debug "unknown validation rule type; skipped" []

/-- What is wrong with a non-empty answer by a rule. -/
def failure? (r : ValidationRule) (f : Field) (text : String) : Logged (Option String) :=
  match r.fails? text with
  | none => do
    Logged.log (r.skipped f)
    return none
  | some failed => pure (if failed then some (r.failureText f) else none)

/-- What is wrong with a non-empty answer by the first rule that it fails. -/
def firstFailure? (f : Field) (text : String) : List ValidationRule → Logged (Option String)
  | [] => pure none
  | r :: rs => do
    match ← r.failure? f text with
    | some message => return some message
    | none => firstFailure? f text rs

end ValidationRule

namespace Field

/-- What is wrong with an answer of a field. -/
def failure? (f : Field) (required : Bool) (value : Option Json) : Logged (Option String) :=
  if Json.isEmptyAnswer value then
    pure (if required then some (f.displayLabel ++ " is required") else none)
  else
    match value.bind f.kindFailure? with
    | some message => pure (some message)
    | none => ValidationRule.firstFailure? f (Json.asText value) f.validationRules

end Field

namespace Validator

/-- Adds what is wrong with the answer of one field, if the field counts. -/
def step (states : FieldStates) (data : FormData) (errors : ValidationErrors) (f : Field) :
    Logged ValidationErrors :=
  match states.get? f.id with
  | none => pure errors
  | some s =>
    if s.visible && f.isSubmittable then do
      match ← f.failure? s.required (data.get? f.id) with
      | none => return errors
      | some message => do
        Logged.log (f.validationEvent .debug message [])
        return errors.insert f.id message
    else pure errors

/-- Validates every field in the order of definition. -/
def standard : Validator := fun fields states data => do
  let errors ← fields.foldlM (step states data) ∅
  Logged.log
    ⟨.debug, "formflow_validate::engine", "validation complete",
      [("error_count", toString errors.size)]⟩
  return errors

end Validator

end LiveForm
