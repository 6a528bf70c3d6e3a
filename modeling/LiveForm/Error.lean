import LiveForm.Document.Format
import LiveForm.Text.Quoted

/-!
# Errors

What can go wrong at the edges of the system: a document that cannot be used, a write to a field
that does not exist, a trace that cannot be kept, and a record that a replay does not reproduce.
Evaluating a form never fails.
-/

namespace LiveForm

/-- Why a document or its data cannot be used. -/
inductive ConfigurationFault where
  /-- The file cannot be read, for a reason that the system gives. -/
  | unreadableFile (path reason : String)
  /-- The text is not a document in its format. -/
  | malformed (format : DocumentFormat)
  /-- A field has the empty text as its id. -/
  | emptyFieldId
  /-- Two fields have one id. -/
  | duplicateFieldId (id : String)
  /-- The data of a form is not an object. -/
  | dataNotObject
  /-- So many findings in a document are errors. -/
  | findings (count : Nat) (path : String)
  deriving DecidableEq, Repr

/-- The wording of a configuration fault. -/
def ConfigurationFault.message : ConfigurationFault → String
  | .unreadableFile path reason => "failed to read form file '" ++ path ++ "': " ++ reason
  | .malformed format => "failed to parse form " ++ format.title ++ ":"
  | .emptyFieldId => "field with an empty id"
  | .duplicateFieldId id => "duplicate field id '" ++ id ++ "'"
  | .dataNotObject => "--data must be a JSON object:"
  | .findings count path => toString count ++ " error(s) in '" ++ path ++ "'"

/-- Where a replayed pass differs from its record. -/
inductive Difference where
  /-- The state of a field. -/
  | state (fieldId : String)
  /-- The value of a field. -/
  | output (fieldId : String)
  /-- The rules that fired. -/
  | firedRules (recorded replayed : List String)
  /-- The hints. -/
  | hints
  deriving DecidableEq, Repr

/-- The wording of a difference. -/
def Difference.message : Difference → String
  | .state fieldId => "state of field '" ++ fieldId ++ "' differs"
  | .output fieldId => "output value of field '" ++ fieldId ++ "' differs"
  | .firedRules recorded replayed =>
    "fired rules differ: recorded " ++ Text.quotedList recorded ++ ", replayed " ++
      Text.quotedList replayed
  | .hints => "flow hints differ"

/-- What can go wrong. -/
inductive FormError where
  | configuration (fault : ConfigurationFault)
  /-- A write to a field that the form does not define. -/
  | unknownField (id : String)
  /-- The trace could not keep a pass. -/
  | traceWriteFailed (reason : String)
  /-- A replay did not reproduce a recorded pass. -/
  | replayMismatch (pass : Nat) (difference : Difference)
  deriving DecidableEq, Repr

/-- The wording of an error. -/
def FormError.message : FormError → String
  | .configuration fault => "configuration error: " ++ fault.message
  | .unknownField id => "unknown field '" ++ id ++ "'"
  | .traceWriteFailed reason => "trace write failed: " ++ reason
  | .replayMismatch pass difference =>
    "replay of pass " ++ toString pass ++ " diverged: " ++ difference.message

end LiveForm
