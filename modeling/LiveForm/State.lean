import LiveForm.Field
import LiveForm.Json.Coercion

/-!
# States and evaluations

What a form shows for given data: the state of every field, the data with everything that rules and
calculations have written, and hints to whoever shows the form. States are derived anew from the
definitions each time and never patched.
-/

namespace LiveForm

/-- What is needed to show one field. -/
structure FieldState where
  /-- Whether the field is shown. -/
  visible : Bool
  /-- Whether an answer is required. -/
  required : Bool
  /-- The value of the field, if it has one. -/
  value : Option Json
  /-- The options to choose from. -/
  options : List String
  /-- Whether the field is read-only. -/
  disabled : Bool
  deriving DecidableEq, Repr

namespace FieldState

/-- The state of a field before any rule fires. -/
def baseline (f : Field) (value : Option Json) : FieldState where
  visible := !f.defaultHidden
  required := f.required
  value := value
  options := f.options
  disabled := f.isCalculated

/-- Whether two optional values are the same. -/
def sameValue : Option Json → Option Json → Bool
  | none, none => true
  | some a, some b => Json.same a b
  | _, _ => false

/-- Whether two states are the same, with values compared as data. -/
def same (s t : FieldState) : Bool :=
  s.visible == t.visible && s.required == t.required && sameValue s.value t.value &&
    s.options == t.options && s.disabled == t.disabled

end FieldState

/-- The states of the fields of a form. -/
abbrev FieldStates := SortedMap FieldState

/-- A request to whoever shows the form. Hints change no state. -/
inductive Hint where
  /-- Go on at another step. -/
  | skipTo (ruleId target : String)
  /-- Show a text. -/
  | showMessage (ruleId message : String)
  deriving DecidableEq, Repr

/-- The target of a hint to skip. -/
def Hint.target? : Hint → Option String
  | .skipTo _ target => some target
  | .showMessage .. => none

/-- The text of a hint to show one. -/
def Hint.message? : Hint → Option String
  | .showMessage _ message => some message
  | .skipTo .. => none

/-- What a form shows for given data. -/
structure Evaluation where
  /-- The state of every field. -/
  states : FieldStates
  /-- The data after everything that was written. -/
  formData : FormData
  /-- The hints of the rules that fired, in order. -/
  hints : List Hint
  /-- The ids of the rules that fired, in order. -/
  firedRules : List String
  deriving DecidableEq, Repr

namespace Evaluation

/-- The evaluation of a form without fields. -/
def empty : Evaluation := ⟨∅, ∅, [], []⟩

/-- Whether a field is shown; one that is not defined is not. -/
def isVisible (e : Evaluation) (id : String) : Bool := (e.states.get? id).any (·.visible)

/-- Whether a field requires an answer. -/
def isRequired (e : Evaluation) (id : String) : Bool := (e.states.get? id).any (·.required)

/-- The target of the last hint to skip. -/
def skipTarget (e : Evaluation) : Option String := (e.hints.filterMap Hint.target?).getLast?

/-- The texts of all hints that show one. -/
def messages (e : Evaluation) : List String := e.hints.filterMap Hint.message?

end Evaluation

/-- Whether two sets of data are the same. -/
def sameData (a b : FormData) : Bool := SortedMap.all2 Json.same a b

end LiveForm
