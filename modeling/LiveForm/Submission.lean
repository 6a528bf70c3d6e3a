import LiveForm.Event
import LiveForm.State

/-!
# Submissions

What leaves the form: the values of the fields that are shown. A value that nobody can see is never
submitted.
-/

namespace LiveForm

/-- The values that are submitted. -/
abbrev Submission := SortedMap Json

namespace Submission

/-- Why a value is not submitted, as an event. -/
def dropped (id : String) (state : Option FieldState) : Event :=
  let message :=
    if state.isSome then "dropping hidden field from submission"
    else "dropping undefined field from submission"
  ⟨.debug, "formflow_core::submission", message, [("field_id", id)]⟩

/-- The values of the fields that are shown. -/
def visible (states : FieldStates) (data : FormData) : Logged Submission where
  value := data.filter fun id _ => (states.get? id).any (·.visible)
  events := (data.keys.filter fun id => !(states.get? id).any (·.visible)).map fun id =>
    dropped id (states.get? id)

/-- Whether the first field with an id takes answers. -/
def isSubmittable (fields : List Field) (id : String) : Bool :=
  (fields.find? (·.id == id)).any (·.isSubmittable)

/-- The values of the fields that are shown and take answers. -/
def build (fields : List Field) (states : FieldStates) (data : FormData) : Logged Submission :=
  (·.filter fun id _ => isSubmittable fields id) <$> visible states data

end Submission

end LiveForm
