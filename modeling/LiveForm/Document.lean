import LiveForm.Field
import LiveForm.Json.Coercion
import LiveForm.Rule

/-!
# Form documents

A form document holds everything that is written about a form: its description, its fields in the
order in which they are shown, and its rules.
-/

namespace LiveForm

/-- The description of a form. -/
structure FormMeta where
  id : String := ""
  title : String := ""
  description : String := ""
  deriving DecidableEq, Repr

/-- A form document. -/
structure Document where
  /-- The description. -/
  form : FormMeta := {}
  /-- The fields in the order in which they are shown. -/
  fields : List Field := []
  /-- The rules. -/
  logic : RuleSet := {}
  deriving DecidableEq, Repr

namespace Document

/-- The first field with an id. -/
def field? (d : Document) (id : String) : Option Field := d.fields.find? (·.id == id)

/-- The ids of the fields in order. -/
def fieldIds (d : Document) : List String := d.fields.map (·.id)

/-- The data that a form starts with. Of several fields with one id the last that has a value
counts. -/
def defaults (fields : List Field) : FormData :=
  SortedMap.ofList (fields.filterMap fun f => f.defaultValue.map fun v => (f.id, v))

end Document

end LiveForm
