import LiveForm.Document
import LiveForm.Field.Codec
import LiveForm.Rule.Codec

/-!
# Writing and reading documents

A document has one written form, with all keys in snake case. Reading accepts more: camel case keys,
rules keyed by id, records as lists and parts left out.
-/

namespace LiveForm

open Json (Format)

namespace FormMeta

/-- Writes the description of a form. -/
def toJson (m : FormMeta) : Json :=
  .object [
    ("id", .text m.id), ("title", .text m.title), ("description", .text m.description)]

/-- Reads the description of a form. -/
def ofJson? (format : Format) : Json → Option FormMeta :=
  Json.record? format 3 fun v => do
    let id ← Json.part? ["id"] 0 (some "") Json.text? v
    let title ← Json.part? ["title"] 1 (some "") Json.text? v
    let description ← Json.part? ["description"] 2 (some "") Json.text? v
    return { id, title, description }

end FormMeta

namespace Document

/-- Writes a document. -/
def toJson (d : Document) : Json :=
  .object [
    ("form", d.form.toJson),
    ("fields", .list (d.fields.map Field.toJson)),
    ("logic", d.logic.toJson)]

/-- Reads a document. -/
def ofJson? (format : Format) : Json → Option Document :=
  Json.record? format 3 fun v => do
    let form ← Json.part? ["form"] 0 (some {}) (FormMeta.ofJson? format) v
    let fields ← Json.part? ["fields"] 1 (some []) (Json.listOf? (Field.ofJson? format)) v
    let logic ←
      Json.part? ["logic", "conditionalLogic"] 2 (some {}) (RuleSet.ofJson? format) v
    return { form, fields, logic }

end Document

end LiveForm
