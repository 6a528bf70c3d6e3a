import LiveForm.Json.Decoding
import LiveForm.State

/-!
# Writing and reading states and evaluations

Evaluations are written for renderers and traces, and states and hints are read back from traces.
-/

namespace LiveForm

namespace FieldState

/-- Writes a state; a field without a value has null. -/
def toJson (s : FieldState) : Json :=
  .object [
    ("visible", .bool s.visible),
    ("required", .bool s.required),
    ("value", s.value.getD .null),
    ("options", Json.ofTexts s.options),
    ("disabled", .bool s.disabled)]

/-- Reads a state. -/
def ofJson? : Json → Option FieldState :=
  Json.record? .json 5 fun v => do
    let visible ← Json.part? ["visible"] 0 none Json.bool? v
    let required ← Json.part? ["required"] 1 none Json.bool? v
    let value ← Json.part? ["value"] 2 (some none) (Json.optional? Json.free?) v
    let options ← Json.part? ["options"] 3 none (Json.listOf? Json.text?) v
    let disabled ← Json.part? ["disabled"] 4 none Json.bool? v
    return { visible, required, value, options, disabled }

end FieldState

/-- Writes the states of the fields of a form. -/
def FieldStates.toJson (states : FieldStates) : Json := Json.ofMap FieldState.toJson states

/-- Reads the states of the fields of a form. -/
def FieldStates.ofJson? : Json → Option FieldStates := Json.mapOf? FieldState.ofJson?

/-- Writes the data of a form. -/
def FormData.toJson (data : FormData) : Json := Json.ofMap (fun v => v) data

/-- Reads the data of a form. -/
def FormData.ofJson? : Json → Option FormData := Json.mapOf? Json.free?

namespace Hint

/-- Writes a hint. -/
def toJson : Hint → Json
  | .skipTo ruleId target =>
    .object [("kind", .text "skip_to"), ("rule_id", .text ruleId), ("target", .text target)]
  | .showMessage ruleId message =>
    .object [
      ("kind", .text "show_message"), ("rule_id", .text ruleId), ("message", .text message)]

/-- Reads a hint. -/
def ofJson? (v : Json) : Option Hint :=
  match Json.tagged? "kind" v with
  | some ("skip_to", rest) =>
    rest |> Json.record? .json 2 fun v => do
      let ruleId ← Json.part? ["rule_id"] 0 none Json.text? v
      let target ← Json.part? ["target"] 1 none Json.text? v
      return .skipTo ruleId target
  | some ("show_message", rest) =>
    rest |> Json.record? .json 2 fun v => do
      let ruleId ← Json.part? ["rule_id"] 0 none Json.text? v
      let message ← Json.part? ["message"] 1 none Json.text? v
      return .showMessage ruleId message
  | _ => none

end Hint

/-- The parts of an evaluation, as they are written. -/
def Evaluation.entries (e : Evaluation) : List (String × Json) := [
  ("states", FieldStates.toJson e.states),
  ("form_data", FormData.toJson e.formData),
  ("hints", .list (e.hints.map Hint.toJson)),
  ("fired_rules", Json.ofTexts e.firedRules)]

/-- Writes an evaluation. -/
def Evaluation.toJson (e : Evaluation) : Json := .object e.entries

end LiveForm
