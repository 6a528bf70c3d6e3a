import LiveForm.Pass
import LiveForm.State.Codec
import LiveForm.Timestamp.Text

/-!
# Writing and reading passes

The written form of a pass is what the trace commits to, so it is the same for equal passes.
-/

namespace LiveForm

namespace Trigger

/-- Writes a trigger. -/
def toJson : Trigger → Json
  | .initial => .object [("kind", .text "initial")]
  | .fieldChanged id value =>
    .object [("kind", .text "field_changed"), ("field_id", .text id), ("value", value)]
  | .fieldCleared id => .object [("kind", .text "field_cleared"), ("field_id", .text id)]
  | .valuesLoaded ids =>
    .object [("kind", .text "values_loaded"), ("field_ids", Json.ofTexts ids)]
  | .reset => .object [("kind", .text "reset")]

/-- Reads a trigger. -/
def ofJson? (v : Json) : Option Trigger :=
  match Json.tagged? "kind" v with
  | some ("initial", rest) => Json.unit? .json .initial rest
  | some ("field_changed", rest) =>
    rest |> Json.record? .json 2 fun v => do
      let id ← Json.part? ["field_id"] 0 none Json.text? v
      let value ← Json.part? ["value"] 1 none Json.free? v
      return .fieldChanged id value
  | some ("field_cleared", rest) =>
    rest |> Json.record? .json 1 fun v => do
      return .fieldCleared (← Json.part? ["field_id"] 0 none Json.text? v)
  | some ("values_loaded", rest) =>
    rest |> Json.record? .json 1 fun v => do
      return .valuesLoaded (← Json.part? ["field_ids"] 0 none (Json.listOf? Json.text?) v)
  | some ("reset", rest) => Json.unit? .json .reset rest
  | _ => none

end Trigger

/-- Reads a timestamp. -/
def Timestamp.ofJson? (v : Json) : Option Timestamp := v.text?.bind Timestamp.ofText?

namespace Pass

/-- The parts of a pass without the time, as they are written. -/
def entries (p : Pass) : List (String × Json) := [
  ("pass", .int p.number),
  ("trigger", p.trigger.toJson),
  ("input", FormData.toJson p.input),
  ("states", FieldStates.toJson p.states),
  ("output", FormData.toJson p.output),
  ("fired_rules", Json.ofTexts p.firedRules),
  ("hints", .list (p.hints.map Hint.toJson)),
  ("iterations", .int p.iterations)]

/-- Writes a pass. -/
def toJson (p : Pass) : Json := .object (p.entries ++ [("timestamp", .text p.time.text)])

/-- Reads a pass. -/
def ofJson? : Json → Option Pass :=
  Json.record? .json 9 fun v => do
    let number ← Json.part? ["pass"] 0 none (Json.natBelow? UInt64.size) v
    let trigger ← Json.part? ["trigger"] 1 none Trigger.ofJson? v
    let input ← Json.part? ["input"] 2 none FormData.ofJson? v
    let states ← Json.part? ["states"] 3 none FieldStates.ofJson? v
    let output ← Json.part? ["output"] 4 none FormData.ofJson? v
    let firedRules ← Json.part? ["fired_rules"] 5 none (Json.listOf? Json.text?) v
    let hints ← Json.part? ["hints"] 6 none (Json.listOf? Hint.ofJson?) v
    let iterations ← Json.part? ["iterations"] 7 (some 0) (Json.natBelow? UInt32.size) v
    let time ← Json.part? ["timestamp"] 8 none Timestamp.ofJson? v
    return { number, trigger, input, states, output, firedRules, hints, iterations, time }

end Pass

end LiveForm
