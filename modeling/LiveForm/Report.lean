import LiveForm.Replay
import LiveForm.Session

/-!
# Reports

Lines that show a person what a form looks like, what comes of a submission, and that a trace holds
together.
-/

namespace LiveForm

/-- A text filled up with blanks to a width. -/
def padRight (width : Nat) (s : String) : String := s.pushn ' ' (width - s.length)

/-- The text of some lines, each with a line break at its end. -/
def unlines (lines : List String) : String := String.join (lines.map (· ++ "\n"))

namespace Evaluation

/-- The line of one field: its id, whether it is shown and required, and its value. -/
def fieldLine (id : String) (s : FieldState) : String :=
  "    " ++ padRight 16 id ++ " " ++ padRight 8 (if s.visible then "visible" else "hidden") ++ " " ++
    padRight 9 (if s.required then "required" else "") ++ " " ++ (s.value.map Json.compact).getD "-"

/-- The lines of some fields; those that are not defined have none. -/
def fieldLines (e : Evaluation) (ids : List String) : List String :=
  ids.filterMap fun id => (e.states.get? id).map (fieldLine id)

/-- The lines of the hints: the step to skip to, and then the messages. -/
def hintLines (e : Evaluation) : List String :=
  (e.skipTarget.toList.map fun target => "    skip to:         " ++ target) ++
    e.messages.map fun message => "    message:         " ++ message

end Evaluation

/-- The line of one entry of an outcome. -/
def Outcome.entryLine (id text : String) : String := "    " ++ padRight 16 id ++ " " ++ text

/-- The lines of an outcome. -/
def Outcome.lines : Outcome → List String
  | .accepted submission =>
    ("  Submit: ACCEPTED (" ++ toString submission.size ++ " field(s))") ::
      submission.toList.map fun e => entryLine e.1 e.2.compact
  | .rejected errors =>
    ("  Submit: REJECTED (" ++ toString errors.size ++ " error(s))") ::
      errors.toList.map fun e => entryLine e.1 e.2

/-- The lines that tell that a trace holds together and that its passes can be done again. -/
def Trace.check (hash : Hash) (d : Document) (t : Trace) :
    Logged (Except FormError (List String)) := do
  match ← replayEntries priorityEngine d.fields d.logic t.entries with
  | .error e => return .error e
  | .ok count =>
    let state := if t.isIntact hash then "VERIFIED" else "BROKEN"
    return .ok [
      "  Trace chain:            " ++ state ++ " (" ++ toString t.entries.length ++ " pass(es))",
      "  Deterministic replay:   " ++ toString count ++ " pass(es) reproduced"]

end LiveForm
