import LiveForm.Digest.Sha256
import LiveForm.Report

/-!
# Scenarios

A scenario fills in a form step by step and shows what a person would see. At its end the trace of
the session is checked.
-/

namespace LiveForm

/-- A step of a scenario. -/
inductive Step where
  /-- Shows a line. -/
  | say (line : String)
  /-- Gives a field a value. -/
  | enter (id text : String)
  /-- Shows the fields. -/
  | showFields
  /-- Shows the options of a field. -/
  | showOptions (id : String)
  /-- Shows the rules that fired. -/
  | showFiredRules
  /-- Shows the hints. -/
  | showHints
  /-- Submits the form and shows the outcome. -/
  | submit
  /-- Submits the form, shows the outcome, and tells whether the value of a field went out. -/
  | submitWithout (id : String)
  deriving DecidableEq, Repr

/-- A scenario. -/
structure Scenario where
  /-- What the scenario is called. -/
  title : String
  /-- The name of its trace. -/
  traceId : String
  /-- The form. -/
  document : Document
  /-- The fields that are shown. -/
  shown : List String
  /-- The steps. -/
  steps : List Step
  deriving DecidableEq, Repr

/-- A session over a document that keeps its trace. -/
def Document.setup (d : Document) (sessionId : String) (clock : Nat → Timestamp) : Setup Trace where
  id := sessionId
  fields := d.fields
  rules := d.logic
  engine := priorityEngine
  validator := Validator.standard
  sink := Sink.memory Sha256.hex
  clock := clock

namespace Scenario

/-- Whether the value of a field went out. -/
def went (id : String) : Outcome → Bool
  | .accepted submission => submission.contains id
  | .rejected _ => false

/-- The line that tells whether the value of a field went out. -/
def wentLine (id : String) (outcome : Outcome) : String :=
  "  Hidden " ++ id ++ " value submitted: " ++
    if went id outcome then "YES (unexpected)" else "NO (expected)"

/-- Does one step: the lines that it shows, and the session after it. -/
def step (w : Setup Trace) (shown : List String) (s : Session Trace) :
    Step → Logged (Except FormError (List String × Session Trace))
  | .say line => pure (.ok ([line], s))
  | .enter id text =>
    (fun r => (Setup.unlessFailed r).map fun t => ([], t)) <$> w.setValue id (.text text) s
  | .showFields => pure (.ok (s.evaluation.fieldLines shown, s))
  | .showOptions id =>
    let line (state : FieldState) :=
      "    " ++ id ++ " options:  " ++ Text.quotedList state.options
    pure (.ok ((s.evaluation.states.get? id).toList.map line, s))
  | .showFiredRules =>
    pure (.ok (["    fired rules:     " ++ Text.quotedList s.evaluation.firedRules], s))
  | .showHints => pure (.ok (s.evaluation.hintLines, s))
  | .submit => (fun r => .ok (r.1.lines, r.2)) <$> w.submit s
  | .submitWithout id => (fun r => .ok (r.1.lines ++ [wentLine id r.1], r.2)) <$> w.submit s

/-- Does some steps, up to the first that fails: the lines that they show, and the session after
them. -/
def runSteps (w : Setup Trace) (shown : List String) (s : Session Trace) :
    List Step → Logged (List String × Except FormError (Session Trace))
  | [] => pure ([], .ok s)
  | first :: rest => do
    match ← step w shown s first with
    | .error e => return ([], .error e)
    | .ok (lines, s) =>
      let (more, result) ← runSteps w shown s rest
      return (lines ++ more, result)

/-- The lines at the end of a scenario that went well. -/
def closing : List String := ["  RESULT: SUCCESS", ""]

/-- Plays a scenario: the lines that it shows, and the error that ended it if there was one. -/
def play (c : Scenario) (sessionId : String) (clock : Nat → Timestamp) :
    Logged (List String × Option FormError) := do
  let opening := ["=== " ++ c.title ++ " ===", ""]
  let w := c.document.setup sessionId clock
  let s ← w.start { id := c.traceId }
  match ← runSteps w c.shown s c.steps with
  | (lines, .error e) => return (opening ++ lines, some e)
  | (lines, .ok s) =>
    match ← s.trace.check Sha256.hex c.document with
    | .error e => return (opening ++ lines, some e)
    | .ok checked => return (opening ++ lines ++ checked ++ closing, none)

end Scenario

end LiveForm
