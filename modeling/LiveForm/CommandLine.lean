import LiveForm.Diagnosis
import LiveForm.Document.Loading
import LiveForm.Scenario.Catalog

/-!
# The command line

Plays scenarios, evaluates a document for given data, and reports the mistakes in a document.
-/

namespace LiveForm

/-- What the program is asked to do. -/
inductive Command where
  /-- Plays all scenarios. -/
  | runAll
  /-- Plays one scenario. -/
  | play (scenario : Scenario)
  /-- Evaluates the document at a path for some data, and submits the form if asked to. -/
  | evaluate (path : String) (data : Option String) (submit : Bool)
  /-- Reports the mistakes in the document at a path, as data if asked to. -/
  | check (path : String) (asData : Bool)
  deriving DecidableEq, Repr

/-- What the program knows of the world. -/
structure World where
  /-- The text of the file at a path, or why it cannot be read. -/
  fileText : String → Except String String
  /-- The name of the next session. -/
  sessionId : String
  /-- When the pass with a number takes place. -/
  clock : Nat → Timestamp

/-- What the program has shown, and the error that ended it if there was one. -/
abbrev Run := List String × Option FormError

namespace Command

/-- The lines above the scenarios. -/
def banner : List String := [
  "",
  "formflow: conditional logic for dynamic forms",
  "==============================================",
  "",
  "Every value change runs one full pass:",
  "  [1] Baseline field states from the definitions",
  "  [2] Enabled rules in priority order; the last rule to touch a field wins",
  "  [3] Calculated fields recomputed over the updated values",
  "  [4] Repeated over its own output until no value changes",
  "On submit: visible fields are validated, hidden values are dropped.",
  "The scenarios also keep a replayable trace of every pass.",
  ""]

/-- Plays scenarios up to the first that fails. -/
def playAll (w : World) : List Scenario → Run
  | [] => ([], none)
  | c :: cs =>
    match (c.play w.sessionId w.clock).value with
    | (lines, some e) => (lines, some e)
    | (lines, none) =>
      let (more, e) := playAll w cs
      (lines ++ more, e)

/-- The document at a path. -/
def document (w : World) (path : String) : Except FormError Document :=
  match w.fileText path with
  | .error reason => .error (.configuration (.unreadableFile path reason))
  | .ok text => (Document.load (.ofPath path) text).value

/-- The data that a text gives; no text gives none. -/
def dataOf (text : Option String) : Except FormError FormData :=
  match text with
  | none => .ok ∅
  | some text =>
    match (Json.read? text).bind FormData.ofJson? with
    | some data => .ok data
    | none => .error (.configuration .dataNotObject)

/-- A session over a document that keeps no trace. -/
def setup (w : World) (d : Document) : Setup Unit where
  id := w.sessionId
  fields := d.fields
  rules := d.logic
  engine := priorityEngine
  validator := Validator.standard
  sink := Sink.discard
  clock := w.clock

/-- The session over a document after some data has been entered. -/
def sessionOf (w : World) (d : Document) (data : FormData) : Except FormError (Session Unit) :=
  let s := ((setup w d).start ()).value
  if data.isEmpty then .ok s else ((setup w d).load data s).value

/-- Evaluates a document. -/
def evaluateLines (w : World) (path : String) (data : Option String) (submit : Bool) :
    Except FormError (List String) := do
  let d ← document w path
  let s ← sessionOf w d (← dataOf data)
  let outcome :=
    if submit then [((setup w d).submit s).value.1.toJson.indented] else []
  return s.evaluation.toJson.indented :: outcome

/-- The lines that report findings. -/
def findingLines (path : String) (asData : Bool) (findings : List Finding) : List String :=
  if asData then [(Json.list (findings.map Finding.toJson)).indented]
  else if findings.isEmpty then [path ++ ": no problems found"]
  else findings.map Finding.line

/-- Reports the mistakes in a document. -/
def checkRun (path : String) (asData : Bool) (d : Document) : Run :=
  let findings := d.findings
  let errors := findings.countP fun f => f.severity == .error
  (findingLines path asData findings,
    if errors = 0 then none else some (.configuration (.findings errors path)))

/-- Does what the program is asked to do. -/
def run (w : World) : Command → Run
  | .runAll =>
    match playAll w Scenario.all with
    | (lines, none) => (banner ++ lines ++ ["All scenarios completed successfully."], none)
    | (lines, some e) => (banner ++ lines, some e)
  | .play c =>
    let (lines, e) := playAll w [c]
    (banner ++ lines, e)
  | .evaluate path data submit =>
    match evaluateLines w path data submit with
    | .ok lines => (lines, none)
    | .error e => ([], some e)
  | .check path asData =>
    match document w path with
    | .ok d => checkRun path asData d
    | .error e => ([], some e)

/-- The line that reports an error. -/
def errorLine (e : FormError) : String := "formflow error: " ++ e.message

/-- The value of an option among some arguments. -/
def optionOf? (name : String) : List String → Option String
  | key :: value :: rest => if key == name then some value else optionOf? name (value :: rest)
  | _ => none

/-- The command that some arguments stand for. -/
def ofArguments? : List String → Option Command
  | ["run-all"] => some .runAll
  | ["inquiry-routing"] => some (.play Scenario.inquiryRouting)
  | ["order-total"] => some (.play Scenario.orderTotal)
  | ["event-registration"] => some (.play Scenario.eventRegistration)
  | "evaluate" :: options => do
    let path ← optionOf? "--form" options
    return .evaluate path (optionOf? "--data" options) (options.contains "--submit")
  | "check" :: options => do
    let path ← optionOf? "--form" options
    return .check path (options.contains "--json")
  | _ => none

/-- The path of the document that a command reads. -/
def path? : Command → Option String
  | .evaluate path _ _ | .check path _ => some path
  | .runAll | .play _ => none

/-- How the program is used. -/
def usage : String :=
  "usage: run-all | inquiry-routing | order-total | event-registration\n" ++
    "     | evaluate --form FILE [--data JSON] [--submit]\n" ++
    "     | check --form FILE [--json]"

end Command

end LiveForm
