import LiveForm.Document
import LiveForm.Settlement
import LiveForm.Submission
import LiveForm.Trace.Sink
import LiveForm.Validation

/-!
# Sessions

One person filling in one form. Every change of a value leads to one pass over the whole form, and a
submission is accepted only if validation finds nothing wrong. A call that fails changes nothing.
-/

namespace LiveForm

/-- What a session works with. -/
structure Setup (σ : Type) where
  /-- The name of the session. -/
  id : String
  /-- The fields of the form. -/
  fields : List Field
  /-- The rules of the form. -/
  rules : RuleSet
  /-- Evaluates the form. -/
  engine : Engine
  /-- Validates the form. -/
  validator : Validator
  /-- Takes the passes. -/
  sink : Sink σ
  /-- When the pass with a number takes place. -/
  clock : Nat → Timestamp

/-- The state of a session. -/
structure Session (σ : Type) where
  /-- The data of the form. -/
  data : FormData
  /-- The evaluation of the last pass. -/
  evaluation : Evaluation
  /-- How many passes there have been. -/
  passes : Nat
  /-- The state of the sink. -/
  trace : σ
  deriving DecidableEq, Repr

/-- What comes of a submission. -/
inductive Outcome where
  | accepted (submission : Submission)
  | rejected (errors : ValidationErrors)
  deriving DecidableEq, Repr

/-- Whether a submission is accepted. -/
def Outcome.isAccepted : Outcome → Bool
  | .accepted _ => true
  | .rejected _ => false

/-- Something that is done to a session. -/
inductive Operation where
  /-- Gives a field a value. -/
  | set (id : String) (value : Json)
  /-- Takes the value of a field away. -/
  | clear (id : String)
  /-- Gives several fields values at once. -/
  | load (values : FormData)
  /-- Goes back to the start. -/
  | reset
  /-- Looks for what is wrong. -/
  | validate
  /-- Submits the form. -/
  | submit
  deriving DecidableEq, Repr

/-- The answer to an operation. -/
inductive Response where
  | evaluated (evaluation : Evaluation)
  | validated (errors : ValidationErrors)
  | submitted (outcome : Outcome)
  | failed (error : FormError)
  deriving DecidableEq, Repr

/-- The answer to a call that may fail. -/
def Response.ofResult : Except FormError Evaluation → Response
  | .ok e => .evaluated e
  | .error e => .failed e

namespace Setup

variable {σ : Type}

/-- An event of a session. -/
def event (w : Setup σ) (level : Level) (message : String) (details : List (String × String)) :
    Event :=
  ⟨level, "formflow_core::session", message, ("session_id", w.id) :: details⟩

/-- The event of a pass that is done; with the switch for debugging on, it tells more. -/
def passEvent (w : Setup σ) (number : Nat) (s : Settlement) : Event :=
  let about := [("pass", toString number), ("iterations", toString s.iterations)]
  if w.rules.globalSettings.debugMode then
    w.event .info "pass complete" (about ++ [
      ("converged", toString s.converged),
      ("fired_rules", Text.quotedList s.evaluation.firedRules),
      ("hint_count", toString s.evaluation.hints.length)])
  else
    w.event .debug "pass complete" (about ++ [
      ("fired_count", toString s.evaluation.firedRules.length)])

/-- The record of a pass. -/
def record (w : Setup σ) (number : Nat) (trigger : Trigger) (input : FormData) (s : Settlement) :
    Pass where
  number := number
  trigger := trigger
  input := input
  states := s.evaluation.states
  output := s.evaluation.formData
  firedRules := s.evaluation.firedRules
  hints := s.evaluation.hints
  iterations := s.iterations
  time := w.clock number

/-- Hands a pass to the sink. The state of a sink that fails stays as it is. -/
def write (w : Setup σ) (pass : Pass) (trace : σ) : Logged σ := do
  match ← w.sink.write pass trace with
  | .ok trace => return trace
  | .error e => do
    Logged.log
      (w.event .warn "failed to trace pass" [("pass", toString pass.number), ("error", e.message)])
    return trace

/-- One pass over the given data. -/
def pass (w : Setup σ) (trigger : Trigger) (input : FormData) (s : Session σ) :
    Logged (Session σ) := do
  let settled ← settle w.engine w.fields w.rules input
  Logged.log (w.passEvent s.passes settled)
  let trace ← w.write (w.record s.passes trigger input settled) s.trace
  return {
    data := settled.evaluation.formData
    evaluation := settled.evaluation
    passes := s.passes + 1
    trace }

/-- The session that starts with the default values. -/
def start (w : Setup σ) (trace : σ) : Logged (Session σ) :=
  w.pass .initial (Document.defaults w.fields)
    { data := Document.defaults w.fields, evaluation := .empty, passes := 0, trace }

/-- Whether the form has a field with an id. -/
def defines (w : Setup σ) (id : String) : Bool := w.fields.any (·.id == id)

/-- The first id in a list that no field has, reported if there is one. -/
def undefinedAmong? (w : Setup σ) (ids : List String) : Logged (Option String) :=
  match ids.find? fun id => !w.defines id with
  | none => pure none
  | some id => do
    Logged.log (w.event .warn "write to undefined field" [("field_id", id)])
    return some id

/-- A pass after a write to some fields. All of them have to be defined: if one is not, there is no
pass, and the session is left as it is. -/
def change (w : Setup σ) (ids : List String) (trigger : Trigger) (input : FormData)
    (s : Session σ) : Logged (Except FormError Evaluation × Session σ) := do
  match ← w.undefinedAmong? ids with
  | some id => return (.error (.unknownField id), s)
  | none =>
    let s ← w.pass trigger input s
    return (.ok s.evaluation, s)

/-- Gives a field a value. -/
def setValue (w : Setup σ) (id : String) (value : Json) (s : Session σ) :
    Logged (Except FormError Evaluation × Session σ) :=
  w.change [id] (.fieldChanged id value) (s.data.insert id value) s

/-- Takes the value of a field away. -/
def clearValue (w : Setup σ) (id : String) (s : Session σ) :
    Logged (Except FormError Evaluation × Session σ) :=
  w.change [id] (.fieldCleared id) (s.data.erase id) s

/-- Gives several fields values in one pass. -/
def loadValues (w : Setup σ) (values : FormData) (s : Session σ) :
    Logged (Except FormError Evaluation × Session σ) :=
  w.change values.keys (.valuesLoaded values.keys) (s.data.insertAll values.toList) s

/-- The session after a call, unless the call has failed. -/
def unlessFailed : Except FormError Evaluation × Session σ → Except FormError (Session σ)
  | (.ok _, s) => .ok s
  | (.error e, _) => .error e

/-- Gives several fields values, for a caller that goes on only if that does not fail. -/
def load (w : Setup σ) (values : FormData) (s : Session σ) :
    Logged (Except FormError (Session σ)) :=
  unlessFailed <$> w.loadValues values s

/-- Goes back to the default values. -/
def reset (w : Setup σ) (s : Session σ) : Logged (Session σ) :=
  w.pass .reset (Document.defaults w.fields) s

/-- What is wrong with the form. -/
def validate (w : Setup σ) (s : Session σ) : Logged ValidationErrors :=
  w.validator w.fields s.evaluation.states s.data

/-- Tells the sink that the session has been submitted. -/
def finalize (w : Setup σ) (s : Session σ) : Logged (Session σ) := do
  match ← w.sink.finalize w.id s.trace with
  | .ok trace => return { s with trace }
  | .error e => do
    Logged.log (w.event .warn "failed to finalize trace" [("error", e.message)])
    return s

/-- Submits the form if nothing is wrong with it. -/
def submit (w : Setup σ) (s : Session σ) : Logged (Outcome × Session σ) := do
  let errors ← w.validate s
  if errors.isEmpty then
    let submission ← Submission.build w.fields s.evaluation.states s.data
    let s ← w.finalize s
    Logged.log (w.event .info "submit accepted" [("field_count", toString submission.size)])
    return (.accepted submission, s)
  else
    Logged.log
      (w.event .info "submit rejected by validation" [("error_count", toString errors.size)])
    return (.rejected errors, s)

/-- Does one operation. -/
def perform (w : Setup σ) (s : Session σ) : Operation → Logged (Response × Session σ)
  | .set id value => (fun r => (.ofResult r.1, r.2)) <$> w.setValue id value s
  | .clear id => (fun r => (.ofResult r.1, r.2)) <$> w.clearValue id s
  | .load values => (fun r => (.ofResult r.1, r.2)) <$> w.loadValues values s
  | .reset => (fun t => (.evaluated t.evaluation, t)) <$> w.reset s
  | .validate => (fun errors => (.validated errors, s)) <$> w.validate s
  | .submit => (fun r => (.submitted r.1, r.2)) <$> w.submit s

/-- Does some operations in order, and collects the answers. -/
def performAll (w : Setup σ) (s : Session σ) :
    List Operation → Logged (List Response × Session σ)
  | [] => pure ([], s)
  | op :: ops => do
    let (response, s) ← w.perform s op
    let (responses, s) ← w.performAll s ops
    return (response :: responses, s)

end Setup

/-- Writes the outcome of a submission. -/
def Outcome.toJson : Outcome → Json
  | .accepted submission =>
    .object [("Accepted", .object [("submission", Json.ofMap (fun v => v) submission)])]
  | .rejected errors => .object [("Rejected", .object [("errors", Json.ofMap .text errors)])]

end LiveForm
