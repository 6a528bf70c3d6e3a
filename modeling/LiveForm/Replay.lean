import LiveForm.Settlement
import LiveForm.Trace.Sink

/-!
# Replaying

A pass depends on nothing but the fields, the rules and the data that it read. So settling the
recorded data again gives what was recorded, unless the document is another one.
-/

namespace LiveForm

/-- Whether two things that may be absent are the same. -/
def sameOption {α : Type} (same : α → α → Bool) : Option α → Option α → Bool
  | none, none => true
  | some a, some b => same a b
  | _, _ => false

/-- The first key at which two maps differ: first of the keys of the first, and then of those of the
second. -/
def differingKey? {α : Type} (same : α → α → Bool) (m n : SortedMap α) : Option String :=
  (m.keys ++ n.keys).find? fun k => !sameOption same (m.get? k) (n.get? k)

namespace Pass

/-- Where an evaluation differs from the record of a pass. -/
def difference? (p : Pass) (e : Evaluation) : Option Difference :=
  match differingKey? FieldState.same p.states e.states with
  | some id => some (.state id)
  | none =>
    match differingKey? Json.same p.output e.formData with
    | some id => some (.output id)
    | none =>
      if p.firedRules ≠ e.firedRules then some (.firedRules p.firedRules e.firedRules)
      else if p.hints ≠ e.hints then some .hints
      else none

/-- An event of a replay. -/
def replayEvent (p : Pass) (level : Level) (message : String) (details : List (String × String)) :
    Event :=
  ⟨level, "formflow_trace::replay", message, ("pass", toString p.number) :: details⟩

/-- Does a recorded pass again and compares. -/
def replay (engine : Engine) (fields : List Field) (rules : RuleSet) (p : Pass) :
    Logged (Except FormError Unit) := do
  let s ← settle engine fields rules p.input
  match p.difference? s.evaluation with
  | some d => do
    Logged.log (p.replayEvent .warn "replay diverged" [("reason", d.message)])
    return .error (.replayMismatch p.number d)
  | none => do
    Logged.log (p.replayEvent .debug "replay matched" [])
    return .ok ()

/-- Does recorded passes again until one differs. -/
def replayAll (engine : Engine) (fields : List Field) (rules : RuleSet) :
    List Pass → Logged (Except FormError Unit)
  | [] => pure (.ok ())
  | p :: ps => do
    match ← p.replay engine fields rules with
    | .error e => return .error e
    | .ok () => replayAll engine fields rules ps

end Pass

/-- Does the passes of a trace again, and counts them. -/
def replayEntries (engine : Engine) (fields : List Field) (rules : RuleSet)
    (entries : List Entry) : Logged (Except FormError Nat) := do
  match ← Pass.replayAll engine fields rules (entries.map (·.pass)) with
  | .error e => return .error e
  | .ok () => return .ok entries.length

end LiveForm
