import LiveForm.Engine
import LiveForm.Text.Quoted

/-!
# Settling

A run of the engine may write values that its conditions have not seen. So the engine is run over
its own output until the data stays the same, at most eight times, and the states that come out
describe the data that comes out.
-/

namespace LiveForm

/-- The last evaluation and how it was reached. -/
structure Settlement where
  /-- The evaluation of the last run. -/
  evaluation : Evaluation
  /-- How many runs there were. -/
  iterations : Nat
  /-- Whether the last run left the data as it was. -/
  converged : Bool
  deriving DecidableEq, Repr

/-- The bound on the number of runs. -/
def maxRuns : Nat := 8

namespace Settlement

/-- An event of settling. -/
def event (level : Level) (message : String) (details : List (String × String)) : Event :=
  ⟨level, "formflow_core::settle", message, details⟩

/-- Goes on after a run that gave an evaluation of some data, with so many more runs allowed. -/
def goOn (run : FormData → Logged Evaluation) :
    (left done : Nat) → FormData → Evaluation → Logged Settlement
  | left, done, input, e =>
    if sameData e.formData input then do
      Logged.log (event .debug "form data settled" [("iterations", toString done)])
      return ⟨e, done, true⟩
    else
      match left with
      | 0 => do
        Logged.log
          (event .warn "form data did not settle; keeping the last evaluation"
            [("iterations", toString done), ("fired_rules", Text.quotedList e.firedRules)])
        return ⟨e, done, false⟩
      | left + 1 => do
        let next ← run e.formData
        goOn run left (done + 1) e.formData next
termination_by structural left => left

end Settlement

/-- Runs an engine over form data until the data stays the same. -/
def settle (engine : Engine) (fields : List Field) (rules : RuleSet) (data : FormData) :
    Logged Settlement := do
  let run := engine fields rules
  let e ← run data
  Settlement.goOn run (maxRuns - 1) 1 data e

end LiveForm
