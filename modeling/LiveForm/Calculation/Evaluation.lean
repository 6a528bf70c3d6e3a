import LiveForm.Calculation.Expression
import LiveForm.Calculation.Substitution
import LiveForm.Event

/-!
# Evaluating calculations

A calculation is an expression over field ids. It has a value if, with the numbers of the fields put
in, it is well-formed arithmetic with a finite value. No value means that the target keeps the one
it has.
-/

namespace LiveForm.Calculation

/-- An event of the calculator about an expression. -/
def event (level : Level) (message expression substituted : String) : Event :=
  ⟨level, "formflow_calc", message, [("expression", expression), ("substituted", substituted)]⟩

/-- The value of an expression over some fields. -/
def evaluate (expression : String) (ids : List String) (data : FormData) :
    Logged (Option Float) :=
  let substituted := substitute expression ids data
  if isSafe substituted then
    match arithmetic? substituted.toList with
    | some x => pure (some x)
    | none => do
      Logged.log (event .debug "calculation is malformed or not finite" expression substituted)
      return none
  else do
    Logged.log
      (event .warn "calculation rejected: unsafe characters after substitution" expression
        substituted)
    return none

end LiveForm.Calculation
