import LiveForm.Event
import LiveForm.Json.Coercion
import LiveForm.Rule
import LiveForm.Text.Lowercase

/-!
# Conditions

Whether a condition holds for an answer, and whether a rule is satisfied by form data. Every
condition has an answer: what cannot be made sense of does not hold, so that a malformed rule does
not fire by accident.
-/

namespace LiveForm

/-- Whether the text of one answer contains that of another, whatever their case. -/
def containsText (answer part : Option Json) : Bool :=
  Text.occursIn (Text.lowercase (Json.asText part).toList)
    (Text.lowercase (Json.asText answer).toList)

/-- Whether an operator holds between an answer and a value to compare with. An absent value is
equal to null. -/
def Operator.holds (op : Operator) (answer value : Option Json) : Bool :=
  match op with
  | .equals => Json.sameAnswer (answer.getD .null) (value.getD .null)
  | .notEquals => !Json.sameAnswer (answer.getD .null) (value.getD .null)
  | .contains => containsText answer value
  | .notContains => !containsText answer value
  | .greaterThan => Json.asNumber answer > Json.asNumber value
  | .lessThan => Json.asNumber answer < Json.asNumber value
  | .isEmpty => Json.isEmptyAnswer answer
  | .isNotEmpty => !Json.isEmptyAnswer answer
  | .unknown => false

/-- Whether a condition holds for form data. -/
def Condition.holds (c : Condition) (data : FormData) : Bool :=
  c.operator.holds (data.get? c.fieldId) c.value

namespace Rule

/-- An event of the condition evaluator. -/
def conditionEvent (level : Level) (message : String) (details : List (String × String)) : Event :=
  ⟨level, "formflow_rules::condition", message, details⟩

/-- Tests a condition of a rule, and reports an operator that is not known. -/
def test (r : Rule) (data : FormData) (c : Condition) : Logged Bool := do
  Logged.logIf (c.operator == .unknown)
    (conditionEvent .warn "unknown operator; condition evaluates to false"
      [("rule_id", r.id), ("condition_id", c.id)])
  return c.holds data

/-- Tests conditions from the left until one gives the answer `stop`, and tells whether one did. -/
def testUntil (r : Rule) (data : FormData) (stop : Bool) : List Condition → Logged Bool
  | [] => pure false
  | c :: cs => do
    let held ← r.test data c
    if held == stop then return true else testUntil r data stop cs

/-- Whether the conditions of a rule hold for form data. A rule without conditions is never
satisfied. -/
def satisfied (r : Rule) (data : FormData) : Logged Bool :=
  if r.conditions.isEmpty then do
    Logged.log (conditionEvent .debug "rule has no conditions; never fires" [("rule_id", r.id)])
    return false
  else
    match r.conditionLogic with
    | .all => (!·) <$> r.testUntil data false r.conditions
    | .any => r.testUntil data true r.conditions

end Rule

end LiveForm
