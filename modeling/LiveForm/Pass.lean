import LiveForm.State
import LiveForm.Timestamp

/-!
# Passes

Every change of a form leads to one pass over it. The record of a pass holds all that it read next
to all that it produced, so that it can be done again later.
-/

namespace LiveForm

/-- Why a pass takes place. -/
inductive Trigger where
  /-- The session starts. -/
  | initial
  /-- A field gets a value. -/
  | fieldChanged (id : String) (value : Json)
  /-- A field loses its value. -/
  | fieldCleared (id : String)
  /-- Several fields get values at once. -/
  | valuesLoaded (ids : List String)
  /-- The session goes back to its start. -/
  | reset
  deriving DecidableEq, Repr

/-- The record of a pass. -/
structure Pass where
  /-- Its number in the session, from 0. -/
  number : Nat
  /-- Why it took place. -/
  trigger : Trigger
  /-- The data that it read. -/
  input : FormData
  /-- The states that it produced. -/
  states : FieldStates
  /-- The data that it produced. -/
  output : FormData
  /-- The rules that fired in its last run. -/
  firedRules : List String
  /-- The hints of its last run. -/
  hints : List Hint
  /-- How many runs of the engine it took. -/
  iterations : Nat
  /-- When it took place. -/
  time : Timestamp
  deriving DecidableEq, Repr

end LiveForm
