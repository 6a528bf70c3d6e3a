/-!
# Events

What an operation reports beside its result. Events are values: an operation returns them together
with its result, in the order in which they happened, and the result never depends on them.
-/

namespace LiveForm

/-- How much attention an event deserves. -/
inductive Level where
  | debug
  | info
  | warn
  deriving DecidableEq, Repr

/-- The name of a level. -/
def Level.name : Level → String
  | .debug => "DEBUG"
  | .info => "INFO"
  | .warn => "WARN"

/-- Something that happened, with the values that describe it. -/
structure Event where
  /-- How much attention it deserves. -/
  level : Level
  /-- The part of the system that reports it. -/
  source : String
  /-- What happened. -/
  message : String
  /-- Named values, as text. -/
  details : List (String × String) := []
  deriving DecidableEq, Repr

/-- A result and the events that led to it. -/
structure Logged (α : Type) where
  /-- The result. -/
  value : α
  /-- The events, in the order in which they happened. -/
  events : List Event
  deriving DecidableEq, Repr

namespace Logged

variable {α β : Type}

instance : Monad Logged where
  pure a := ⟨a, []⟩
  bind x f := ⟨(f x.value).value, x.events ++ (f x.value).events⟩

/-- Reports one event. -/
def log (e : Event) : Logged Unit := ⟨(), [e]⟩

/-- Reports an event if a condition holds. -/
def logIf (condition : Bool) (e : Event) : Logged Unit := ⟨(), if condition then [e] else []⟩

@[simp]
theorem value_pure (a : α) : (pure a : Logged α).value = a := rfl

@[simp]
theorem value_bind (x : Logged α) (f : α → Logged β) : (x >>= f).value = (f x.value).value := rfl

@[simp]
theorem value_map (f : α → β) (x : Logged α) : (f <$> x).value = f x.value := rfl

end Logged

end LiveForm
