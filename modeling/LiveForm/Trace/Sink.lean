import LiveForm.Error
import LiveForm.Event
import LiveForm.Trace

/-!
# Sinks

Where the passes of a session go. A sink may fail, but what a session shows never depends on it.
-/

namespace LiveForm

/-- Takes the passes of a session, and the session's id once it has been submitted. -/
structure Sink (σ : Type) where
  /-- Takes a pass. -/
  write : Pass → σ → Logged (Except FormError σ)
  /-- Takes the id of a submitted session. -/
  finalize : String → σ → Logged (Except FormError σ)

namespace Sink

/-- An event of the sink that keeps a trace. -/
def event (level : Level) (message : String) (details : List (String × String)) : Event :=
  ⟨level, "formflow_trace::memory", message, details⟩

/-- Keeps everything in a trace. -/
def memory (hash : Hash) : Sink Trace where
  write pass t := do
    Logged.log
      (event .debug "pass traced" [
        ("trace_id", t.id),
        ("sequence", toString t.entries.length),
        ("pass", toString pass.number)])
    return .ok (t.append hash pass)
  finalize sessionId t := do
    Logged.log
      (event .info "trace finalized" [
        ("trace_id", t.id),
        ("session_id", sessionId),
        ("entry_count", toString t.entries.length),
        ("head_hash", t.head)])
    return .ok { t with finalizedSession := some sessionId }

/-- Keeps nothing. -/
def discard {σ : Type} : Sink σ where
  write _ s := pure (.ok s)
  finalize _ s := pure (.ok s)

/-- Fails always, for one reason. -/
def failing {σ : Type} (reason : String) : Sink σ where
  write _ _ := pure (.error (.traceWriteFailed reason))
  finalize _ _ := pure (.error (.traceWriteFailed reason))

end Sink

end LiveForm
