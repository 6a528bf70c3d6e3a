import LiveForm.Pass.Codec

/-!
# Traces

The passes of a session in a hash chain. The hash of an entry covers the trace, the place in it, the
hash of the entry before and the record of the pass, so that a change anywhere breaks the chain from
there on.
-/

namespace LiveForm

/-- A hash function, which gives a text. -/
abbrev Hash := List UInt8 → String

/-- A pass in a trace. -/
structure Entry where
  /-- The place in the trace, from 0. -/
  sequence : Nat
  /-- The name of the trace. -/
  traceId : String
  /-- The record of the pass. -/
  pass : Pass
  /-- The hash of the entry before. -/
  previous : String
  /-- The hash of this entry. -/
  hash : String
  deriving DecidableEq, Repr

/-- What stands for the hash of the entry before the first. -/
def genesis : String := String.ofList (List.replicate 64 '0')

/-- The bytes of a text in UTF-8. -/
def utf8 (s : String) : List UInt8 := s.toList.flatMap String.utf8EncodeChar

/-- So many bytes of a number, the least significant first. -/
def littleEndian : (count : Nat) → Nat → List UInt8
  | 0, _ => []
  | count + 1, n => (n % 256).toUInt8 :: littleEndian count (n / 256)

namespace Entry

/-- The bytes that the hash of an entry covers. -/
def covered (traceId : String) (sequence : Nat) (previous : String) (pass : Pass) : List UInt8 :=
  utf8 traceId ++ littleEndian 8 sequence ++ utf8 previous ++ utf8 pass.toJson.compact

/-- The hash that an entry should have. -/
def properHash (hash : Hash) (e : Entry) : String :=
  hash (covered e.traceId e.sequence e.previous e.pass)

/-- The entry that comes next in a trace. -/
def next (hash : Hash) (traceId : String) (sequence : Nat) (previous : String) (pass : Pass) :
    Entry where
  sequence := sequence
  traceId := traceId
  pass := pass
  previous := previous
  hash := hash (covered traceId sequence previous pass)

/-- Whether an entry belongs at a place, after an entry with a given hash. -/
def isIntact (hash : Hash) (place : Nat) (previous : String) (e : Entry) : Bool :=
  e.sequence == place && e.previous == previous && e.properHash hash == e.hash

/-- The sequence number of the first entry that breaks the chain, among entries from a place on. -/
def brokenFrom? (hash : Hash) (place : Nat) (previous : String) : List Entry → Option Nat
  | [] => none
  | e :: es =>
    if e.isIntact hash place previous then brokenFrom? hash (place + 1) e.hash es
    else some e.sequence

/-- The sequence number of the first entry that breaks the chain. -/
def firstBroken? (hash : Hash) (entries : List Entry) : Option Nat :=
  brokenFrom? hash 0 genesis entries

/-- Whether a chain is whole. -/
def isChain (hash : Hash) (entries : List Entry) : Bool := (firstBroken? hash entries).isNone

end Entry

/-- The trace of a session. -/
structure Trace where
  /-- The name of the trace. -/
  id : String
  /-- The entries in order. -/
  entries : List Entry := []
  /-- The hash that the next entry links to. -/
  head : String := genesis
  /-- The session that has been submitted. -/
  finalizedSession : Option String := none
  deriving DecidableEq, Repr

namespace Trace

/-- Adds a pass, linked to the head, and moves the head to it. -/
def append (hash : Hash) (t : Trace) (pass : Pass) : Trace :=
  let e := Entry.next hash t.id t.entries.length t.head pass
  { t with entries := t.entries ++ [e], head := e.hash }

/-- Whether the chain is whole. -/
def isIntact (hash : Hash) (t : Trace) : Bool := Entry.isChain hash t.entries

/-- The recorded passes. -/
def passes (t : Trace) : List Pass := t.entries.map (·.pass)

end Trace

/-- A trace as it is saved. -/
structure SavedTrace where
  /-- The name of the trace. -/
  id : String
  /-- The session that has been submitted. -/
  finalizedSession : Option String
  /-- The entries in order. -/
  entries : List Entry
  /-- When it was saved. -/
  time : Timestamp
  /-- The hash of the last entry. -/
  head : String
  deriving DecidableEq, Repr

/-- Saves a trace. -/
def Trace.save (t : Trace) (time : Timestamp) : SavedTrace :=
  ⟨t.id, t.finalizedSession, t.entries, time, t.head⟩

namespace Entry

/-- Writes an entry. -/
def toJson (e : Entry) : Json :=
  .object [
    ("sequence", .int e.sequence),
    ("trace_id", .text e.traceId),
    ("record", e.pass.toJson),
    ("prev_hash", .text e.previous),
    ("hash", .text e.hash)]

/-- Reads an entry. -/
def ofJson? : Json → Option Entry :=
  Json.record? .json 5 fun v => do
    let sequence ← Json.part? ["sequence"] 0 none (Json.natBelow? UInt64.size) v
    let traceId ← Json.part? ["trace_id"] 1 none Json.text? v
    let pass ← Json.part? ["record"] 2 none Pass.ofJson? v
    let previous ← Json.part? ["prev_hash"] 3 none Json.text? v
    let hash ← Json.part? ["hash"] 4 none Json.text? v
    return { sequence, traceId, pass, previous, hash }

end Entry

namespace SavedTrace

/-- Writes a saved trace. -/
def toJson (t : SavedTrace) : Json :=
  .object [
    ("trace_id", .text t.id),
    ("finalized_session", Json.ofOption .text t.finalizedSession),
    ("entries", .list (t.entries.map Entry.toJson)),
    ("exported_at", .text t.time.text),
    ("head_hash", .text t.head)]

/-- Reads a saved trace. -/
def ofJson? : Json → Option SavedTrace :=
  Json.record? .json 5 fun v => do
    let id ← Json.part? ["trace_id"] 0 none Json.text? v
    let finalizedSession ←
      Json.part? ["finalized_session"] 1 (some none) (Json.optional? Json.text?) v
    let entries ← Json.part? ["entries"] 2 none (Json.listOf? Entry.ofJson?) v
    let time ← Json.part? ["exported_at"] 3 none Timestamp.ofJson? v
    let head ← Json.part? ["head_hash"] 4 none Json.text? v
    return { id, finalizedSession, entries, time, head }

end SavedTrace

end LiveForm
