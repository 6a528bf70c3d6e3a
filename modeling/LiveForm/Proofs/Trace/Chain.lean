import LiveForm.Trace
import Mathlib.Data.List.Induction

/-!
# The hash chain of a trace

A chain is checked from the left, so it can be cut anywhere: both parts are checked on their own,
the second from the hash in which the first ends. A trace that only grows by appending passes keeps
a whole chain, whose last hash is its head.
-/

namespace LiveForm

namespace Entry

variable {hash : Hash}

/-- The hash in which some entries end that come after an entry with a given hash. -/
def endHash (previous : String) (entries : List Entry) : String :=
  (entries.getLast?.map (·.hash)).getD previous

@[simp] theorem endHash_nil (previous : String) : endHash previous [] = previous := rfl

@[simp] theorem endHash_cons (previous : String) (e : Entry) (es : List Entry) :
    endHash previous (e :: es) = endHash e.hash es := by
  unfold endHash
  rw [List.getLast?_cons]
  cases es.getLast? <;> rfl

/-- Entries end in the hash of the last one. -/
@[simp] theorem endHash_concat (previous : String) (es : List Entry) (e : Entry) :
    endHash previous (es ++ [e]) = e.hash := by
  simp [endHash]

/-- Entries are checked in two parts, the second from where the first ends. -/
theorem brokenFrom?_append (place : Nat) (previous : String) (first second : List Entry) :
    brokenFrom? hash place previous (first ++ second) =
      (brokenFrom? hash place previous first).or
        (brokenFrom? hash (place + first.length) (endHash previous first) second) := by
  induction first generalizing place previous with
  | nil => rfl
  | cons e es ih =>
    simp only [List.cons_append, brokenFrom?, endHash_cons, List.length_cons]
    split
    case isTrue =>
      rw [ih, Nat.add_right_comm]
      rfl
    case isFalse => rfl

/-- A whole chain with one more entry is whole exactly when the entry belongs at its end. -/
theorem isChain_concat (entries : List Entry) (e : Entry) :
    isChain hash (entries ++ [e]) =
      (isChain hash entries && e.isIntact hash entries.length (endHash genesis entries)) := by
  unfold isChain firstBroken?
  rw [brokenFrom?_append, Nat.zero_add]
  cases brokenFrom? hash 0 genesis entries with
  | some n => rfl
  | none =>
    cases h : e.isIntact hash entries.length (endHash genesis entries) <;>
      simp [brokenFrom?, h]

/-- The last entry of a whole chain is numbered by its place and linked to the rest of the chain,
which is whole, and its hash is right. -/
theorem linked_of_isChain {front : List Entry} {e : Entry} (h : isChain hash (front ++ [e])) :
    isChain hash front ∧ e.sequence = front.length ∧ e.previous = endHash genesis front ∧
      e.properHash hash = e.hash := by
  rw [isChain_concat, Bool.and_eq_true] at h
  simp only [isIntact, Bool.and_eq_true, beq_iff_eq] at h
  exact ⟨h.1, h.2.1.1, h.2.1.2, h.2.2⟩

/-- The entry that comes next belongs where it was made for. -/
@[simp] theorem isIntact_next (traceId previous : String) (place : Nat) (pass : Pass) :
    (next hash traceId place previous pass).isIntact hash place previous = true := by
  simp [isIntact, next, properHash]

/-- The entries of a whole chain are numbered in order. -/
theorem sequence_of_isChain {entries : List Entry} (h : isChain hash entries = true) :
    entries.map (·.sequence) = List.range entries.length := by
  induction entries using List.reverseRecOn with
  | nil => rfl
  | append_singleton entries e ih =>
    obtain ⟨hfront, hsequence, -, -⟩ := linked_of_isChain h
    rw [List.map_append, ih hfront, List.length_append, List.length_singleton, List.range_succ]
    simp [hsequence]

end Entry

namespace Trace

variable {hash : Hash}

/-- A trace has been kept under a name from the start: its chain is whole and ends in the head, and
all its entries have that name. -/
structure IsKept (hash : Hash) (id : String) (t : Trace) : Prop where
  /-- The name of the trace. -/
  id_eq : t.id = id
  /-- Every entry is linked to the one before, and its hash is right. -/
  intact : t.isIntact hash = true
  /-- The head is the hash of the last entry. -/
  head_eq : t.head = Entry.endHash genesis t.entries
  /-- All entries belong to the trace. -/
  named : ∀ e ∈ t.entries, e.traceId = id

/-- A fresh trace is kept. -/
theorem isKept_fresh (hash : Hash) (id : String) : IsKept hash id { id := id } :=
  ⟨rfl, rfl, rfl, fun _ h => nomatch h⟩

/-- A trace is still kept after one more pass. -/
theorem IsKept.append {id : String} {t : Trace} (h : t.IsKept hash id) (p : Pass) :
    (t.append hash p).IsKept hash id where
  id_eq := h.id_eq
  intact := by
    have hintact : Entry.isChain hash t.entries = true := h.intact
    simp [Trace.append, isIntact, Entry.isChain_concat, hintact, h.head_eq]
  head_eq := by simp [Trace.append, Entry.endHash]
  named e he := by
    rcases List.mem_append.mp he with he | he
    · exact h.named e he
    · rw [List.mem_singleton.mp he]
      exact h.id_eq

/-- Appending a pass adds it to the passes. -/
@[simp] theorem passes_append (t : Trace) (p : Pass) :
    (t.append hash p).passes = t.passes ++ [p] := by
  simp [Trace.append, passes, Entry.next]

/-- After one more pass all passes have a property if those before it and the new one do. -/
theorem forall_passes_append {P : Pass → Prop} {t : Trace} {p : Pass}
    (h : ∀ q ∈ t.passes, P q) (hp : P p) : ∀ q ∈ (t.append hash p).passes, P q := by
  intro q hq
  rw [passes_append, List.mem_append] at hq
  rcases hq with hq | hq
  · exact h q hq
  · rw [List.mem_singleton.mp hq]
    exact hp

end Trace

end LiveForm
