import LiveForm.Proofs.Trace.Commitment
import LiveForm.Trace.Sink

/-!
# Where a changed trace breaks

A chain is checked entry by entry, so the first entry that does not belong where it stands is the
one that is reported. A change of one entry shows at that entry, unless its hash has been made right
again or the entry has been removed: then it shows at the entry behind it, and not at all if there
is none.
-/

namespace LiveForm

/-! ### Whole chains -/

namespace Entry

variable {hash : Hash} {front back rest : List Entry} {e f : Entry}

/-- The front of a whole chain is whole. -/
theorem firstBroken?_of_isChain_append (h : isChain hash (front ++ rest)) :
    firstBroken? hash front = none := by
  rw [isChain, firstBroken?, brokenFrom?_append, Option.isNone_iff_eq_none,
    Option.or_eq_none_iff] at h
  exact h.1

/-- Behind the front of a whole chain the check goes on from where the front ends. -/
theorem firstBroken?_append (h : firstBroken? hash front = none) (rest : List Entry) :
    firstBroken? hash (front ++ rest) =
      brokenFrom? hash front.length (endHash genesis front) rest := by
  rw [firstBroken?] at h
  rw [firstBroken?, brokenFrom?_append, h, Option.none_or, Nat.zero_add]

/-- An entry of a whole chain belongs where it stands, and so do the entries behind it. -/
theorem isIntact_of_isChain (h : isChain hash (front ++ e :: back)) :
    e.isIntact hash front.length (endHash genesis front) ∧
      brokenFrom? hash (front.length + 1) e.hash back = none := by
  have hfront := firstBroken?_of_isChain_append h
  rw [isChain, firstBroken?_append hfront, brokenFrom?] at h
  split at h
  case isTrue hintact => exact ⟨hintact, Option.isNone_iff_eq_none.mp h⟩
  case isFalse => cases h

/-- The hash of the entry that comes next is right. -/
theorem properHash_next (traceId previous : String) (place : Nat) (p : Pass) :
    (next hash traceId place previous p).properHash hash =
      (next hash traceId place previous p).hash := rfl

/-- An entry that does not belong where it stands is reported. -/
theorem brokenFrom?_cons_of_not_isIntact {place : Nat} {previous : String}
    (h : e.isIntact hash place previous = false) (es : List Entry) :
    brokenFrom? hash place previous (e :: es) = some e.sequence := by
  simp [brokenFrom?, h]

/-- Whole entries that are moved to another place, or put behind another entry, break at the first
of them, which still has its number. -/
theorem brokenFrom?_of_moved {place place' : Nat} {previous previous' : String}
    (h : brokenFrom? hash place previous back = none)
    (hmoved : place' ≠ place ∨ previous' ≠ previous) :
    brokenFrom? hash place' previous' back = if back.length = 0 then none else some place := by
  cases back with
  | nil => rfl
  | cons f rest =>
    rw [brokenFrom?] at h
    split at h
    case isFalse => cases h
    case isTrue hintact =>
      simp only [isIntact, Bool.and_eq_true, beq_iff_eq] at hintact
      obtain ⟨⟨hsequence, hprevious⟩, -⟩ := hintact
      have hbroken : f.isIntact hash place' previous' = false := by
        rcases hmoved with hplace | hne
        · simp [isIntact, hsequence, hplace.symm]
        · simp [isIntact, hprevious, hne.symm]
      rw [brokenFrom?_cons_of_not_isIntact hbroken, hsequence]
      rfl

end Entry

namespace Sink

variable {σ : Type}

/-- Hands some passes to a sink, one after the other. -/
def writeAll (k : Sink σ) (passes : List Pass) (s : σ) : Except FormError σ :=
  passes.foldlM (fun s p => (k.write p s).value) s

/-- A memory sink takes all passes and appends them to its trace. -/
theorem memory_writeAll (hash : Hash) (passes : List Pass) (t : Trace) :
    (memory hash).writeAll passes t = .ok (passes.foldl (Trace.append hash) t) := by
  induction passes generalizing t with
  | nil => rfl
  | cons p passes ih => exact ih (t.append hash p)

end Sink

namespace Trace

variable {hash : Hash} {id : String}

/-- A trace is still kept after any passes. -/
theorem IsKept.foldl_append {t : Trace} (h : t.IsKept hash id) (passes : List Pass) :
    (passes.foldl (Trace.append hash) t).IsKept hash id := by
  induction passes generalizing t with
  | nil => exact h
  | cons p passes ih => exact ih (h.append p)

/-- Appending passes adds them to the passes in order. -/
theorem passes_foldl_append (t : Trace) (passes : List Pass) :
    (passes.foldl (append hash) t).passes = t.passes ++ passes := by
  induction passes generalizing t with
  | nil => simp
  | cons p passes ih =>
    rw [List.foldl_cons, ih, passes_append, List.append_assoc]
    rfl

end Trace

/-! ### Changes of one entry -/

/-- A change of one entry of a trace. -/
inductive Tampering where
  /-- Another pass, with the hash left as it is. -/
  | pass (p : Pass)
  /-- Another name of the trace. -/
  | traceId (id : String)
  /-- Another hash of the entry before. -/
  | previous (h : String)
  /-- Another hash of the entry. -/
  | hash (h : String)
  /-- Another place. -/
  | sequence (n : Nat)
  /-- Another pass, with the hash that belongs to it. -/
  | rewrite (p : Pass)
  /-- No entry at all. -/
  | remove
  deriving DecidableEq, Repr

namespace Tampering

/-- What stands in place of the entry. -/
def apply (hash : Hash) (e : Entry) : Tampering → List Entry
  | .pass p => [{ e with pass := p }]
  | .traceId id => [{ e with traceId := id }]
  | .previous h => [{ e with previous := h }]
  | .hash h => [{ e with hash := h }]
  | .sequence n => [{ e with sequence := n }]
  | .rewrite p => [.next hash e.traceId e.sequence e.previous p]
  | .remove => []

/-- The entry is another one than before. Passes are told apart by their written form. -/
def Changes (e : Entry) : Tampering → Prop
  | .pass p | .rewrite p => p.toJson.compact ≠ e.pass.toJson.compact
  | .traceId id => id ≠ e.traceId
  | .previous h => h ≠ e.previous
  | .hash h => h ≠ e.hash
  | .sequence n => n ≠ e.sequence
  | .remove => True

/-- The number that is reported for a change at a place with so many entries behind it. -/
def reported? (place behind : Nat) : Tampering → Option Nat
  | .pass _ | .traceId _ | .previous _ | .hash _ => some place
  | .sequence n => some n
  | .rewrite _ | .remove => if behind = 0 then none else some (place + 1)

/-- What is assumed of a hash: the bytes that it covers before and after the change do not collide.
-/
def IsCollisionFree (hash : Hash) (e : Entry) (c : Tampering) : Prop :=
  ∀ f ∈ c.apply hash e, hash f.bytes = hash e.bytes → f.bytes = e.bytes

variable {hash : Hash} {e : Entry} {front back : List Entry}

/-- A pass with another written form changes the bytes that the hash covers. -/
theorem bytes_pass_ne {p : Pass} (h : p.toJson.compact ≠ e.pass.toJson.compact) :
    ({ e with pass := p } : Entry).bytes ≠ e.bytes := by
  intro hbytes
  rw [Entry.bytes_eq, Entry.bytes_eq] at hbytes
  exact h (utf8_inj (List.append_cancel_left hbytes))

/-- Another name of the trace changes the bytes that the hash covers. -/
theorem bytes_traceId_ne {id : String} (h : id ≠ e.traceId) :
    ({ e with traceId := id } : Entry).bytes ≠ e.bytes := by
  intro hbytes
  have hheading := List.append_cancel_right hbytes
  exact h (utf8_inj (List.append_cancel_right (List.append_cancel_right hheading)))

/-- A change of one entry of a whole chain is reported at the entry, or right behind it. -/
theorem firstBroken?_apply (hchain : Entry.isChain hash (front ++ e :: back)) {c : Tampering}
    (hchanges : c.Changes e) (hfree : c.IsCollisionFree hash e) :
    Entry.firstBroken? hash (front ++ c.apply hash e ++ back) =
      c.reported? front.length back.length := by
  obtain ⟨hintact, hback⟩ := Entry.isIntact_of_isChain hchain
  simp only [Entry.isIntact, Bool.and_eq_true, beq_iff_eq] at hintact
  obtain ⟨⟨hsequence, hprevious⟩, hproper⟩ := hintact
  rw [List.append_assoc, Entry.firstBroken?_append (Entry.firstBroken?_of_isChain_append hchain)]
  -- the hash of the entry is that of its bytes, so other bytes have another hash
  have hother : ∀ f ∈ c.apply hash e, f.bytes ≠ e.bytes → f.properHash hash ≠ e.hash := by
    intro f hf hbytes hhash
    exact hbytes (hfree f hf (hhash.trans hproper.symm))
  cases c with
  | pass p =>
    have hhash := hother { e with pass := p } (List.mem_singleton_self _) (bytes_pass_ne hchanges)
    rw [apply, List.singleton_append, Entry.brokenFrom?_cons_of_not_isIntact, reported?, hsequence]
    simp [Entry.isIntact, hhash]
  | traceId id =>
    have hhash := hother { e with traceId := id } (List.mem_singleton_self _)
      (bytes_traceId_ne hchanges)
    rw [apply, List.singleton_append, Entry.brokenFrom?_cons_of_not_isIntact, reported?, hsequence]
    simp [Entry.isIntact, hhash]
  | previous h =>
    have hne : h ≠ Entry.endHash genesis front := hprevious ▸ hchanges
    rw [apply, List.singleton_append, Entry.brokenFrom?_cons_of_not_isIntact, reported?, hsequence]
    simp [Entry.isIntact, hne]
  | hash h =>
    have hne : e.properHash hash ≠ h := hproper ▸ Ne.symm hchanges
    rw [apply, List.singleton_append, Entry.brokenFrom?_cons_of_not_isIntact, reported?, hsequence]
    simpa [Entry.isIntact, Entry.properHash] using fun _ _ => hne
  | sequence n =>
    have hne : n ≠ front.length := hsequence ▸ hchanges
    rw [apply, List.singleton_append, Entry.brokenFrom?_cons_of_not_isIntact, reported?]
    simp [Entry.isIntact, hne]
  | rewrite p =>
    have hhash := hother (.next hash e.traceId e.sequence e.previous p) (List.mem_singleton_self _)
      (bytes_pass_ne hchanges)
    rw [Entry.properHash_next] at hhash
    have hnext : Entry.isIntact hash e.sequence e.previous
        (.next hash e.traceId e.sequence e.previous p) := Entry.isIntact_next _ _ _ _
    rw [hsequence, hprevious] at hnext hhash
    rw [apply, hsequence, hprevious, List.singleton_append, Entry.brokenFrom?, if_pos hnext,
      Entry.brokenFrom?_of_moved hback (.inr hhash)]
    rfl
  | remove => exact Entry.brokenFrom?_of_moved hback (.inl (Nat.succ_ne_self _).symm)

end Tampering

/-- A change of a trace is located. Passes that are given to a sink that keeps them make a whole
chain, and so is each of its beginnings. One change of one entry breaks the chain there, at the
number that then stands there, unless the hash was made right again or the entry was removed: then
the chain breaks at the entry behind, if there is one. -/
theorem writeAll_tampering (hash : Hash) (traceId : String) (passes : List Pass)
    (time : Timestamp) : ∃ t, (Sink.memory hash).writeAll passes { id := traceId } = .ok t ∧
      let entries := (t.save time).entries
      entries.map (·.pass) = passes ∧
      (∀ n, Entry.firstBroken? hash (entries.take n) = none) ∧
      ∀ front e back, entries = front ++ e :: back →
        ∀ c : Tampering, c.Changes e → c.IsCollisionFree hash e →
          Entry.firstBroken? hash (front ++ c.apply hash e ++ back) =
            c.reported? front.length back.length := by
  have hkept := (Trace.isKept_fresh hash traceId).foldl_append passes
  refine ⟨_, Sink.memory_writeAll hash passes _, ?_, ?_, ?_⟩
  · exact (Trace.passes_foldl_append _ passes).trans (List.nil_append _)
  · intro n
    have hintact := hkept.intact
    rw [Trace.isIntact, ← List.take_append_drop n (Trace.entries _)] at hintact
    exact Entry.firstBroken?_of_isChain_append hintact
  · intro front e back hentries c hchanges hfree
    refine Tampering.firstBroken?_apply ?_ hchanges hfree
    rw [← hentries]
    exact hkept.intact

/-- The first of two records is replaced by another one, with the hash that belongs to it. The
second entry, which is still linked to the old hash, is reported. -/
theorem writeAll_tampering_rewrite :
    let reset number : Pass :=
      { number, trigger := .reset, input := .ofList [], states := .ofList [],
        output := .ofList [], firedRules := [], hints := [], iterations := 1, time := .epoch }
    let first := Entry.next Sha256.hex "t" 0 genesis (reset 0)
    let second := Entry.next Sha256.hex "t" 1 first.hash (reset 1)
    let forged := Entry.next Sha256.hex "t" 0 genesis (reset 2)
    Sha256.hex forged.bytes ≠ Sha256.hex first.bytes ∧
      Entry.firstBroken? Sha256.hex [forged, second] = some 1 := by
  intro reset first second forged
  have hapart : Sha256.hex forged.bytes ≠ Sha256.hex first.bytes := by
    rw [Entry.bytes_next_genesis, Entry.bytes_next_genesis]
    decide +kernel
  have hchanges : (Tampering.rewrite (reset 2)).Changes first := by
    change (reset 2).toJson.compact ≠ (reset 0).toJson.compact
    decide +kernel
  have hfree : (Tampering.rewrite (reset 2)).IsCollisionFree Sha256.hex first := by
    intro f hf hhash
    rw [List.mem_singleton.mp hf] at hhash
    exact absurd hhash hapart
  obtain ⟨t, ht, -, -, hlocated⟩ :=
    writeAll_tampering Sha256.hex "t" [reset 0, reset 1] .epoch
  rw [Sink.memory_writeAll] at ht
  have hentries : (t.save .epoch).entries = [] ++ first :: [second] := by
    rw [← Except.ok.inj ht]
    rfl
  exact ⟨hapart, hlocated [] first [second] hentries (.rewrite (reset 2)) hchanges hfree⟩

end LiveForm
