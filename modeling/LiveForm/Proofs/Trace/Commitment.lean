import LiveForm.Proofs.Digest.Sha256
import LiveForm.Proofs.Json.Scan
import LiveForm.Proofs.Pass.Record
import LiveForm.Proofs.Trace.Bytes
import LiveForm.Proofs.Trace.Chain

/-!
# What the last hash of a chain commits to

The bytes that a hash covers stand next to each other without separators, and still determine what
they were made of: a record begins where `{"p` stands after a digest, and within a record it stands
after no digit. So two whole chains that end in the same hash have the same last entry, and from
there back the same entries.
-/

namespace LiveForm

open Sha256 (IsDigest isDigest_hex)

/-- What stands before the first entry is 64 zeros. -/
theorem toList_genesis : genesis.toList = List.replicate 64 '0' := String.toList_ofList

/-- What stands before the first entry is written as a digest. -/
theorem isDigest_genesis : IsDigest genesis where
  length := by rw [toList_genesis, List.length_replicate]
  digits c hc := by
    rw [toList_genesis] at hc
    exact ⟨0, by decide, List.eq_of_mem_replicate hc⟩

/-- The digits of digests are written as one byte each. -/
theorem utf8EncodeChar_hexDigit : ∀ n < 16,
    String.utf8EncodeChar (Json.hexDigit n) = [UInt8.ofNat (Json.hexDigit n).toNat] ∧
      (UInt8.ofNat (Json.hexDigit n).toNat).toNat < 128 := by
  decide

/-- The digits of digests mean nothing in JSON text. -/
theorem hexDigit_not_mem : ∀ n < 16,
    Json.hexDigit n ∉ ['"', '\\', '{', ':', ',', '['] := by
  decide

/-- A digest takes 64 bytes. -/
theorem length_utf8_digest {s : String} (h : IsDigest s) : (utf8 s).length = 64 := by
  have hone : ∀ c ∈ s.toList, (String.utf8EncodeChar c).length = 1 := by
    intro c hc
    obtain ⟨n, hn, rfl⟩ := h.digits c hc
    rw [(utf8EncodeChar_hexDigit n hn).1]
    rfl
  rw [utf8, List.length_flatMap, List.map_congr_left hone, List.map_const', List.sum_replicate,
    h.length]
  rfl

/-- The last byte of a digest. -/
theorem exists_utf8_digest_eq {s : String} (h : IsDigest s) : ∃ n < 16, ∃ bytes,
    utf8 s = bytes ++ [UInt8.ofNat (Json.hexDigit n).toNat] := by
  have hne : s.toList ≠ [] := by
    intro hnil
    have := h.length
    simp [hnil] at this
  obtain ⟨n, hn, hlast⟩ := h.digits _ (List.getLast_mem hne)
  refine ⟨n, hn, s.toList.dropLast.flatMap String.utf8EncodeChar, ?_⟩
  conv_lhs => rw [utf8, ← List.dropLast_concat_getLast hne]
  rw [List.flatMap_append, hlast, List.flatMap_singleton, (utf8EncodeChar_hexDigit n hn).1]

namespace Pass

variable {p q : Pass}

/-- The text of every record begins alike. -/
theorem exists_compactChars_eq (p : Pass) : ∃ cs, p.toJson.compactChars = '{' :: '"' :: 'p' :: cs :=
  ⟨_, rfl⟩

/-- The text of a record does not go on from a digit within the text of another. -/
theorem utf8_compact_ne (hp : p.IsFaithful) (q : Pass) {n : Nat} (hn : n < 16)
    (before : List UInt8) : utf8 p.toJson.compact ≠
      before ++ UInt8.ofNat (Json.hexDigit n).toNat :: utf8 q.toJson.compact := by
  obtain ⟨hdigit, hlow⟩ := utf8EncodeChar_hexDigit n hn
  intro h
  obtain ⟨cs₁, c, cs₂, hcs, hc, hafter⟩ := flatMap_utf8EncodeChar_cut hlow h
  have hsame : c = Json.hexDigit n := by
    have hbytes : [c].flatMap String.utf8EncodeChar =
        [Json.hexDigit n].flatMap String.utf8EncodeChar := by
      simp [hc, hdigit]
    exact List.singleton_inj.mp (flatMap_utf8EncodeChar_inj hbytes)
  have hrest := flatMap_utf8EncodeChar_inj hafter
  obtain ⟨cs, hq⟩ := q.exists_compactChars_eq
  rw [Json.compact, String.toList_ofList] at hcs hrest
  rw [hsame, hrest, hq] at hcs
  exact Json.compactChars_ne_brace hp.isFinite cs₁ cs (hexDigit_not_mem n hn) hcs

end Pass

namespace Entry

/-- The bytes that the hash of an entry should cover. -/
def bytes (e : Entry) : List UInt8 := covered e.traceId e.sequence e.previous e.pass

/-- What can be said of an entry that was read and belongs to a chain. -/
structure IsFaithful (e : Entry) : Prop where
  /-- Its number fits eight bytes. -/
  sequence_lt : e.sequence < 2 ^ 64
  /-- Its pass is as it can be written. -/
  pass : e.pass.IsFaithful
  /-- The hash of the entry before is a digest. -/
  previous : IsDigest e.previous

variable {e f : Entry}

/-- The bytes before the record of an entry. -/
def heading (e : Entry) : List UInt8 :=
  utf8 e.traceId ++ littleEndian 8 e.sequence ++ utf8 e.previous

/-- The covered bytes are the heading and the record. -/
theorem bytes_eq (e : Entry) : e.bytes = e.heading ++ utf8 e.pass.toJson.compact := rfl

/-- The bytes of the entry that comes next, without the texts in between. -/
theorem bytes_next (hash : Hash) (traceId : String) (place : Nat) (previous : List Char)
    (p : Pass) : (next hash traceId place (String.ofList previous) p).bytes =
      utf8 traceId ++ littleEndian 8 place ++ previous.flatMap String.utf8EncodeChar ++
        p.toJson.compactChars.flatMap String.utf8EncodeChar := by
  rw [← utf8_ofList, ← utf8_ofList]
  rfl

/-- The bytes of the first entry of a trace. -/
theorem bytes_next_genesis (hash : Hash) (traceId : String) (p : Pass) :
    (next hash traceId 0 genesis p).bytes =
      utf8 traceId ++ littleEndian 8 0 ++
        (List.replicate 64 '0').flatMap String.utf8EncodeChar ++
          p.toJson.compactChars.flatMap String.utf8EncodeChar :=
  bytes_next hash traceId 0 (List.replicate 64 '0') p

/-- The heading of an entry does not reach into the record of another with the same bytes. -/
theorem eq_nil_of_heading_append (he : e.IsFaithful) (hf : f.IsFaithful) {extra : List UInt8}
    (hheading : f.heading = e.heading ++ extra)
    (hrecord : utf8 e.pass.toJson.compact = extra ++ utf8 f.pass.toJson.compact) :
    extra = [] := by
  rcases List.eq_nil_or_concat extra with hnil | ⟨before, b, rfl⟩
  · exact hnil
  · exfalso
    obtain ⟨n, hn, bytes, hbytes⟩ := exists_utf8_digest_eq hf.previous
    rw [List.concat_eq_append] at hheading hrecord
    rw [heading, hbytes, ← List.append_assoc, ← List.append_assoc] at hheading
    obtain ⟨-, hlast⟩ := List.append_inj' hheading rfl
    rw [List.singleton_inj] at hlast
    rw [← hlast, List.append_assoc, List.singleton_append] at hrecord
    exact Pass.utf8_compact_ne he.pass f.pass hn before hrecord

/-- Equal bytes have equal headings and equal records. -/
theorem heading_eq_of_bytes_eq (he : e.IsFaithful) (hf : f.IsFaithful) (h : e.bytes = f.bytes) :
    e.heading = f.heading ∧ e.pass.toJson.compact = f.pass.toJson.compact := by
  rw [bytes_eq, bytes_eq, List.append_eq_append_iff] at h
  rcases h with ⟨extra, hheading, hrecord⟩ | ⟨extra, hheading, hrecord⟩
  · have hnil := eq_nil_of_heading_append he hf hheading hrecord
    rw [hnil, List.append_nil] at hheading
    rw [hnil, List.nil_append] at hrecord
    exact ⟨hheading.symm, utf8_inj hrecord⟩
  · have hnil := eq_nil_of_heading_append hf he hheading hrecord
    rw [hnil, List.append_nil] at hheading
    rw [hnil, List.nil_append] at hrecord
    exact ⟨hheading, utf8_inj hrecord.symm⟩

/-- Equal headings are of the same trace, the same place and the same entry before. -/
theorem eq_of_heading_eq (he : e.IsFaithful) (hf : f.IsFaithful) (h : e.heading = f.heading) :
    e.traceId = f.traceId ∧ e.sequence = f.sequence ∧ e.previous = f.previous := by
  obtain ⟨hstart, hprevious⟩ := List.append_inj' h (by
    rw [length_utf8_digest he.previous, length_utf8_digest hf.previous])
  obtain ⟨htrace, hsequence⟩ := List.append_inj' hstart (by
    rw [length_littleEndian, length_littleEndian])
  refine ⟨utf8_inj htrace, ?_, utf8_inj hprevious⟩
  exact littleEndian_inj he.sequence_lt hf.sequence_lt hsequence

/-- What is assumed of two entries: their bytes have no common hash, and the numbers and the times
in their records no common text, unless they are equal. -/
structure ToldApart (e f : Entry) : Prop where
  /-- The hashes of different bytes are different. -/
  hash : Sha256.hex e.bytes = Sha256.hex f.bytes → e.bytes = f.bytes
  /-- The texts of different numbers are different. -/
  numbers : ∀ m ∈ e.pass.toJson.numbers, ∀ n ∈ f.pass.toJson.numbers, m.compact = n.compact → m = n
  /-- The texts of different times are different. -/
  time : e.pass.time.text = f.pass.time.text → e.pass.time = f.pass.time

/-- Faithful entries whose hashes are right and equal are equal. -/
theorem eq_of_hash_eq (he : e.IsFaithful) (hf : f.IsFaithful) (hapart : e.ToldApart f)
    (hehash : e.properHash Sha256.hex = e.hash) (hfhash : f.properHash Sha256.hex = f.hash)
    (h : e.hash = f.hash) : e = f := by
  have hbytes : e.bytes = f.bytes := by
    apply hapart.hash
    rw [← hehash, ← hfhash] at h
    exact h
  obtain ⟨hheading, hrecord⟩ := heading_eq_of_bytes_eq he hf hbytes
  obtain ⟨htrace, hsequence, hprevious⟩ := eq_of_heading_eq he hf hheading
  have hjson := Json.compact_inj he.pass.isFinite hf.pass.isFinite hapart.numbers hrecord
  have hpass := he.pass.toJson_inj hf.pass hapart.time hjson
  cases e
  cases f
  simp only at *
  rw [hsequence, htrace, hpass, hprevious, h]

/-- A chain ends in a digest. -/
theorem isDigest_endHash {entries : List Entry} (h : isChain Sha256.hex entries) :
    IsDigest (endHash genesis entries) := by
  rcases List.eq_nil_or_concat' entries with rfl | ⟨front, e, rfl⟩
  · exact isDigest_genesis
  · obtain ⟨-, -, -, hhash⟩ := linked_of_isChain h
    rw [endHash_concat, ← hhash]
    exact isDigest_hex e.bytes

/-- An entry that is read has a number that fits eight bytes, and a faithful pass. -/
theorem sequence_lt_and_pass_of_reads {e : Entry} (h : Json.Reads ofJson? e) :
    e.sequence < 2 ^ 64 ∧ e.pass.IsFaithful := by
  obtain ⟨v, hfinite, h⟩ := h
  have h := Json.read_of_record? h
  simp only [Option.bind_eq_bind, Option.bind_eq_some_iff] at h
  obtain ⟨sequence, hsequence, traceId, -, pass, hpass, previous, -, hash, -, he⟩ := h
  cases he
  refine ⟨?_, Pass.isFaithful_of_reads (Json.reads_of_required hfinite hpass)⟩
  obtain ⟨u, -, hu⟩ := Json.reads_of_required hfinite hsequence
  exact Json.lt_of_natBelow? hu

/-- An entry is read back from its written form if its pass is. -/
theorem ofJson?_toJson {e : Entry} (hsequence : e.sequence < 2 ^ 64)
    (hpass : Pass.ofJson? e.pass.toJson = some e.pass) : ofJson? e.toJson = some e := by
  have hread : Json.natBelow? UInt64.size (.int e.sequence) = some e.sequence :=
    Json.natBelow?_int hsequence
  simp [ofJson?, toJson, Json.record?, Json.isRecord, Json.part?, Json.text?, hpass, hread]

/-- The last entry of a chain of entries that were read is faithful. -/
theorem isFaithful_last {front : List Entry} {e : Entry} (h : isChain Sha256.hex (front ++ [e]))
    (hread : ∀ x ∈ front ++ [e], Json.Reads ofJson? x) : e.IsFaithful := by
  obtain ⟨hfront, -, hprevious, -⟩ := linked_of_isChain h
  obtain ⟨hsequence, hpass⟩ := sequence_lt_and_pass_of_reads (hread e (by simp))
  refine ⟨hsequence, hpass, ?_⟩
  rw [hprevious]
  exact isDigest_endHash hfront

/-- Chains that end in the same hash have the same last entry. -/
theorem last_eq_of_hash_eq {front front' : List Entry} {e f : Entry}
    (hread : ∀ x ∈ front ++ [e], Json.Reads ofJson? x)
    (hread' : ∀ y ∈ front' ++ [f], Json.Reads ofJson? y) (hapart : e.ToldApart f)
    (hchain : isChain Sha256.hex (front ++ [e])) (hchain' : isChain Sha256.hex (front' ++ [f]))
    (h : e.hash = f.hash) : e = f := by
  obtain ⟨-, -, -, hhash⟩ := linked_of_isChain hchain
  obtain ⟨-, -, -, hhash'⟩ := linked_of_isChain hchain'
  exact eq_of_hash_eq (isFaithful_last hchain hread) (isFaithful_last hchain' hread') hapart
    hhash hhash' h

/-- Chains of one length that end in the same hash are equal, from the last entry back. -/
theorem eq_of_endHash_eq {xs ys : List Entry} (hlength : xs.length = ys.length)
    (hread : ∀ x ∈ xs, Json.Reads ofJson? x) (hread' : ∀ y ∈ ys, Json.Reads ofJson? y)
    (hapart : ∀ x ∈ xs, ∀ y ∈ ys, x.ToldApart y) (hchain : isChain Sha256.hex xs)
    (hchain' : isChain Sha256.hex ys) (h : endHash genesis xs = endHash genesis ys) : xs = ys := by
  induction xs using List.reverseRecOn generalizing ys with
  | nil => exact (List.length_eq_zero_iff.mp hlength.symm).symm
  | append_singleton front e ih =>
    rcases List.eq_nil_or_concat' ys with rfl | ⟨front', f, rfl⟩
    · simp at hlength
    · rw [endHash_concat, endHash_concat] at h
      have hlast := last_eq_of_hash_eq hread hread' (hapart e (by simp) f (by simp)) hchain
        hchain' h
      obtain ⟨hfront, -, hprevious, -⟩ := linked_of_isChain hchain
      obtain ⟨hfront', -, hprevious', -⟩ := linked_of_isChain hchain'
      rw [hlast] at hprevious
      have hrest : front = front' := by
        apply ih (by simpa using hlength) (fun x hx => hread x (by simp [hx]))
          (fun y hy => hread' y (by simp [hy]))
          (fun x hx y hy => hapart x (by simp [hx]) y (by simp [hy])) hfront hfront'
        rw [← hprevious, ← hprevious']
      rw [hrest, hlast]

end Entry

/-- The last hash of a chain commits to all of it. Two whole chains that were read, are not empty
and end in the same hash are equal, entry by entry, if no two of their entries collide. -/
theorem chain_eq_of_last_hash_eq {xs ys : List Entry} (hxs : xs ≠ []) (hys : ys ≠ [])
    (hread : ∀ e ∈ xs ++ ys, Json.Reads Entry.ofJson? e)
    (hapart : ∀ e ∈ xs, ∀ f ∈ ys, e.ToldApart f) (hchain : Entry.isChain Sha256.hex xs)
    (hchain' : Entry.isChain Sha256.hex ys)
    (hlast : (xs.getLast hxs).hash = (ys.getLast hys).hash) : xs = ys := by
  obtain ⟨hxread, hyread⟩ := List.forall_mem_append.mp hread
  have hend : Entry.endHash genesis xs = Entry.endHash genesis ys := by
    rw [Entry.endHash, Entry.endHash, List.getLast?_eq_some_getLast hxs,
      List.getLast?_eq_some_getLast hys]
    exact hlast
  refine Entry.eq_of_endHash_eq ?_ hxread hyread hapart hchain hchain' hend
  -- the last entries are equal, and their numbers are the lengths
  obtain ⟨front, e, rfl⟩ := (List.eq_nil_or_concat' xs).resolve_left hxs
  obtain ⟨front', f, rfl⟩ := (List.eq_nil_or_concat' ys).resolve_left hys
  rw [List.getLast_concat, List.getLast_concat] at hlast
  have heq := Entry.last_eq_of_hash_eq hxread hyread (hapart e (by simp) f (by simp))
    hchain hchain' hlast
  obtain ⟨-, hsequence, -, -⟩ := Entry.linked_of_isChain hchain
  obtain ⟨-, hsequence', -, -⟩ := Entry.linked_of_isChain hchain'
  rw [heq, hsequence'] at hsequence
  simp [hsequence]

/-- A chain of two entries, in the second of which a text looks like the beginning of a record. -/
theorem chain_eq_of_last_hash_eq_pair :
    let data : FormData := .ofList [("name", .text "0\x7b\"pass\":")]
    let initial : Pass :=
      { number := 0, trigger := .initial, input := .ofList [], states := .ofList [],
        output := .ofList [], firedRules := [], hints := [], iterations := 1, time := .epoch }
    let loaded : Pass :=
      { number := 1, trigger := .valuesLoaded ["name"], input := data,
        states := .ofList [("name", ⟨true, false, some (.int 5), [], false⟩)], output := data,
        firedRules := [], hints := [.showMessage "rule" "text"], iterations := 1, time := .epoch }
    let first := Entry.next Sha256.hex "trace" 0 genesis initial
    let second := Entry.next Sha256.hex "trace" 1 first.hash loaded
    Sha256.hex first.bytes ≠ Sha256.hex second.bytes ∧
    Entry.isChain Sha256.hex [first, second] ∧
    (∀ e ∈ [first, second], Json.Reads Entry.ofJson? e) ∧
    (∀ e ∈ [first, second], ∀ f ∈ [first, second], e.ToldApart f) ∧
    [first, second] = [first, second] := by
  intro data initial loaded first second
  have hother : Sha256.hex first.bytes ≠ Sha256.hex second.bytes := by
    have hsecond : second.bytes = _ := Entry.bytes_next Sha256.hex "trace" 1
      ((Sha256.hash first.bytes).flatMap Sha256.wordText) loaded
    rw [hsecond, Entry.bytes_next_genesis]
    decide +kernel
  have hchain : Entry.isChain Sha256.hex [first, second] := by
    have hfirst : first.isIntact Sha256.hex 0 genesis := Entry.isIntact_next _ _ _ _
    have hsecond : second.isIntact Sha256.hex 1 first.hash := Entry.isIntact_next _ _ _ _
    simp [Entry.isChain, Entry.firstBroken?, Entry.brokenFrom?, hfirst, hsecond]
  have hreads : ∀ e ∈ [first, second], Json.Reads Entry.ofJson? e := by
    have hfirst : Entry.ofJson? first.toJson = some first :=
      Entry.ofJson?_toJson (by decide) (by decide +kernel)
    have hsecond : Entry.ofJson? second.toJson = some second :=
      Entry.ofJson?_toJson (by decide) (by decide +kernel)
    simp only [List.forall_mem_cons]
    exact ⟨⟨first.toJson, by decide +kernel, hfirst⟩, ⟨second.toJson, by decide +kernel, hsecond⟩,
      List.forall_mem_nil _⟩
  have hapart : ∀ e ∈ [first, second], ∀ f ∈ [first, second], e.ToldApart f := by
    have hnumbers : ∀ e ∈ [first, second], ∀ f ∈ [first, second], ∀ m ∈ e.pass.toJson.numbers,
        ∀ n ∈ f.pass.toJson.numbers, m.compact = n.compact → m = n := by decide +kernel
    have htime : ∀ e ∈ [first, second], e.pass.time = .epoch := by decide
    intro e he f hf
    refine ⟨?_, hnumbers e he f hf, fun _ => (htime e he).trans (htime f hf).symm⟩
    rcases List.mem_pair.mp he with rfl | rfl <;> rcases List.mem_pair.mp hf with rfl | rfl
    · exact fun _ => rfl
    · exact fun h => absurd h hother
    · exact fun h => absurd h.symm hother
    · exact fun _ => rfl
  exact ⟨hother, hchain, hreads, hapart,
    chain_eq_of_last_hash_eq (by simp) (by simp) (List.forall_mem_append.mpr ⟨hreads, hreads⟩)
      hapart hchain hchain rfl⟩

end LiveForm
