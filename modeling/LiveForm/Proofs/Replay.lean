import LiveForm.Proofs.Replay.Comparison
import LiveForm.Proofs.Trace.Reading

/-!
# Replaying saved traces

A saved trace is read back but for the nulls in its states: a state with null for a value comes back
as one without a value. So a replay reproduces every pass up to the first that has such a state, and
reports the first of its fields that has one; the chain is as whole as before.
-/

namespace LiveForm

/-- The first field whose state has null for a value. -/
def FieldStates.nullKey? (states : FieldStates) : Option String :=
  states.keys.find? fun k => (states.get? k).any fun s => s.value = some .null

/-- A state is the same without null, unless its value is null. -/
theorem FieldState.same_withoutNull {s : FieldState} (h : ∀ v ∈ s.value, v.isFinite) :
    same s.withoutNull s = decide (s.value ≠ some .null) := by
  obtain ⟨visible, required, value, options, disabled⟩ := s
  have hvalue : sameValue (value.filter (· ≠ .null)) value = decide (value ≠ some .null) := by
    rcases value with _ | v
    · rfl
    · by_cases hv : v = .null
      · simp [hv, Option.filter_some, sameValue]
      · have hsame : Json.same v v = true := Json.same_self (h v rfl)
        simp [hv, Option.filter_some, sameValue, hsame]
  simp only [same, withoutNull, hvalue, beq_self_eq_true, Bool.true_and, Bool.and_true]

/-- States differ from those without null where there is null for a value. -/
theorem differingKey?_withoutNull {states : FieldStates}
    (h : ∀ e ∈ states.toList, ∀ v ∈ e.2.value, v.isFinite) :
    differingKey? FieldState.same (states.mapValues fun _ s => s.withoutNull) states =
      FieldStates.nullKey? states := by
  have hkeys : (states.mapValues fun _ s => s.withoutNull).keys = states.keys := by
    simp [SortedMap.keys, SortedMap.mapValues]
  rw [differingKey?, hkeys, List.find?_append, Option.or_self, FieldStates.nullKey?]
  congr
  funext k
  rw [SortedMap.get?_mapValues]
  cases hk : states.get? k with
  | none => rfl
  | some s =>
    have hfinite := h _ (SortedMap.mem_of_find?_eq_some hk)
    simp [sameOption, FieldState.same_withoutNull hfinite]

namespace Pass

/-- What a replay reports of a pass that is read back without nulls. -/
def mismatch? (p : Pass) : Option FormError :=
  (p.states.nullKey?).map fun id => .replayMismatch p.number (.state id)

/-- A readable pass without nulls differs from what was recorded in the first state with null. -/
theorem difference?_withoutNulls {p : Pass} (h : p.IsReadable) :
    p.withoutNulls.difference? p.evaluation = (p.states.nullKey?).map .state := by
  have hstates := differingKey?_withoutNull fun e he v hv => (h.states e he v hv).isFinite
  have houtput : differingKey? Json.same p.output p.output = none :=
    differingKey?_eq_none_iff.mpr (sameData_self fun e he => (h.output e he).isFinite)
  rw [difference?]
  simp only [withoutNulls, evaluation, hstates, houtput]
  cases p.states.nullKey? <;> simp

/-- A replay reproduces a recorded pass without nulls, or reports the first state with null. -/
theorem replay_withoutNulls {d : Document} {p : Pass} (h : p.IsRecorded d)
    (hreadable : p.IsReadable) :
    (p.withoutNulls.replay priorityEngine d.fields d.logic).value =
      match p.mismatch? with
      | some e => .error e
      | none => .ok () := by
  have hdifference := difference?_withoutNulls hreadable
  rw [h.evaluation_eq] at hdifference
  have hinput : p.withoutNulls.input = p.input := rfl
  rw [mismatch?, replay_value, hinput, hdifference]
  cases p.states.nullKey? <;> rfl

/-- A replay reproduces recorded passes without nulls up to the first that has a state with null. -/
theorem replayAll_withoutNulls {d : Document} (passes : List Pass)
    (h : ∀ p ∈ passes, p.IsRecorded d ∧ p.IsReadable) :
    (replayAll priorityEngine d.fields d.logic (passes.map withoutNulls)).value =
      match passes.findSome? mismatch? with
      | some e => .error e
      | none => .ok () := by
  induction passes with
  | nil => rfl
  | cons p passes ih =>
    rw [List.forall_mem_cons] at h
    have hp := replay_withoutNulls h.1.1 h.1.2
    rw [List.map_cons, replayAll_cons, hp, List.findSome?_cons]
    cases p.mismatch? with
    | some e => rfl
    | none => exact ih h.2

end Pass

/-- The answer of a replay to recorded passes that are read back without nulls: their number, or
what it reports of the first that has a state with null. -/
def Pass.replayAnswer (passes : List Pass) : Except FormError Nat :=
  match passes.findSome? mismatch? with
  | some e => .error e
  | none => .ok passes.length

/-- The replay of a recorded pass reports nothing exactly if no value that it produced is null. -/
theorem Pass.IsRecorded.mismatch?_eq_none_iff {d : Document} {p : Pass} (h : p.IsRecorded d) :
    p.mismatch? = none ↔ ∀ e ∈ p.output.toList, e.2 ≠ .null := by
  rw [mismatch?, Option.map_eq_none_iff, FieldStates.nullKey?, List.find?_eq_none]
  constructor
  · intro hnone e he hnull
    have hvalue : p.output.get? e.1 = some .null := by
      rw [← hnull]
      exact SortedMap.find?_eq_some_of_mem p.output.nodup_keys he
    -- what has a value is a field, which has a state with that value
    have hfield := h.fits.defined e.1 (List.mem_map_of_mem he)
    have hkey : e.1 ∈ p.states.keys := h.fits.oneState.mem_iff.mpr hfield
    obtain ⟨s, hs⟩ := Option.isSome_iff_exists.mp (SortedMap.mem_keys_iff.mp hkey)
    have hstate : s.value = p.output.get? e.1 := h.fits.values e.1 s hs
    exact hnone e.1 hkey (by simp [hs, hstate, hvalue])
  · intro hvalues k _ hany
    cases hs : p.states.get? k with
    | none => simp [hs] at hany
    | some s =>
      have hstate : s.value = p.output.get? k := h.fits.values k s hs
      have hvalue : p.output.get? k = some .null := by simpa [hs, hstate] using hany
      exact hvalues _ (SortedMap.mem_of_find?_eq_some hvalue) rfl

/-- A replay of recorded passes counts them all exactly if no value that they produced is null. -/
theorem Pass.replayAnswer_eq_ok_iff {d : Document} {passes : List Pass}
    (h : ∀ p ∈ passes, p.IsRecorded d) : replayAnswer passes = .ok passes.length ↔
      ∀ p ∈ passes, ∀ e ∈ p.output.toList, e.2 ≠ .null := by
  have hnone : passes.findSome? mismatch? = none ↔
      ∀ p ∈ passes, ∀ e ∈ p.output.toList, e.2 ≠ .null := by
    rw [List.findSome?_eq_none_iff]
    exact forall₂_congr fun p hp => (h p hp).mismatch?_eq_none_iff
  rw [← hnone, replayAnswer]
  cases passes.findSome? mismatch? <;> simp

/-- A replay reproduces recorded entries without nulls up to the first that has a state with
null. -/
theorem replayEntries_withoutNulls {d : Document} {entries : List Entry}
    (h : ∀ e ∈ entries, e.pass.IsRecorded d ∧ e.pass.IsReadable) :
    (replayEntries priorityEngine d.fields d.logic (entries.map Entry.withoutNulls)).value =
      Pass.replayAnswer (entries.map (·.pass)) := by
  have hpasses : (entries.map Entry.withoutNulls).map (·.pass) =
      (entries.map (·.pass)).map Pass.withoutNulls := by
    rw [List.map_map, List.map_map]
    rfl
  have hall := Pass.replayAll_withoutNulls (entries.map (·.pass)) (List.forall_mem_map.mpr h)
  rw [replayEntries_value, hpasses, hall, List.length_map, Pass.replayAnswer, List.length_map]
  cases (entries.map (·.pass)).findSome? Pass.mismatch? <;> rfl

/-- The number of writes that succeed among some operations is at most that of the operations. -/
theorem length_successfulWrites_le (ops : List Operation) (responses : List Response) :
    (successfulWrites ops responses).length ≤ ops.length := by
  rw [successfulWrites, List.length_map]
  exact (List.length_filter_le _ _).trans (by simp)

/-- The trace of a session over free data, saved after fewer than `2 ^ 64` passes, is readable. -/
theorem Session.History.isReadable_save {d : Document} (hd : ∀ v ∈ d.values, v.IsFree)
    {sessionId traceId : String} {writes : List Operation} {submitted : Bool} {s : Session Trace}
    (h : s.History d sessionId traceId writes submitted) (hrecorded : s.IsRecorded d)
    (hcount : writes.length + 1 < 2 ^ 64) (time : Timestamp) : (s.trace.save time).IsReadable := by
  have hbound : s.passes < 2 ^ 64 := by
    rw [h.counted]
    omega
  intro e he
  have hsequence : e.sequence ∈ List.range s.passes := by
    rw [← h.sequences]
    exact List.mem_map_of_mem he
  have hpass : e.pass ∈ s.trace.passes := List.mem_map_of_mem he
  have hnumber : e.pass.number ∈ List.range s.passes := by
    rw [← h.numbered]
    exact List.mem_map_of_mem hpass
  rw [List.mem_range] at hsequence hnumber
  exact ⟨by omega, (hrecorded.passes _ hpass).isReadable hd (by omega)⟩

/-- The trace of a session over free data, saved and read back, has a whole chain and replays up to
the first pass that has a state with null. -/
theorem Session.History.replay_save {d : Document} (hd : ∀ v ∈ d.values, v.IsFree)
    {sessionId traceId : String} {writes : List Operation} {submitted : Bool} {s : Session Trace}
    (h : s.History d sessionId traceId writes submitted) (hrecorded : s.IsRecorded d)
    (hcount : writes.length + 1 < 2 ^ 64) (time : Timestamp) :
    let saved := s.trace.save time
    saved.toJson.depth ≤ Json.maxLevels →
    (∀ x ∈ saved.toJson.floats, Json.read? (Json.float x).compact = some (.float x)) →
    (Json.read? saved.toJson.compact).bind SavedTrace.ofJson? = some saved.withoutNulls ∧
    Entry.isChain Sha256.hex saved.withoutNulls.entries ∧
    (replayEntries priorityEngine d.fields d.logic saved.withoutNulls.entries).value =
      Pass.replayAnswer s.trace.passes ∧
    (Pass.replayAnswer s.trace.passes = .ok s.passes ↔
      ∀ p ∈ s.trace.passes, ∀ e ∈ p.output.toList, e.2 ≠ .null) := by
  intro saved hdepth hfloats
  have hreadable : saved.IsReadable := h.isReadable_save hd hrecorded hcount time
  refine ⟨hreadable.ofJson?_read? hfloats hdepth, ?_, ?_, ?_⟩
  · exact (Entry.isChain_map_withoutNulls _ _).trans h.kept.intact
  · exact replayEntries_withoutNulls fun e he =>
      ⟨hrecorded.passes _ (List.mem_map_of_mem he), (hreadable e he).2⟩
  · have hlength : s.trace.passes.length = s.passes := by
      rw [Trace.passes, List.length_map, h.recorded]
    rw [← hlength]
    exact Pass.replayAnswer_eq_ok_iff hrecorded.passes

/-- **A saved trace replays, but for nulls.** Take any session of a form whose fields have different
ids, over free data, and save its trace. If the text of each float in it is read back, and it nests
no deeper than the reader goes, then it is read back but for the nulls in its states; the chain of
what is read back is whole; and a replay of it reproduces every pass if no pass has produced null
for a field, and otherwise reports the first state with null. -/
theorem replay_saved_session {d : Document} (hids : (d.fields.map (·.id)).Nodup)
    (hd : ∀ v ∈ d.values, v.IsFree) (sessionId traceId : String) (clock : Nat → Timestamp)
    (time : Timestamp) {ops : List Operation} (hops : ∀ op ∈ ops, ∀ v ∈ op.values, v.IsFree)
    (hcount : ops.length + 1 < 2 ^ 64) :
    let w := d.setup sessionId clock
    let s := (w.performAll (w.start { id := traceId }).value ops).value.2
    let saved := s.trace.save time
    saved.toJson.depth ≤ Json.maxLevels →
    (∀ x ∈ saved.toJson.floats, Json.read? (Json.float x).compact = some (.float x)) →
    (Json.read? saved.toJson.compact).bind SavedTrace.ofJson? = some saved.withoutNulls ∧
    Entry.isChain Sha256.hex saved.withoutNulls.entries ∧
    (replayEntries priorityEngine d.fields d.logic saved.withoutNulls.entries).value =
      Pass.replayAnswer s.trace.passes ∧
    (Pass.replayAnswer s.trace.passes = .ok s.passes ↔
      ∀ p ∈ s.trace.passes, ∀ e ∈ p.output.toList, e.2 ≠ .null) := by
  intro w s
  have hhistory := (Session.History.start hids sessionId traceId clock).performAll hids clock ops
  have hrecorded := (Session.IsRecorded.start hids hd sessionId traceId clock).performAll hids hd
    sessionId clock hops
  have hwrites (responses : List Response) :
      (successfulWrites ops responses).length + 1 < 2 ^ 64 :=
    (Nat.succ_le_succ (length_successfulWrites_le ops responses)).trans_lt hcount
  exact hhistory.replay_save hd hrecorded (hwrites _) time

/-- An order of twelve pieces at 9.5 each is recorded without nulls. -/
theorem replay_saved_session_bulkOrder :
    (Sample.bulkOrder.fields.map (·.id)).Nodup ∧ (∀ v ∈ Sample.bulkOrder.values, v.IsFree) ∧
    let ops : List Operation :=
      [.set "qty" (.int 12), .load (.ofList [("price", .float 9.5)]), .clear "coupon", .submit]
    let w := Sample.bulkOrder.setup "session" fun _ => .epoch
    let s := (w.performAll (w.start { id := "order" }).value ops).value.2
    let saved := s.trace.save .epoch
    (∀ op ∈ ops, ∀ v ∈ op.values, v.IsFree) ∧ saved.toJson.depth ≤ Json.maxLevels ∧
    (∀ x ∈ saved.toJson.floats, Json.read? (Json.float x).compact = some (.float x)) ∧
    (∀ p ∈ s.trace.passes, ∀ e ∈ p.output.toList, e.2 ≠ .null) ∧
    (Json.read? saved.toJson.compact).bind SavedTrace.ofJson? = some saved.withoutNulls ∧
    Entry.isChain Sha256.hex saved.withoutNulls.entries ∧
    (replayEntries priorityEngine Sample.bulkOrder.fields Sample.bulkOrder.logic
      saved.withoutNulls.entries).value = Pass.replayAnswer s.trace.passes ∧
    (Pass.replayAnswer s.trace.passes = .ok s.passes ↔
      ∀ p ∈ s.trace.passes, ∀ e ∈ p.output.toList, e.2 ≠ .null) :=
  ⟨by decide, by decide +kernel, by decide +kernel, by decide +kernel, by decide +kernel,
    by decide +kernel, replay_saved_session (by decide) (by decide +kernel) _ _ _ _
      (by decide +kernel) (by decide) (by decide +kernel) (by decide +kernel)⟩

/-- An order in which the coupon is set to null is recorded, saved and read back, and the replay of
what is read back fails. -/
theorem replay_saved_session_null :
    let w := Sample.bulkOrder.setup "session" fun _ => .epoch
    let s := (w.performAll (w.start { id := "order" }).value [.set "coupon" .null]).value.2
    let saved := s.trace.save .epoch
    (Json.read? saved.toJson.compact).bind SavedTrace.ofJson? = some saved.withoutNulls ∧
    (replayEntries priorityEngine Sample.bulkOrder.fields Sample.bulkOrder.logic
      saved.withoutNulls.entries).value = .error (.replayMismatch 1 (.state "coupon")) := by
  have hd : ∀ v ∈ Sample.bulkOrder.values, v.IsFree := by decide +kernel
  have hids : (Sample.bulkOrder.fields.map (·.id)).Nodup := by decide
  have hops : ∀ op ∈ [Operation.set "coupon" .null], ∀ v ∈ op.values, v.IsFree := by
    decide +kernel
  have hhistory := (Session.History.start hids "session" "order" fun _ => .epoch).performAll hids
    (fun _ => .epoch) [.set "coupon" .null]
  have hrecorded := (Session.IsRecorded.start hids hd "session" "order" fun _ => .epoch).performAll
    hids hd "session" (fun _ => .epoch) hops
  have h := hhistory.replay_save hd hrecorded (by decide +kernel) .epoch (by decide +kernel)
    (by decide +kernel)
  exact ⟨h.1, h.2.2.1.trans (by decide +kernel)⟩

end LiveForm
