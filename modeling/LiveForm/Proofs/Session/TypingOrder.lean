import LiveForm.Proofs.Session.History
import LiveForm.Proofs.Settlement.References
import LiveForm.Sample.Contact

/-!
# The order of typing

Where no evaluation writes data, every pass is one run of the engine, which leaves the data as the
writes have made it. So the data of a session is made of the last write to each field, and however
it came about, the session shows the run of the engine over it.
-/

namespace LiveForm

/-! ### Forms that only read -/

/-- No evaluation of a form writes data. -/
structure Document.OnlyReads (d : Document) : Prop where
  /-- No field is calculated. -/
  plain : ∀ f ∈ d.fields, ¬f.isCalculated
  /-- No action is there to write a value. -/
  silent : ∀ r ∈ d.logic.rules, ∀ a ∈ r.actions, ¬a.IsWrite

section

variable {d : Document} (hd : d.OnlyReads)

include hd

/-- A run over any data leaves it as it is. -/
theorem Document.OnlyReads.formData_eq (data : FormData) :
    (priorityEngine d.fields d.logic data).value.formData = data := by
  have hwrites (id : String) : ¬d.logic.Writes id := by
    rintro ⟨r, hr, -, a, ha, hwrite, -⟩
    exact hd.silent r hr a ha hwrite
  ext1 id
  apply get?_formData_of_not_writes hwrites
  intro f hf hcalculated
  exact absurd hcalculated (hd.plain f hf)

/-- Settling finite data takes one run. -/
theorem Document.OnlyReads.settle_value {data : FormData}
    (hfinite : ∀ e ∈ data.toList, e.2.isFinite) :
    (settle priorityEngine d.fields d.logic data).value =
      ⟨(priorityEngine d.fields d.logic data).value, 1, true⟩ := by
  apply settle_of_sameData
  rw [hd.formData_eq]
  exact sameData_self hfinite

end

/-! ### The last write to a field -/

/-- What the last of some writes to a field has made of its value. A session starts as if all fields
had been written, with their default values or none. -/
def lastWrite (fields : List Field) (writes : List Operation) (id : String) : Option Json :=
  (writes.filterMap (·.write? fields id)).getLast?.getD ((Document.defaults fields).get? id)

/-- Before any write a field has its default value. -/
theorem lastWrite_nil (fields : List Field) (id : String) :
    lastWrite fields [] id = (Document.defaults fields).get? id := rfl

/-- One more write is the last one to the fields that it writes to. -/
theorem lastWrite_concat (fields : List Field) (writes : List Operation) (op : Operation)
    (id : String) : lastWrite fields (writes ++ [op]) id =
      (op.write? fields id).getD (lastWrite fields writes id) := by
  unfold lastWrite
  rw [List.filterMap_append, List.getLast?_append]
  cases hwrite : op.write? fields id with
  | none => simp [hwrite]
  | some written => simp [hwrite]

/-- A session shows some writes to a form: its data is made of the last ones to each field, and its
evaluation is a run over that data, as each pass has been. -/
structure Session.Shows (d : Document) (writes : List Operation) (s : Session Trace) : Prop where
  /-- Each value is what the last write has made of it. -/
  data : ∀ id, s.data.get? id = lastWrite d.fields writes id
  /-- Only fields of the form have values. -/
  defined : ∀ id ∈ s.data.keys, id ∈ d.fields.map (·.id)
  /-- All values are finite. -/
  finite : ∀ e ∈ s.data.toList, e.2.isFinite
  /-- The evaluation is a run over the data. -/
  evaluation : s.evaluation = (priorityEngine d.fields d.logic s.data).value
  /-- There was one pass at the start and one for each write. -/
  counted : s.trace.passes.length = 1 + writes.length
  /-- Every pass took one run. -/
  oneRun : ∀ p ∈ s.trace.passes, p.iterations = 1

namespace Session.Shows

variable {d : Document} (hd : d.OnlyReads)
  (hdefaults : ∀ f ∈ d.fields, ∀ v ∈ f.defaultValue, v.isFinite)
  {sessionId traceId : String} {clock : Nat → Timestamp} {writes : List Operation}
  {s : Session Trace}

/-- Sessions whose last writes to each field are the same show the same. -/
theorem congr {writes' : List Operation} {s' : Session Trace} (h : s.Shows d writes)
    (h' : s'.Shows d writes')
    (hlast : ∀ f ∈ d.fields, lastWrite d.fields writes f.id = lastWrite d.fields writes' f.id) :
    s.data = s'.data ∧ s.evaluation = s'.evaluation := by
  have hdata : s.data = s'.data := by
    ext1 id
    by_cases hid : id ∈ d.fields.map (·.id)
    · obtain ⟨f, hf, rfl⟩ := List.mem_map.mp hid
      rw [h.data, h'.data, hlast f hf]
    · -- what is not a field has no value in either
      have hnone {data : FormData} (hdefined : ∀ id ∈ data.keys, id ∈ d.fields.map (·.id)) :
          data.get? id = none := by
        rw [← Option.not_isSome_iff_eq_none, ← SortedMap.mem_keys_iff]
        exact fun hkey => hid (hdefined id hkey)
      rw [hnone h.defined, hnone h'.defined]
  constructor
  · exact hdata
  · rw [h.evaluation, h'.evaluation, hdata]

include hd

/-- A pass over finite data shows the writes that the data is made of. -/
theorem pass (hcounted : s.trace.passes.length = writes.length)
    (honeRun : ∀ p ∈ s.trace.passes, p.iterations = 1) {input : FormData}
    (hdata : ∀ id, input.get? id = lastWrite d.fields writes id)
    (hdefined : ∀ id ∈ input.keys, id ∈ d.fields.map (·.id))
    (hfinite : ∀ e ∈ input.toList, e.2.isFinite) (trigger : Trigger) :
    ((d.setup sessionId clock).pass trigger input s).value.Shows d writes := by
  have hsettled := hd.settle_value hfinite
  have hformData := hd.formData_eq input
  rw [Setup.pass_value, hsettled]
  dsimp only
  rw [hformData]
  refine ⟨hdata, hdefined, hfinite, rfl, ?_, Trace.forall_passes_append honeRun rfl⟩
  rw [Trace.passes_append, List.length_append, hcounted, List.length_singleton, Nat.add_comm]

include hdefaults

/-- A session that starts shows no writes. -/
theorem start (sessionId traceId : String) (clock : Nat → Timestamp) :
    ((d.setup sessionId clock).start { id := traceId }).value.Shows d [] := by
  unfold Setup.start
  apply pass hd
  · rfl
  · intro p hp
    cases hp
  · intro id
    rw [lastWrite_nil]
    rfl
  · intro id hid
    exact mem_of_mem_keys_defaults hid
  · exact forall_defaults hdefaults

/-- Whatever an operation with finite values does, the session shows its write too, if it was a
successful one. -/
theorem does (h : s.Shows d writes) {op : Operation} {r : Response} {t : Session Trace}
    (hop : ∀ v ∈ op.values, v.isFinite) (hdoes : (d.setup sessionId clock).Does s op r t) :
    t.Shows d (writes ++ successfulWrites [op] [r]) := by
  cases hdoes with
  | pass hwrite htargets hdata =>
    rw [successfulWrites_evaluated hwrite]
    apply pass hd _ h.oneRun
    · intro id
      rw [lastWrite_concat, ← h.data id]
      exact hdata.get?_eq id
    · exact hdata.defined htargets h.defined
    · exact hdata.forall_values hop (forall_defaults hdefaults) h.finite
    · rw [h.counted, List.length_append, List.length_singleton, Nat.add_comm]
  | failed | validated | rejected =>
    simpa [successfulWrites, Operation.isWrite, Response.isFailed] using h
  | accepted submission =>
    have hnone : successfulWrites [.submit] [.submitted (.accepted submission)] = [] := rfl
    rw [hnone, List.append_nil]
    exact ⟨h.data, h.defined, h.finite, h.evaluation, h.counted, h.oneRun⟩

/-- Through any operations with finite values a session shows the successful writes. -/
theorem performAll (sessionId : String) (clock : Nat → Timestamp) (h : s.Shows d writes)
    {ops : List Operation} (hops : ∀ op ∈ ops, ∀ v ∈ op.values, v.isFinite) :
    let after := ((d.setup sessionId clock).performAll s ops).value
    after.2.Shows d (writes ++ successfulWrites ops after.1) := by
  induction ops generalizing s writes with
  | nil => simpa [Setup.performAll, successfulWrites] using h
  | cons op ops ih =>
    rw [List.forall_mem_cons] at hops
    have hstep := h.does hd hdefaults hops.1 (Setup.does_perform d sessionId clock s op)
    have hrest := ih hstep hops.2
    intro after
    simp only [List.append_assoc, ← successfulWrites_cons] at hrest
    exact hrest

end Session.Shows

/-- **The order of typing does not matter where no evaluation writes data.** In a form without
calculated fields whose rules neither set nor calculate values, all numbers being finite as those of
JSON are, every pass of a session takes one run of the engine. Two sessions in which the last
successful write to each field is the same, whatever else was done and in whatever order, hold the
same data and show the same evaluation. -/
theorem performAll_lastWrite {d : Document} (hd : d.OnlyReads)
    (hdefaults : ∀ f ∈ d.fields, ∀ v ∈ f.defaultValue, v.isFinite)
    (sessionId sessionId' traceId traceId' : String) (clock clock' : Nat → Timestamp)
    {ops ops' : List Operation} (hops : ∀ op ∈ ops, ∀ v ∈ op.values, v.isFinite)
    (hops' : ∀ op ∈ ops', ∀ v ∈ op.values, v.isFinite) :
    let w := d.setup sessionId clock
    let w' := d.setup sessionId' clock'
    let after := (w.performAll (w.start { id := traceId }).value ops).value
    let after' := (w'.performAll (w'.start { id := traceId' }).value ops').value
    let writes := successfulWrites ops after.1
    let writes' := successfulWrites ops' after'.1
    (after.2.trace.passes.length = 1 + writes.length ∧
      after'.2.trace.passes.length = 1 + writes'.length) ∧
    (∀ p ∈ after.2.trace.passes ++ after'.2.trace.passes, p.iterations = 1) ∧
    ((∀ f ∈ d.fields, lastWrite d.fields writes f.id = lastWrite d.fields writes' f.id) →
      after.2.data = after'.2.data ∧ after.2.evaluation = after'.2.evaluation) := by
  intro w w' after after' writes writes'
  have hshows : after.2.Shows d writes := by
    have hstart := Session.Shows.start hd hdefaults sessionId traceId clock
    simpa using hstart.performAll hd hdefaults sessionId clock hops
  have hshows' : after'.2.Shows d writes' := by
    have hstart := Session.Shows.start hd hdefaults sessionId' traceId' clock'
    simpa using hstart.performAll hd hdefaults sessionId' clock' hops'
  refine ⟨⟨hshows.counted, hshows'.counted⟩, ?_, hshows.congr hshows'⟩
  intro p hp
  rcases List.mem_append.mp hp with hp | hp
  · exact hshows.oneRun p hp
  · exact hshows'.oneRun p hp

/-- An inquiry that turns from support to sales and is typed all over. -/
def Sample.retyped : List Operation := [
  .set "inquiry_type" (.text "Support"), .set "ticket_number" (.text "T-1234"),
  .set "colour" (.text "red"), .reset, .set "name" (.text "Ada"), .set "company" (.text "Acme"),
  .set "inquiry_type" (.text "Sales"), .clear "name"]

/-- The same inquiry, loaded at once, with a slip that is taken back. -/
def Sample.loaded : List Operation := [
  .load (.ofList [("company", .text "Acme"), ("inquiry_type", .text "Sales"),
    ("message", .text "Hello")]),
  .submit, .clear "message"]

/-- A contact form reached by two ways. -/
theorem performAll_lastWrite_contact :
    Sample.contact.OnlyReads ∧
    (∀ f ∈ Sample.contact.fields, ∀ v ∈ f.defaultValue, v.isFinite) ∧
    (∀ op ∈ Sample.retyped, ∀ v ∈ op.values, v.isFinite) ∧
    (∀ op ∈ Sample.loaded, ∀ v ∈ op.values, v.isFinite) ∧
    let w := Sample.contact.setup "session" fun _ => .epoch
    let after := (w.performAll (w.start { id := "retyped" }).value Sample.retyped).value
    let after' := (w.performAll (w.start { id := "loaded" }).value Sample.loaded).value
    (∀ p ∈ after.2.trace.passes ++ after'.2.trace.passes, p.iterations = 1) ∧
    after.2.data = after'.2.data ∧ after.2.evaluation = after'.2.evaluation := by
  have hd : Sample.contact.OnlyReads := ⟨by decide, by decide⟩
  have hdefaults : ∀ f ∈ Sample.contact.fields, ∀ v ∈ f.defaultValue, v.isFinite := by decide
  have hops : ∀ op ∈ Sample.retyped, ∀ v ∈ op.values, v.isFinite := by decide
  have hops' : ∀ op ∈ Sample.loaded, ∀ v ∈ op.values, v.isFinite := by decide +kernel
  obtain ⟨-, honeRun, hlast⟩ := performAll_lastWrite hd hdefaults "session" "session" "retyped"
    "loaded" (fun _ => .epoch) (fun _ => .epoch) hops hops'
  exact ⟨hd, hdefaults, hops, hops', honeRun, hlast (by decide +kernel)⟩

end LiveForm
