import LiveForm.Proofs.Engine.Turn
import LiveForm.Proofs.Pass.Reading
import LiveForm.Proofs.Session.History
import LiveForm.Proofs.Settlement.Trajectory

/-!
# What a session records

Every pass that a session records holds what settling the data that it read gives, and if the values
of the document and of the operations are free data, all values in the record are.
-/

namespace LiveForm

/-! ### Free data in, free data out -/

/-- The values that a document gives to fields: the default values, and those of actions. -/
def Document.values (d : Document) : List Json :=
  d.fields.filterMap (·.defaultValue) ++
    d.logic.rules.flatMap fun r => r.actions.filterMap (·.value)

/-- Data is free if every value that it gives for a key is. -/
theorem FormData.isFree_iff {data : FormData} :
    FormData.IsFree data ↔ ∀ k v, data.get? k = some v → v.IsFree :=
  SortedMap.forall_toList_iff

section

variable {d : Document} (hd : ∀ v ∈ d.values, v.IsFree)

include hd

/-- The default values are free data. -/
theorem isFree_defaults : FormData.IsFree (Document.defaults d.fields) :=
  forall_defaults fun f hf _ hv =>
    hd _ (List.mem_append_left _ (List.mem_filterMap.mpr ⟨f, hf, hv⟩))

/-- A run over free data produces free data. -/
theorem isFree_priorityEngine {data : FormData} (hdata : FormData.IsFree data) :
    FormData.IsFree (priorityEngine d.fields d.logic data).value.formData := by
  refine forall_formData Json.isFree_ofNumber (fun r hr _ a ha _ v hv => ?_) d.fields hdata
  refine hd v (List.mem_append_right _ (List.mem_flatMap.mpr ⟨r, hr, ?_⟩))
  exact List.mem_filterMap.mpr ⟨a, ha, hv⟩

/-- Settling free data produces free data, and states with values of it. -/
theorem isFree_settle {data : FormData} (hdata : FormData.IsFree data) :
    let e := (settle priorityEngine d.fields d.logic data).value.evaluation
    FormData.IsFree e.formData ∧ ∀ s ∈ e.states.toList, ∀ v ∈ s.2.value, v.IsFree := by
  obtain ⟨last, hlast, heq⟩ := settle_invariant FormData.IsFree
    (fun data hdata => isFree_priorityEngine hd hdata) hdata
  intro e
  have he : e = (priorityEngine d.fields d.logic last).value := heq
  have hformData : FormData.IsFree e.formData := by
    rw [he]
    exact isFree_priorityEngine hd hlast
  refine ⟨hformData, fun s hs v hv => ?_⟩
  -- the value of a state is that of the data
  have hstates : e.states = (priorityEngine d.fields d.logic last).value.states := by rw [he]
  rw [hstates, priorityEngine_states] at hs
  obtain ⟨s', -, rfl⟩ := List.mem_map.mp hs
  rw [← he] at hv
  exact FormData.isFree_iff.mp hformData _ v hv

end

section

variable {d : Document} {op : Operation} (hop : ∀ v ∈ op.values, v.IsFree)
  {before after : FormData} {trigger : Trigger} (h : op.Writes d.fields before trigger after)

include hop h

/-- The value in the trigger of a write of free data is free data. -/
theorem Operation.Writes.isFree_trigger :
    ∀ id value, trigger = .fieldChanged id value → value.IsFree := by
  intro id value htrigger
  cases op with
  | set id' value' =>
    rw [h.1, Trigger.fieldChanged.injEq] at htrigger
    rw [← htrigger.2]
    exact hop value' (List.mem_singleton_self value')
  | clear | load | reset =>
    rw [h.1] at htrigger
    cases htrigger
  | validate | submit => cases h

/-- A write of free data to free data gives free data. -/
theorem Operation.Writes.isFree (hd : ∀ v ∈ d.values, v.IsFree) (hbefore : FormData.IsFree before) :
    FormData.IsFree after :=
  h.forall_values hop (isFree_defaults hd) hbefore

end

/-! ### Recorded passes -/

/-- The evaluation that a pass recorded. -/
def Pass.evaluation (p : Pass) : Evaluation := ⟨p.states, p.output, p.hints, p.firedRules⟩

/-- A pass was recorded by a session of a form: it read free data of the form, and holds what
settling that gives. -/
structure Pass.IsRecorded (d : Document) (p : Pass) : Prop where
  /-- The value in the trigger is free data. -/
  trigger : ∀ id value, p.trigger = .fieldChanged id value → value.IsFree
  /-- The values that it read are free data. -/
  input : FormData.IsFree p.input
  /-- It recorded the evaluation of a settlement. -/
  evaluation_eq : p.evaluation = (settle priorityEngine d.fields d.logic p.input).value.evaluation
  /-- It recorded the number of runs of the settlement. -/
  iterations_eq : p.iterations = (settle priorityEngine d.fields d.logic p.input).value.iterations
  /-- What it recorded fits the form. -/
  fits : p.evaluation.Fits d.fields

/-- A recorded pass is readable. -/
theorem Pass.IsRecorded.isReadable {d : Document} (hd : ∀ v ∈ d.values, v.IsFree) {p : Pass}
    (h : p.IsRecorded d) (hnumber : p.number < 2 ^ 64) : p.IsReadable := by
  obtain ⟨houtput, hstates⟩ := isFree_settle hd h.input
  rw [← h.evaluation_eq] at houtput hstates
  have hruns := (settle_stopsWithin priorityEngine d.fields d.logic p.input).le_high
  rw [← h.iterations_eq, maxRuns] at hruns
  exact ⟨hnumber, h.trigger, h.input, hstates, houtput, by omega⟩

/-- The data of a session is free data of the form, and all its passes are recorded ones. -/
structure Session.IsRecorded (d : Document) (s : Session Trace) : Prop where
  /-- The data is free data. -/
  data : FormData.IsFree s.data
  /-- Only fields of the form have values. -/
  defined : ∀ id ∈ s.data.keys, id ∈ d.fields.map (·.id)
  /-- The passes are recorded ones. -/
  passes : ∀ p ∈ s.trace.passes, p.IsRecorded d

namespace Session.IsRecorded

variable {d : Document} {sessionId traceId : String} {clock : Nat → Timestamp} {s : Session Trace}

/-- A pass over free data of the form is recorded. -/
theorem pass (hids : (d.fields.map (·.id)).Nodup) (hd : ∀ v ∈ d.values, v.IsFree)
    (h : ∀ p ∈ s.trace.passes, p.IsRecorded d) {trigger : Trigger}
    (htrigger : ∀ id value, trigger = .fieldChanged id value → value.IsFree) {input : FormData}
    (hinput : FormData.IsFree input) (hdefined : ∀ id ∈ input.keys, id ∈ d.fields.map (·.id)) :
    ((d.setup sessionId clock).pass trigger input s).value.IsRecorded d := by
  have hfits := settle_fits hids d.logic hdefined
  rw [Setup.pass_value]
  exact ⟨(isFree_settle hd hinput).1, hfits.defined,
    Trace.forall_passes_append h ⟨htrigger, hinput, rfl, rfl, hfits⟩⟩

/-- The session that starts with the default values has recorded one pass. -/
theorem start (hids : (d.fields.map (·.id)).Nodup) (hd : ∀ v ∈ d.values, v.IsFree)
    (sessionId traceId : String) (clock : Nat → Timestamp) :
    ((d.setup sessionId clock).start { id := traceId }).value.IsRecorded d := by
  refine pass hids hd (fun p hp => ?_) (fun id value heq => ?_) (isFree_defaults hd)
    fun _ => mem_of_mem_keys_defaults
  · cases hp
  · cases heq

/-- Whatever an operation with free data does, it records a pass or none. -/
theorem does (hids : (d.fields.map (·.id)).Nodup) (hd : ∀ v ∈ d.values, v.IsFree)
    (h : s.IsRecorded d) {op : Operation} {r : Response} {t : Session Trace}
    (hop : ∀ v ∈ op.values, v.IsFree) (hdoes : (d.setup sessionId clock).Does s op r t) :
    t.IsRecorded d := by
  cases hdoes with
  | pass hwrite htargets hdata =>
    exact pass hids hd h.passes (hdata.isFree_trigger hop) (hdata.isFree hop hd h.data)
      (hdata.defined htargets h.defined)
  | failed | validated | rejected => exact h
  | accepted submission => exact ⟨h.data, h.defined, h.passes⟩

/-- Through any operations with free data all passes are recorded. -/
theorem performAll (hids : (d.fields.map (·.id)).Nodup) (hd : ∀ v ∈ d.values, v.IsFree)
    (sessionId : String) (clock : Nat → Timestamp) (h : s.IsRecorded d) {ops : List Operation}
    (hops : ∀ op ∈ ops, ∀ v ∈ op.values, v.IsFree) :
    ((d.setup sessionId clock).performAll s ops).value.2.IsRecorded d := by
  induction ops generalizing s with
  | nil => exact h
  | cons op ops ih =>
    rw [List.forall_mem_cons] at hops
    exact ih (h.does hids hd hops.1 (Setup.does_perform d sessionId clock s op)) hops.2

end Session.IsRecorded

end LiveForm
