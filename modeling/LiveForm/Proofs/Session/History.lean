import LiveForm.Proofs.Engine.LastWriter
import LiveForm.Proofs.Session.Calls
import LiveForm.Proofs.Settlement.Runs
import LiveForm.Proofs.Trace.Chain
import LiveForm.Scenario

/-!
# The history of a session

A session is its data, the evaluation of its last pass, a count of passes and a trace. Every
operation either writes, and then adds one pass to all of them, or leaves them as they are. So after
any operations the trace tells the whole history of the session, from the default values on.
-/

namespace LiveForm

/-- An evaluation fits some fields: its data has values of these fields only, and there is one state
for each field, which holds the value that the data has. -/
structure Evaluation.Fits (fields : List Field) (e : Evaluation) : Prop where
  /-- Only fields of the form have values. -/
  defined : ∀ id ∈ e.formData.keys, id ∈ fields.map (·.id)
  /-- Each field has one state. -/
  oneState : e.states.keys.Perm (fields.map (·.id))
  /-- The value of a state is that of the data, and missing where that is missing. -/
  values : ∀ id state, e.states.get? id = some state → state.value = e.formData.get? id

/-- The default values belong to fields. -/
theorem mem_of_mem_keys_defaults {fields : List Field} {id : String}
    (h : id ∈ (Document.defaults fields).keys) : id ∈ fields.map (·.id) := by
  rw [Document.defaults, SortedMap.mem_keys_ofList] at h
  obtain ⟨e, he, rfl⟩ := List.mem_map.mp h
  obtain ⟨f, hf, hfe⟩ := List.mem_filterMap.mp he
  obtain ⟨v, -, rfl⟩ := Option.map_eq_some_iff.mp hfe
  exact List.mem_map_of_mem hf

/-- The default values have any property that those of all fields have. -/
theorem forall_defaults {P : Json → Prop} {fields : List Field}
    (h : ∀ f ∈ fields, ∀ v ∈ f.defaultValue, P v) :
    ∀ e ∈ (Document.defaults fields).toList, P e.2 := by
  intro e he
  obtain ⟨f, hf, hfe⟩ := List.mem_filterMap.mp (SortedMap.mem_of_mem_ofList he)
  obtain ⟨v, hv, rfl⟩ := Option.map_eq_some_iff.mp hfe
  exact h f hf v hv

/-- A run of the engine over data of a form gives an evaluation that fits the form. -/
theorem priorityEngine_fits {fields : List Field} (hids : (fields.map (·.id)).Nodup)
    (rules : RuleSet) {data : FormData} (hdata : ∀ id ∈ data.keys, id ∈ fields.map (·.id)) :
    (priorityEngine fields rules data).value.Fits fields where
  defined id hid := by
    by_contra hfield
    rw [SortedMap.mem_keys_iff, get?_priorityEngine_data fields rules data hfield,
      ← SortedMap.mem_keys_iff] at hid
    exact hfield (hdata id hid)
  oneState := priorityEngine_keys hids rules data
  values id state h := by
    rw [priorityEngine_states, SortedMap.get?_mapValues, Option.map_eq_some_iff] at h
    obtain ⟨s, -, rfl⟩ := h
    rfl

/-- Settling data of a form gives an evaluation that fits the form. -/
theorem settle_fits {fields : List Field} (hids : (fields.map (·.id)).Nodup) (rules : RuleSet)
    {data : FormData} (hdata : ∀ id ∈ data.keys, id ∈ fields.map (·.id)) :
    (settle priorityEngine fields rules data).value.evaluation.Fits fields := by
  obtain ⟨d, hd, heq⟩ := settle_invariant (fun d => ∀ id ∈ d.keys, id ∈ fields.map (·.id))
    (fun d hd => (priorityEngine_fits hids rules hd).defined) hdata
  rw [heq]
  exact priorityEngine_fits hids rules hd

namespace Operation

/-- Whether an operation writes to the form. -/
def isWrite : Operation → Bool
  | .set _ _ | .clear _ | .load _ | .reset => true
  | .validate | .submit => false

/-- The ids of the fields that an operation names. -/
def targets : Operation → List String
  | .set id _ | .clear id => [id]
  | .load values => values.keys
  | .reset | .validate | .submit => []

/-- The values that an operation gives to fields. -/
def values : Operation → List Json
  | .set _ value => [value]
  | .load values => values.values
  | .clear _ | .reset | .validate | .submit => []

/-- What an operation writes: the trigger that names it, and the data before and after. -/
def Writes (fields : List Field) (before : FormData) (trigger : Trigger) (after : FormData) :
    Operation → Prop
  | .set id value => trigger = .fieldChanged id value ∧
      ∀ k, after.get? k = if k = id then some value else before.get? k
  | .clear id => trigger = .fieldCleared id ∧
      ∀ k, after.get? k = if k = id then none else before.get? k
  | .load values => trigger = .valuesLoaded values.keys ∧
      ∀ k, after.get? k = (values.get? k).or (before.get? k)
  | .reset => trigger = .reset ∧ after = Document.defaults fields
  | .validate | .submit => False

/-- A write to fields of a form leads from data of the form to data of the form. -/
theorem Writes.defined {fields : List Field} {op : Operation} {before after : FormData}
    {trigger : Trigger} (h : op.Writes fields before trigger after)
    (htargets : ∀ id ∈ op.targets, id ∈ fields.map (·.id))
    (hbefore : ∀ id ∈ before.keys, id ∈ fields.map (·.id)) :
    ∀ id ∈ after.keys, id ∈ fields.map (·.id) := by
  intro k hk
  cases op with
  | set id value =>
    rw [SortedMap.mem_keys_iff, h.2 k] at hk
    split at hk
    case isTrue heq => exact htargets k (by simp [targets, heq])
    case isFalse => exact hbefore k (SortedMap.mem_keys_iff.mpr hk)
  | clear id =>
    rw [SortedMap.mem_keys_iff, h.2 k] at hk
    split at hk
    case isTrue => cases hk
    case isFalse => exact hbefore k (SortedMap.mem_keys_iff.mpr hk)
  | load values =>
    rw [SortedMap.mem_keys_iff, h.2 k, Option.isSome_or, Bool.or_eq_true] at hk
    rcases hk with hk | hk
    · exact htargets k (SortedMap.mem_keys_iff.mpr hk)
    · exact hbefore k (SortedMap.mem_keys_iff.mpr hk)
  | reset =>
    rw [h.2] at hk
    exact mem_of_mem_keys_defaults hk
  | validate | submit => cases h

/-- What an operation makes of the value of a field, if it writes to it: a value or none. Loading
writes to each of the fields that it names, and going back to the start writes to all of them. -/
def write? (fields : List Field) (op : Operation) (id : String) : Option (Option Json) :=
  match op with
  | .set id' value => if id = id' then some (some value) else none
  | .clear id' => if id = id' then some none else none
  | .load values => (values.get? id).map some
  | .reset => some ((Document.defaults fields).get? id)
  | .validate | .submit => none

/-- A field has the value that an operation writes, and the one before if it writes none. -/
theorem Writes.get?_eq {fields : List Field} {op : Operation} {before after : FormData}
    {trigger : Trigger} (h : op.Writes fields before trigger after) (id : String) :
    after.get? id = (op.write? fields id).getD (before.get? id) := by
  cases op with
  | set id' value | clear id' =>
    rw [h.2 id, write?]
    split <;> rfl
  | load values =>
    rw [h.2 id, write?]
    cases values.get? id <;> rfl
  | reset =>
    rw [h.2]
    rfl
  | validate | submit => cases h

/-- What an operation writes is one of its values or a default value. -/
theorem of_write?_eq_some {fields : List Field} {op : Operation} {id : String} {v : Json}
    (h : op.write? fields id = some (some v)) :
    v ∈ op.values ∨ (Document.defaults fields).get? id = some v := by
  cases op with
  | set id' value =>
    simp only [write?] at h
    split at h
    case isTrue =>
      cases h
      exact .inl (List.mem_singleton_self v)
    case isFalse => cases h
  | clear id' =>
    simp only [write?] at h
    split at h <;> cases h
  | load values =>
    obtain ⟨v', hv', heq⟩ := Option.map_eq_some_iff.mp h
    cases heq
    exact .inl (List.mem_map_of_mem (SortedMap.mem_of_find?_eq_some hv'))
  | reset => exact .inr (Option.some_inj.mp h)
  | validate | submit => cases h

/-- A write keeps any property of values that its own and the default values have. -/
theorem Writes.forall_values {P : Json → Prop} {fields : List Field} {op : Operation}
    {before after : FormData} {trigger : Trigger} (h : op.Writes fields before trigger after)
    (hop : ∀ v ∈ op.values, P v) (hdefaults : ∀ e ∈ (Document.defaults fields).toList, P e.2)
    (hbefore : ∀ e ∈ before.toList, P e.2) : ∀ e ∈ after.toList, P e.2 := by
  rw [SortedMap.forall_toList_iff] at hdefaults hbefore ⊢
  intro id v hv
  rw [h.get?_eq id] at hv
  cases hwrite : op.write? fields id with
  | none =>
    rw [hwrite] at hv
    exact hbefore id v hv
  | some written =>
    rw [hwrite] at hv
    obtain rfl : written = some v := hv
    exact (of_write?_eq_some hwrite).elim (hop v) (hdefaults id v)

end Operation

namespace Response

/-- Whether an operation failed. -/
def isFailed : Response → Bool
  | .failed _ => true
  | _ => false

/-- Whether a submission was accepted. -/
def isAccepted : Response → Bool
  | .submitted outcome => outcome.isAccepted
  | _ => false

end Response

/-- The writes among some operations that, by the answers, did not fail. -/
def successfulWrites (ops : List Operation) (responses : List Response) : List Operation :=
  ((ops.zip responses).filter fun p => p.1.isWrite && !p.2.isFailed).map (·.1)

/-- The writes among one operation and more are its own and then the others. -/
theorem successfulWrites_cons (op : Operation) (ops : List Operation) (r : Response)
    (rs : List Response) :
    successfulWrites (op :: ops) (r :: rs) =
      successfulWrites [op] [r] ++ successfulWrites ops rs := by
  have hzip : (op :: ops).zip (r :: rs) = [op].zip [r] ++ ops.zip rs := rfl
  rw [successfulWrites, hzip, List.filter_append, List.map_append]
  rfl

/-- A write that is answered with an evaluation is a successful one. -/
theorem successfulWrites_evaluated {op : Operation} (h : op.isWrite) (e : Evaluation) :
    successfulWrites [op] [.evaluated e] = [op] := by
  simp [successfulWrites, h, Response.isFailed]

/-- Some passes are linked by some writes: every pass but the first started from what the one before
produced, with one write applied to it. -/
def Linked (fields : List Field) (writes : List Operation) (passes : List Pass) : Prop :=
  ∀ i write p q, writes[i]? = some write → passes[i]? = some p → passes[i + 1]? = some q →
    write.Writes fields p.output q.trigger q.input

/-- One more write links one more pass to the last. -/
theorem Linked.concat {fields : List Field} {writes : List Operation} {passes : List Pass}
    (h : Linked fields writes passes) (hlength : passes.length = 1 + writes.length)
    {last q : Pass} (hlast : passes.getLast? = some last) {write : Operation}
    (hwrite : write.Writes fields last.output q.trigger q.input) :
    Linked fields (writes ++ [write]) (passes ++ [q]) := by
  intro i write' p' q' hi hp hq
  by_cases hold : i < writes.length
  · -- an earlier write: both passes were there before
    rw [List.getElem?_append_left hold] at hi
    rw [List.getElem?_append_left (by omega)] at hp hq
    exact h i write' p' q' hi hp hq
  · -- the new write: it links the pass that was last to the new one
    have hbound := (List.getElem?_eq_some_iff.mp hi).1
    rw [List.length_append, List.length_singleton] at hbound
    obtain rfl : i = writes.length := by omega
    rw [List.getLast?_eq_getElem?, hlength, Nat.add_sub_cancel_left] at hlast
    rw [List.getElem?_append_left (by omega), hlast, Option.some_inj] at hp
    rw [List.getElem?_concat_length, Option.some_inj] at hi
    rw [Nat.add_comm, ← hlength, List.getElem?_concat_length, Option.some_inj] at hq
    rw [← hi, ← hp, ← hq]
    exact hwrite

/-- The session of a form after some writes have succeeded, and after a submission may have been
accepted. -/
structure Session.History (d : Document) (sessionId traceId : String) (writes : List Operation)
    (submitted : Bool) (s : Session Trace) : Prop where
  /-- The data is that of the evaluation. -/
  data_eq : s.data = s.evaluation.formData
  /-- The evaluation fits the form. -/
  fits : s.evaluation.Fits d.fields
  /-- There was one pass at the start and one for each write. -/
  counted : s.passes = 1 + writes.length
  /-- All passes are recorded. -/
  recorded : s.trace.entries.length = s.passes
  /-- The records are numbered from 0. -/
  numbered : s.trace.passes.map (·.number) = List.range s.passes
  /-- The first pass started from the default values. -/
  first : ∃ p, s.trace.passes.head? = some p ∧ p.trigger = .initial ∧
    p.input = Document.defaults d.fields
  /-- Every other pass started from what the one before produced and the write that led to it. -/
  linked : Linked d.fields writes s.trace.passes
  /-- The last pass produced what the session shows. -/
  last : ∃ p, s.trace.passes.getLast? = some p ∧ p.output = s.data ∧
    p.states = s.evaluation.states ∧ p.firedRules = s.evaluation.firedRules ∧
    p.hints = s.evaluation.hints
  /-- The hash chain is whole. -/
  kept : s.trace.IsKept Sha256.hex traceId
  /-- The entries are numbered from 0. -/
  sequences : s.trace.entries.map (·.sequence) = List.range s.passes
  /-- The head is the hash of the last entry. -/
  head : ∃ e, s.trace.entries.getLast? = some e ∧ s.trace.head = e.hash
  /-- The trace knows that the session has been submitted. -/
  finalized : s.trace.finalizedSession = if submitted then some sessionId else none

namespace Setup

variable {d : Document} {sessionId traceId : String} {clock : Nat → Timestamp}

/-- What a session becomes through a pass. -/
theorem pass_value (trigger : Trigger) (input : FormData) (s : Session Trace) :
    ((d.setup sessionId clock).pass trigger input s).value =
      let settled := (settle priorityEngine d.fields d.logic input).value
      { data := settled.evaluation.formData
        evaluation := settled.evaluation
        passes := s.passes + 1
        trace := s.trace.append Sha256.hex
          ((d.setup sessionId clock).record s.passes trigger input settled) } :=
  rfl

/-- What an operation does to a session, and the answer to it. -/
inductive Does (w : Setup Trace) (s : Session Trace) :
    Operation → Response → Session Trace → Prop where
  /-- A write to fields of the form is one pass over the data with the write applied. -/
  | pass {op : Operation} {trigger : Trigger} {input : FormData} (hwrite : op.isWrite)
      (htargets : ∀ id ∈ op.targets, id ∈ w.fields.map (·.id))
      (h : op.Writes w.fields s.data trigger input) :
      Does w s op (.evaluated (w.pass trigger input s).value.evaluation)
        (w.pass trigger input s).value
  /-- A write to something else fails. -/
  | failed {op : Operation} {id : String} (hwrite : op.isWrite) (hid : id ∈ op.targets)
      (hfield : id ∉ w.fields.map (·.id)) : Does w s op (.failed (.unknownField id)) s
  /-- A validation changes nothing. -/
  | validated (errors : ValidationErrors) : Does w s .validate (.validated errors) s
  /-- An accepted submission is told to the trace. -/
  | accepted (submission : Submission) :
      Does w s .submit (.submitted (.accepted submission))
        { s with trace := { s.trace with finalizedSession := some w.id } }
  /-- A rejected submission changes nothing. -/
  | rejected (errors : ValidationErrors) : Does w s .submit (.submitted (.rejected errors)) s

/-- A change to fields of the form is a pass, and a change to something else fails. -/
theorem does_change (op : Operation) {s : Session Trace} {trigger : Trigger} {input : FormData}
    (hwrite : op.isWrite) (h : op.Writes d.fields s.data trigger input) :
    let w := d.setup sessionId clock
    let r := (w.change op.targets trigger input s).value
    w.Does s op (.ofResult r.1) r.2 := by
  intro w
  rw [change_value]
  cases hfind : op.targets.find? fun id => !w.defines id with
  | none =>
    refine .pass hwrite (fun id hid => ?_) h
    by_contra hfield
    exact List.find?_eq_none.mp hfind id hid (not_defines_iff.mpr hfield)
  | some id =>
    have hundefined := List.find?_some hfind
    exact .failed hwrite (List.mem_of_find?_eq_some hfind) (not_defines_iff.mp hundefined)

/-- Every operation does one of the things that operations do. -/
theorem does_perform (d : Document) (sessionId : String) (clock : Nat → Timestamp)
    (s : Session Trace) (op : Operation) :
    let w := d.setup sessionId clock
    w.Does s op (w.perform s op).value.1 (w.perform s op).value.2 := by
  cases op with
  | set id value =>
    exact does_change (.set id value) rfl ⟨rfl, fun k => SortedMap.get?_insert _ _ _ _⟩
  | clear id => exact does_change (.clear id) rfl ⟨rfl, fun k => SortedMap.get?_erase _ _ _⟩
  | load values =>
    exact does_change (.load values) rfl ⟨rfl, fun k => SortedMap.get?_insertAll_toList _ _ _⟩
  | reset => exact .pass rfl (fun _ h => nomatch h) ⟨rfl, rfl⟩
  | validate => exact .validated _
  | submit =>
    intro w
    simp only [perform, submit, Logged.value_map, Logged.value_bind]
    split
    case isTrue => exact .accepted _
    case isFalse => exact .rejected _

end Setup

namespace Session.History

variable {d : Document} {sessionId traceId : String} {clock : Nat → Timestamp}
  {writes : List Operation} {submitted : Bool} {s : Session Trace}

/-- A session starts with one pass over the default values. -/
theorem start (hids : (d.fields.map (·.id)).Nodup) (sessionId traceId : String)
    (clock : Nat → Timestamp) :
    History d sessionId traceId [] false
      ((d.setup sessionId clock).start { id := traceId }).value := by
  have hkept := (Trace.isKept_fresh Sha256.hex traceId).append
    ((d.setup sessionId clock).record 0 .initial (Document.defaults d.fields)
      (settle priorityEngine d.fields d.logic (Document.defaults d.fields)).value)
  unfold Setup.start
  rw [Setup.pass_value]
  exact {
    data_eq := rfl
    fits := settle_fits hids d.logic fun _ => mem_of_mem_keys_defaults
    counted := rfl
    recorded := rfl
    numbered := rfl
    first := ⟨_, rfl, rfl, rfl⟩
    linked := fun _ _ _ _ hwrite => nomatch hwrite
    last := ⟨_, rfl, rfl, rfl, rfl, rfl⟩
    kept := hkept
    sequences := rfl
    head := ⟨_, rfl, rfl⟩
    finalized := rfl }

/-- A write to fields of the form adds one pass to the history. -/
theorem pass (hids : (d.fields.map (·.id)).Nodup)
    (h : History d sessionId traceId writes submitted s) {op : Operation} {trigger : Trigger}
    {input : FormData} (htargets : ∀ id ∈ op.targets, id ∈ d.fields.map (·.id))
    (hwrite : op.Writes d.fields s.data trigger input) :
    History d sessionId traceId (writes ++ [op]) submitted
      ((d.setup sessionId clock).pass trigger input s).value := by
  have hdefined : ∀ id ∈ s.data.keys, id ∈ d.fields.map (·.id) := by
    rw [h.data_eq]
    exact h.fits.defined
  have hfits := settle_fits hids d.logic (hwrite.defined htargets hdefined)
  have hlength : s.trace.passes.length = 1 + writes.length := by
    rw [← h.counted, ← h.recorded, Trace.passes, List.length_map]
  obtain ⟨last, hlast, houtput, -⟩ := h.last
  rw [← houtput] at hwrite
  rw [Setup.pass_value]
  exact {
    data_eq := rfl
    fits := hfits
    counted := by
      simp only [h.counted, List.length_append, List.length_singleton]
      omega
    recorded := by simp [Trace.append, h.recorded]
    numbered := by
      rw [Trace.passes_append, List.map_append, h.numbered, List.range_succ]
      rfl
    first := by
      obtain ⟨p, hp, hrest⟩ := h.first
      refine ⟨p, ?_, hrest⟩
      rw [Trace.passes_append, List.head?_append, hp]
      rfl
    linked := by
      rw [Trace.passes_append]
      exact h.linked.concat hlength hlast hwrite
    last := by
      rw [Trace.passes_append, List.getLast?_concat]
      exact ⟨_, rfl, rfl, rfl, rfl, rfl⟩
    kept := h.kept.append _
    sequences := by
      rw [Entry.sequence_of_isChain (h.kept.append _).intact]
      simp [Trace.append, h.recorded]
    head := ⟨_, List.getLast?_concat, rfl⟩
    finalized := h.finalized }

/-- Whatever an operation does, the history goes on with it. -/
theorem does (hids : (d.fields.map (·.id)).Nodup)
    (h : History d sessionId traceId writes submitted s) {op : Operation} {r : Response}
    {t : Session Trace} (hdoes : (d.setup sessionId clock).Does s op r t) :
    History d sessionId traceId (writes ++ successfulWrites [op] [r]) (submitted || r.isAccepted)
      t := by
  cases hdoes with
  | pass hwrite htargets hdata =>
    rw [successfulWrites_evaluated hwrite]
    simpa [Response.isAccepted] using h.pass hids htargets hdata
  | failed | validated | rejected =>
    simpa [successfulWrites, Operation.isWrite, Response.isFailed, Response.isAccepted,
      Outcome.isAccepted] using h
  | accepted submission =>
    have hnone : successfulWrites [.submit] [.submitted (.accepted submission)] = [] := rfl
    rw [hnone, List.append_nil]
    exact { h with
      kept := ⟨h.kept.id_eq, h.kept.intact, h.kept.head_eq, h.kept.named⟩
      finalized := by simp [Response.isAccepted, Outcome.isAccepted, Document.setup] }

/-- The history goes on through any operations. -/
theorem performAll (hids : (d.fields.map (·.id)).Nodup) (clock : Nat → Timestamp)
    (h : History d sessionId traceId writes submitted s) (ops : List Operation) :
    let after := ((d.setup sessionId clock).performAll s ops).value
    History d sessionId traceId (writes ++ successfulWrites ops after.1)
      (submitted || after.1.any Response.isAccepted) after.2 := by
  induction ops generalizing s writes submitted with
  | nil => simpa [Setup.performAll, successfulWrites] using h
  | cons op ops ih =>
    have hstep := h.does hids (Setup.does_perform d sessionId clock s op)
    intro after
    have hrest := ih hstep
    simp only [List.append_assoc, ← successfulWrites_cons, Bool.or_assoc] at hrest
    exact hrest

end Session.History

/-- An operation fails exactly when it names something that is not a field of the form. -/
theorem Setup.Does.isFailed_eq {w : Setup Trace} {s t : Session Trace} {op : Operation}
    {r : Response} (h : w.Does s op r t) :
    r.isFailed = !op.targets.all ((w.fields.map (·.id)).contains ·) := by
  cases h with
  | pass hwrite htargets h =>
    have hall : op.targets.all ((w.fields.map (·.id)).contains ·) = true :=
      List.all_eq_true.mpr fun id hid => List.contains_iff_mem.mpr (htargets id hid)
    rw [hall]
    rfl
  | failed hwrite hid hfield =>
    have hnot : op.targets.all ((w.fields.map (·.id)).contains ·) = false :=
      List.all_eq_false.mpr ⟨_, hid, by rwa [List.contains_iff_mem]⟩
    rw [hnot]
    rfl
  | validated | accepted | rejected => rfl

/-- Of any operations those fail that name something that is not a field of the form. -/
theorem Setup.isFailed_performAll {d : Document} {sessionId : String} {clock : Nat → Timestamp}
    (s : Session Trace) (ops : List Operation) :
    ((d.setup sessionId clock).performAll s ops).value.1.map Response.isFailed =
      ops.map fun op => !op.targets.all ((d.fields.map (·.id)).contains ·) := by
  induction ops generalizing s with
  | nil => rfl
  | cons op ops ih =>
    have hop := (does_perform d sessionId clock s op).isFailed_eq
    exact congrArg₂ List.cons hop (ih _)

/-- After any operations on a session of a form whose fields have different ids, those operations
failed that name something that is not a field, and the data, the evaluation, the count of passes
and the trace tell one history, with one pass for the start and one for each successful write. -/
theorem performAll_history (d : Document) (hids : (d.fields.map (·.id)).Nodup)
    (sessionId traceId : String) (clock : Nat → Timestamp) (ops : List Operation) :
    let w := d.setup sessionId clock
    let after := (w.performAll (w.start { id := traceId }).value ops).value
    (after.1.map Response.isFailed =
      ops.map fun op => !op.targets.all ((d.fields.map (·.id)).contains ·)) ∧
    after.2.History d sessionId traceId (successfulWrites ops after.1)
      (after.1.any Response.isAccepted) := by
  intro w after
  refine ⟨Setup.isFailed_performAll _ ops, ?_⟩
  have hstart := Session.History.start hids sessionId traceId clock
  simpa using hstart.performAll hids clock ops

/-- The history of an order: a failing write, two that succeed, and a submission. -/
theorem performAll_history_order :
    (Sample.order.fields.map (·.id)).Nodup ∧
    let ops : List Operation :=
      [.set "colour" (.text "red"), .set "qty" (.int 12), .load (.ofList [("price", .float 9.5)]),
        .submit]
    let w := Sample.order.setup "session" fun _ => .epoch
    let after := (w.performAll (w.start { id := "order" }).value ops).value
    (after.1.map Response.isFailed =
      ops.map fun op => !op.targets.all ((Sample.order.fields.map (·.id)).contains ·)) ∧
    after.2.History Sample.order "session" "order" (successfulWrites ops after.1)
      (after.1.any Response.isAccepted) :=
  ⟨by decide, performAll_history Sample.order (by decide) _ _ _ _⟩

end LiveForm
