import LiveForm.Proofs.Session.History

/-!
# What failures leave alone

A call that names an unknown field fails before it does anything, so the session stays as it is. A
sink that fails is only reported: nothing that a session shows, answers or goes on with depends on
its sink, whatever the sink does.
-/

namespace LiveForm

variable {σ τ : Type}

/-! ### Calls that fail -/

/-- The ids that an operation names come in increasing order. -/
theorem Operation.targets_sorted (op : Operation) : op.targets.Pairwise (· < ·) := by
  cases op with
  | set id value | clear id => exact List.pairwise_singleton _ id
  | load values => exact List.pairwise_map.mpr values.sorted
  | reset | validate | submit => exact .nil

namespace Setup

/-- An operation that names unknown fields fails with the first of them, and the session stays as it
is. -/
theorem perform_undefined (w : Setup σ) (s : Session σ) {op : Operation} {id : String}
    (h : op.targets.find? (fun id => !w.defines id) = some id) :
    (w.perform s op).value = (.failed (.unknownField id), s) := by
  cases op with
  | set | clear | load =>
    rw [Operation.targets] at h
    simp only [perform, setValue, clearValue, loadValues, Logged.value_map, change_value, h]
    rfl
  | reset | validate | submit => cases h

/-- Of the unknown fields that an operation names the first is the least. -/
theorem exists_first_undefined (w : Setup σ) {op : Operation}
    (h : ∃ id ∈ op.targets, id ∉ w.fields.map (·.id)) :
    ∃ id ∈ op.targets, id ∉ w.fields.map (·.id) ∧
      (∀ k ∈ op.targets, k ∉ w.fields.map (·.id) → id ≤ k) ∧
      op.targets.find? (fun id => !w.defines id) = some id := by
  obtain ⟨k, hk, hundefined⟩ := h
  have hsome : (op.targets.find? fun id => !w.defines id).isSome :=
    List.find?_isSome.mpr ⟨k, hk, not_defines_iff.mpr hundefined⟩
  obtain ⟨id, hid⟩ := Option.isSome_iff_exists.mp hsome
  have hfirst := List.find?_some hid
  refine ⟨id, List.mem_of_find?_eq_some hid, not_defines_iff.mp hfirst, fun k hk hk' => ?_, hid⟩
  exact SortedMap.le_of_find?_eq_some op.targets_sorted hid hk (not_defines_iff.mpr hk')

end Setup

/-! ### Sinks -/

/-- What a session shows: all but the state of its sink. -/
def Session.untraced (s : Session σ) : Session Unit := { s with trace := () }

namespace Setup

/-- The setup with another sink. -/
def withSink (w : Setup σ) (sink : Sink τ) : Setup τ := { w with sink }

/-- The setup that keeps no trace. -/
def untraced (w : Setup σ) : Setup Unit := w.withSink .discard

/-- A pass shows what it would show without a trace. -/
theorem pass_untraced (w : Setup σ) (trigger : Trigger) (input : FormData) (s : Session σ) :
    (w.untraced.pass trigger input s.untraced).value = (w.pass trigger input s).value.untraced :=
  rfl

/-- A session starts as it would start without a trace. -/
theorem start_untraced (w : Setup σ) (trace : σ) :
    (w.untraced.start ()).value = (w.start trace).value.untraced :=
  w.pass_untraced .initial (Document.defaults w.fields)
    { data := Document.defaults w.fields, evaluation := .empty, passes := 0, trace }

/-- A change comes to what it would come to without a trace. -/
theorem change_untraced (w : Setup σ) (ids : List String) (trigger : Trigger) (input : FormData)
    (s : Session σ) :
    (w.untraced.change ids trigger input s.untraced).value =
      ((w.change ids trigger input s).value.1,
        (w.change ids trigger input s).value.2.untraced) := by
  have hdefines : (fun id => !w.untraced.defines id) = fun id => !w.defines id := rfl
  rw [change_value, change_value, hdefines, pass_untraced]
  cases ids.find? fun id => !w.defines id <;> rfl

/-- A submission comes to what it would come to without a trace. -/
theorem submit_untraced (w : Setup σ) (s : Session σ) :
    (w.untraced.submit s.untraced).value =
      ((w.submit s).value.1, (w.submit s).value.2.untraced) := by
  have hfinalize : (w.finalize s).value.untraced = s.untraced := by
    unfold finalize
    rw [Logged.value_bind]
    cases (w.sink.finalize w.id s.trace).value <;> rfl
  have hvalidate : (w.untraced.validate s.untraced).value = (w.validate s).value := rfl
  unfold submit
  rw [Logged.value_bind, Logged.value_bind, hvalidate]
  split
  · simp only [Logged.value_bind, Logged.value_pure, hfinalize]
    rfl
  · rfl

/-- An operation is answered as it would be without a trace. -/
theorem perform_untraced (w : Setup σ) (s : Session σ) (op : Operation) :
    (w.untraced.perform s.untraced op).value =
      ((w.perform s op).value.1, (w.perform s op).value.2.untraced) := by
  cases op with
  | set | clear | load =>
    exact congrArg (fun r => (Response.ofResult r.1, r.2)) (w.change_untraced ..)
  | reset => exact congrArg (fun t => (Response.evaluated t.evaluation, t)) (w.pass_untraced ..)
  | validate => rfl
  | submit =>
    rw [perform, perform, Logged.value_map, Logged.value_map, submit_untraced]

/-- Operations are answered as they would be without a trace. -/
theorem performAll_untraced (w : Setup σ) (s : Session σ) (ops : List Operation) :
    (w.untraced.performAll s.untraced ops).value =
      ((w.performAll s ops).value.1, (w.performAll s ops).value.2.untraced) := by
  induction ops generalizing s with
  | nil => rfl
  | cons op ops ih =>
    simp only [performAll, Logged.value_bind, Logged.value_pure, perform_untraced, ih]

end Setup

/-- Calls that fail change nothing, and sinks change no result. An operation that names unknown
fields is answered with an error for the least of them, and the session stays as it is. With another
sink, which may fail at every call, a session starts alike, answers any operations alike, and comes
to the same data, the same evaluation and the same number of passes. -/
theorem perform_undefined_performAll_sink (w : Setup σ) (sink : Sink τ) :
    (∀ s op, (∃ id ∈ op.targets, id ∉ w.fields.map (·.id)) →
      ∃ id ∈ op.targets, id ∉ w.fields.map (·.id) ∧
        (∀ k ∈ op.targets, k ∉ w.fields.map (·.id) → id ≤ k) ∧
        (w.perform s op).value = (.failed (.unknownField id), s)) ∧
    ∀ trace trace' ops,
      let s := (w.start trace).value
      let s' := ((w.withSink sink).start trace').value
      let after := (w.performAll s ops).value
      let after' := ((w.withSink sink).performAll s' ops).value
      s'.untraced = s.untraced ∧ after'.1 = after.1 ∧ after'.2.untraced = after.2.untraced := by
  refine ⟨fun s op h => ?_, fun trace trace' ops => ?_⟩
  · obtain ⟨id, hid, hundefined, hleast, hfind⟩ := w.exists_first_undefined h
    exact ⟨id, hid, hundefined, hleast, w.perform_undefined s hfind⟩
  · intro s s' after after'
    have hw : (w.withSink sink).untraced = w.untraced := rfl
    have hstart : s'.untraced = s.untraced := by
      rw [← w.start_untraced trace, ← (w.withSink sink).start_untraced trace', hw]
    have h := w.performAll_untraced s ops
    have h' := (w.withSink sink).performAll_untraced s' ops
    rw [hw, hstart, h] at h'
    obtain ⟨hresponses, hafter⟩ := Prod.mk.inj h'
    exact ⟨hstart, hresponses.symm, hafter.symm⟩

/-- An order: a load with two unknown fields among three changes nothing, and a sink that always
fails does not show, not even in a submission. -/
theorem perform_undefined_performAll_sink_order :
    let w := Sample.order.setup "session" fun _ => .epoch
    let load : Operation :=
      .load (.ofList [("size", .text "L"), ("qty", .int 3), ("colour", .text "red")])
    let ops : List Operation := [.set "qty" (.int 12), load, .validate, .submit]
    (∃ id ∈ load.targets, id ∉ w.fields.map (·.id)) ∧
    (w.perform (w.start { id := "order" }).value load).value =
      (.failed (.unknownField "colour"), (w.start { id := "order" }).value) ∧
    ((w.withSink (.failing "disk full")).performAll
        ((w.withSink (.failing "disk full")).start ()).value ops).value.1 =
      (w.performAll (w.start { id := "order" }).value ops).value.1 := by
  intro w load ops
  have hundefined : ∃ id ∈ load.targets, id ∉ w.fields.map (·.id) := by decide
  obtain ⟨hatomic, hsink⟩ := perform_undefined_performAll_sink w (.failing "disk full" : Sink Unit)
  obtain ⟨id, hid, -, hleast, hperform⟩ :=
    hatomic (w.start { id := "order" }).value load hundefined
  have hle : id ≤ "colour" := hleast "colour" (by decide) (by decide)
  have hcolour : id = "colour" := by
    have hmem : id ∈ ["colour", "qty", "size"] := hid
    simp only [List.mem_cons, List.not_mem_nil, or_false] at hmem
    rcases hmem with rfl | rfl | rfl
    · rfl
    · exact absurd hle (by decide)
    · exact absurd hle (by decide)
  rw [hcolour] at hperform
  exact ⟨hundefined, hperform, (hsink { id := "order" } () ops).2.1⟩

end LiveForm
