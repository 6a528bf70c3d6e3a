import LiveForm.Proofs.Json.Free
import LiveForm.Proofs.Pass.Record
import LiveForm.Proofs.Timestamp

/-!
# Records read back

A state with null for a value is written like a state without a value, and read back as one. But for
that, the record of a pass over free data reads back as the pass.
-/

namespace LiveForm

namespace FieldState

/-- The state without its value if that is null. -/
def withoutNull (s : FieldState) : FieldState :=
  { s with value := s.value.filter (· ≠ .null) }

/-- A state is written like that without null. -/
@[simp] theorem toJson_withoutNull (s : FieldState) : s.withoutNull.toJson = s.toJson := by
  obtain ⟨visible, required, value, options, disabled⟩ := s
  rcases value with _ | v
  · rfl
  · by_cases hv : v = .null
    · simp [toJson, withoutNull, hv, Option.filter_some]
    · simp [toJson, withoutNull, hv, Option.filter_some]

/-- A state without null is read back, and one with null as that without. -/
theorem ofJson?_toJson {s : FieldState} (h : ∀ v ∈ s.value, v.IsFree) :
    ofJson? s.toJson = some s.withoutNull := by
  obtain ⟨visible, required, value, options, disabled⟩ := s
  have hvalue : Json.optional? Json.free? (value.getD .null) =
      some (value.filter (· ≠ .null)) := by
    rcases value with _ | v
    · rfl
    · have hcanonical := (h v rfl).canonical_eq
      cases v with
      | null => rfl
      | _ => simp [Json.optional?, Json.free?, hcanonical, Option.filter_some]
  simp [ofJson?, toJson, Json.record?, Json.isRecord, Json.part?, Json.bool?, hvalue, withoutNull]

/-- The integers in a state with free data are short. -/
theorem hasShortIntegers_toJson {s : FieldState} (h : ∀ v ∈ s.value, v.IsFree) :
    s.toJson.HasShortIntegers := by
  cases hvalue : s.value with
  | none => simp [toJson, hvalue]
  | some v => simp [toJson, hvalue, (h v hvalue).shortIntegers]

end FieldState

/-- Free data is read back. -/
theorem FormData.ofJson?_toJson {data : FormData} (h : FormData.IsFree data) :
    FormData.ofJson? (FormData.toJson data) = some data := by
  have hread : Json.mapOf? Json.free? (Json.ofMap (fun v => v) data) =
      some (data.mapValues fun _ v => v) :=
    Json.mapOf?_ofMap fun e he => congrArg some (h e he).canonical_eq
  have hsame : data.mapValues (fun _ v => v) = data := by
    ext k
    rw [SortedMap.get?_mapValues, Option.map_id']
  rw [FormData.ofJson?, FormData.toJson, hread, hsame]

/-- A hint is read back. -/
theorem Hint.ofJson?_toJson (h : Hint) : ofJson? h.toJson = some h := by
  cases h <;>
    simp [ofJson?, toJson, Json.tagged?, SortedMap.find?, Json.record?, Json.isRecord, Json.part?,
      Json.text?]

/-- There are no integers in the written form of a hint. -/
theorem Hint.hasShortIntegers_toJson (h : Hint) : h.toJson.HasShortIntegers := by
  cases h <;> simp [toJson]

/-- A trigger over free data is read back. -/
theorem Trigger.ofJson?_toJson {t : Trigger}
    (h : ∀ id value, t = .fieldChanged id value → value.IsFree) : ofJson? t.toJson = some t := by
  cases t with
  | fieldChanged id value =>
    have hcanonical := (h id value rfl).canonical_eq
    simp [ofJson?, toJson, Json.tagged?, SortedMap.find?, Json.record?, Json.isRecord, Json.part?,
      Json.text?, Json.free?, hcanonical]
  | _ =>
    simp [ofJson?, toJson, Json.tagged?, SortedMap.find?, Json.record?, Json.isRecord, Json.part?,
      Json.text?, Json.unit?]

/-- A time is read back. -/
theorem Timestamp.ofJson?_text (t : Timestamp) : Timestamp.ofJson? (.text t.text) = some t := by
  rw [Timestamp.ofJson?, Json.text?, Option.bind_some, Timestamp.ofText?_text]

namespace Pass

/-- The pass without the values of its states that are null. -/
def withoutNulls (p : Pass) : Pass :=
  { p with states := p.states.mapValues fun _ s => s.withoutNull }

/-- A pass is written like that without nulls. -/
@[simp] theorem toJson_withoutNulls (p : Pass) : p.withoutNulls.toJson = p.toJson := by
  have hstates : FieldStates.toJson (p.states.mapValues fun _ s => s.withoutNull) =
      FieldStates.toJson p.states := by
    simp [FieldStates.toJson, Json.ofMap, SortedMap.mapValues]
  simp [toJson, entries, withoutNulls, hstates]

/-- All values in a pass are free data, and its numbers are small enough to be read. -/
structure IsReadable (p : Pass) : Prop where
  /-- Its number takes 64 bits. -/
  number_lt : p.number < 2 ^ 64
  /-- The value in the trigger is free data. -/
  trigger : ∀ id value, p.trigger = .fieldChanged id value → value.IsFree
  /-- The values that it read are free data. -/
  input : FormData.IsFree p.input
  /-- The values in its states are free data. -/
  states : ∀ e ∈ p.states.toList, ∀ v ∈ e.2.value, v.IsFree
  /-- The values that it produced are free data. -/
  output : FormData.IsFree p.output
  /-- The count of runs takes 32 bits. -/
  iterations_lt : p.iterations < 2 ^ 32

namespace IsReadable

variable {p : Pass}

/-- A readable pass is read back without nulls. -/
theorem ofJson?_toJson (h : p.IsReadable) : ofJson? p.toJson = some p.withoutNulls := by
  have hstates : FieldStates.ofJson? (FieldStates.toJson p.states) =
      some (p.states.mapValues fun _ s => s.withoutNull) :=
    Json.mapOf?_ofMap fun e he => FieldState.ofJson?_toJson (h.states e he)
  have hhints : Json.listOf? Hint.ofJson? (.list (p.hints.map Hint.toJson)) = some p.hints := by
    rw [Json.listOf?_map (g := id) fun a _ => a.ofJson?_toJson, List.map_id]
  have hnumber : Json.natBelow? UInt64.size (.int p.number) = some p.number :=
    Json.natBelow?_int h.number_lt
  have hiterations : Json.natBelow? UInt32.size (.int p.iterations) = some p.iterations :=
    Json.natBelow?_int h.iterations_lt
  simp [ofJson?, toJson, entries, Json.record?, Json.isRecord, Json.part?,
    hnumber, Trigger.ofJson?_toJson h.trigger,
    FormData.ofJson?_toJson h.input, hstates, FormData.ofJson?_toJson h.output, hhints,
    hiterations, Timestamp.ofJson?_text, withoutNulls]

/-- The trigger of a readable pass is finite, with short integers. -/
theorem trigger_toJson (h : p.IsReadable) :
    p.trigger.toJson.isFinite ∧ p.trigger.toJson.HasShortIntegers := by
  cases htrigger : p.trigger with
  | fieldChanged id value =>
    have hfree := h.trigger id value htrigger
    simp [Trigger.toJson, hfree.isFinite, hfree.shortIntegers]
  | _ => simp [Trigger.toJson]

/-- A readable pass without nulls is faithful. -/
theorem isFaithful (h : p.IsReadable) : p.withoutNulls.IsFaithful where
  trigger := h.trigger_toJson.1
  input e he := (h.input e he).isFinite
  states e he := by
    obtain ⟨e', he', rfl⟩ := List.mem_map.mp he
    intro v hv
    obtain ⟨hvalue, hnull⟩ := Option.filter_eq_some_iff.mp hv
    exact ⟨(h.states e' he' v hvalue).isFinite, of_decide_eq_true hnull⟩
  output e he := (h.output e he).isFinite

/-- The record of a readable pass is finite. -/
theorem isFinite (h : p.IsReadable) : p.toJson.isFinite := by
  rw [← toJson_withoutNulls]
  exact h.isFaithful.isFinite

/-- The integers in the record of a readable pass are short. -/
theorem shortIntegers (h : p.IsReadable) : p.toJson.HasShortIntegers := by
  have hinput := Json.hasShortIntegers_ofMap (f := fun v => v) fun e he =>
    (h.input e he).shortIntegers
  have houtput := Json.hasShortIntegers_ofMap (f := fun v => v) fun e he =>
    (h.output e he).shortIntegers
  have hstates := Json.hasShortIntegers_ofMap fun e he =>
    FieldState.hasShortIntegers_toJson (h.states e he)
  have hnumber : (p.number : Int) < 18446744073709551616 := by exact_mod_cast h.number_lt
  have hiterations : (p.iterations : Int) < 18446744073709551616 := by
    have := h.iterations_lt
    omega
  simp [toJson, entries, h.trigger_toJson.2, FormData.toJson, hinput, FieldStates.toJson, hstates,
    houtput, Hint.hasShortIntegers_toJson, hnumber, hiterations]

end IsReadable

end Pass

end LiveForm
