import LiveForm.Pass.Codec
import LiveForm.Proofs.Json.Decoding

/-!
# What the record of a pass says

A pass that was read from a finite value is faithful: its data is finite, and no state has null for
a value, which would be written like a state without one. The records of faithful passes are finite,
and equal only for equal passes, as far as the texts of their times are.
-/

namespace LiveForm

open Json (Reads)

/-- Lists are equal if their images are, under a function that tells their members apart. -/
theorem eq_of_map_eq {α β : Type} {f : α → β} {xs ys : List α}
    (hf : ∀ x ∈ xs, ∀ y ∈ ys, f x = f y → x = y) (h : xs.map f = ys.map f) : xs = ys := by
  induction xs generalizing ys with
  | nil => exact (List.map_eq_nil_iff.mp h.symm).symm
  | cons x xs ih =>
    cases ys with
    | nil => cases h
    | cons y ys =>
      rw [List.map_cons, List.map_cons, List.cons.injEq] at h
      have hrest : xs = ys := ih (fun x hx y hy => hf x (by simp [hx]) y (by simp [hy])) h.2
      rw [hf x (by simp) y (by simp) h.1, hrest]

namespace Json

/-- Lists of texts are written differently. -/
theorem ofTexts_inj {texts others : List String} (h : ofTexts texts = ofTexts others) :
    texts = others := by
  refine eq_of_map_eq (fun s _ t _ hst => ?_) (Json.list.inj h)
  exact Json.text.inj hst

/-- Maps are written differently if their values are. -/
theorem ofMap_inj {α : Type} {f : α → Json} {m n : SortedMap α}
    (hf : ∀ e ∈ m.toList, ∀ e' ∈ n.toList, f e.2 = f e'.2 → e.2 = e'.2)
    (h : ofMap f m = ofMap f n) : m = n := by
  have hentries : m.toList = n.toList := by
    refine eq_of_map_eq (fun e he e' he' heq => ?_) (Json.object.inj h)
    rw [Prod.mk.injEq] at heq
    exact Prod.ext heq.1 (hf e he e' he' heq.2)
  cases m
  cases n
  congr

/-- A list of texts is finite. -/
@[simp] theorem isFinite_ofTexts (texts : List String) : (ofTexts texts).isFinite := by
  simp [ofTexts]

/-- A map is finite if its values are written so. -/
theorem isFinite_ofMap {α : Type} {f : α → Json} {m : SortedMap α}
    (h : ∀ e ∈ m.toList, (f e.2).isFinite) : (ofMap f m).isFinite := by
  rw [ofMap, isFinite_object, List.all_map, List.all_eq_true]
  exact h

end Json

/-- A state is written with a finite value that is not null, if it has one. -/
def FieldState.IsFaithful (s : FieldState) : Prop :=
  ∀ v, s.value = some v → v.isFinite ∧ v ≠ .null

namespace FieldState

variable {s t : FieldState}

/-- A state that is read is faithful. -/
theorem isFaithful_of_reads (h : Reads ofJson? s) : s.IsFaithful := by
  obtain ⟨v, hfinite, h⟩ := h
  have h := Json.read_of_record? h
  simp only [Option.bind_eq_bind, Option.bind_eq_some_iff] at h
  obtain ⟨visible, -, required, -, value, hvalue, options, -, disabled, -, hs⟩ := h
  cases hs
  intro u hu
  obtain ⟨w, hwfinite, hne, rfl⟩ := Json.exists_canonical_of_part? hfinite hvalue u hu
  exact ⟨Json.isFinite_canonical w, Json.canonical_ne_null hwfinite hne⟩

/-- The written form of a faithful state is finite. -/
theorem IsFaithful.isFinite (h : s.IsFaithful) : s.toJson.isFinite := by
  cases hvalue : s.value with
  | none => simp [toJson, hvalue]
  | some v => simp [toJson, hvalue, (h v hvalue).1]

/-- Faithful states are written differently. -/
theorem IsFaithful.toJson_inj (hs : s.IsFaithful) (ht : t.IsFaithful) (h : s.toJson = t.toJson) :
    s = t := by
  obtain ⟨visible, required, value, options, disabled⟩ := s
  obtain ⟨visible', required', value', options', disabled'⟩ := t
  simp only [toJson, Json.object.injEq, List.cons.injEq, Prod.mk.injEq, Json.bool.injEq,
    true_and, and_true] at h
  obtain ⟨rfl, rfl, hvalue, hoptions, rfl⟩ := h
  have hsame : value = value' := by
    cases value with
    | none =>
      cases value' with
      | none => rfl
      | some v => exact absurd hvalue.symm (ht v rfl).2
    | some u =>
      cases value' with
      | none => exact absurd hvalue (hs u rfl).2
      | some v => exact congrArg some hvalue
  rw [hsame, Json.ofTexts_inj hoptions]

end FieldState

namespace Hint

/-- The written form of a hint is finite. -/
theorem isFinite_toJson (h : Hint) : h.toJson.isFinite := by
  cases h <;> simp [toJson]

/-- Hints are written differently. -/
theorem toJson_inj {h k : Hint} (heq : h.toJson = k.toJson) : h = k := by
  cases h <;> cases k <;> simp_all [toJson]

end Hint

namespace Trigger

/-- The value of a trigger that is read is finite. -/
theorem isFinite_value_of_ofJson? {id : String} {value v : Json} (hfinite : v.isFinite)
    (h : ofJson? v = some (.fieldChanged id value)) : value.isFinite := by
  unfold ofJson? at h
  split at h
  case h_2 rest htagged =>
    have h := Json.read_of_record? h
    simp only [Option.bind_eq_bind, Option.bind_eq_some_iff] at h
    obtain ⟨id', -, value', hvalue, heq⟩ := h
    cases heq
    obtain ⟨u, -, hu⟩ :=
      Json.reads_of_required (Json.isFinite_of_tagged? hfinite htagged) hvalue
    cases hu
    exact Json.isFinite_canonical u
  -- the other kinds have no value
  all_goals simp [Json.unit?, Json.record?, Option.bind_eq_some_iff] at h

/-- The written form of a trigger that is read is finite. -/
theorem isFinite_of_reads {t : Trigger} (h : Reads ofJson? t) : t.toJson.isFinite := by
  obtain ⟨v, hfinite, h⟩ := h
  cases t with
  | fieldChanged id value => simp [toJson, isFinite_value_of_ofJson? hfinite h]
  | _ => simp [toJson]

/-- Triggers are written differently. -/
theorem toJson_inj {t u : Trigger} (h : t.toJson = u.toJson) : t = u := by
  cases t <;> cases u <;> simp_all [toJson]
  exact Json.ofTexts_inj h

end Trigger

/-- The data of forms that is read is finite. -/
theorem FormData.isFinite_of_reads {data : FormData} (h : Reads FormData.ofJson? data) :
    ∀ e ∈ data.toList, e.2.isFinite := by
  obtain ⟨v, hfinite, h⟩ := h
  intro e he
  obtain ⟨u, -, hu⟩ := Json.reads_of_mapOf? hfinite h e he
  rw [← Option.some.inj hu]
  exact Json.isFinite_canonical u

/-- The data and the states of a pass are as they can be written. -/
structure Pass.IsFaithful (p : Pass) : Prop where
  /-- The value in the trigger is finite. -/
  trigger : p.trigger.toJson.isFinite
  /-- The values that it read are finite. -/
  input : ∀ e ∈ p.input.toList, e.2.isFinite
  /-- The states are faithful. -/
  states : ∀ e ∈ p.states.toList, e.2.IsFaithful
  /-- The values that it produced are finite. -/
  output : ∀ e ∈ p.output.toList, e.2.isFinite

namespace Pass

variable {p q : Pass}

/-- A pass that is read is faithful. -/
theorem isFaithful_of_reads (h : Reads ofJson? p) : p.IsFaithful := by
  obtain ⟨v, hfinite, h⟩ := h
  have h := Json.read_of_record? h
  simp only [Option.bind_eq_bind, Option.bind_eq_some_iff] at h
  obtain ⟨number, -, trigger, htrigger, input, hinput, states, hstates, output, houtput, h⟩ := h
  obtain ⟨firedRules, -, hints, -, iterations, -, time, -, hp⟩ := h
  cases hp
  refine ⟨?_, ?_, ?_, ?_⟩
  · exact Trigger.isFinite_of_reads (Json.reads_of_required hfinite htrigger)
  · exact FormData.isFinite_of_reads (Json.reads_of_required hfinite hinput)
  · obtain ⟨u, hu, hread⟩ := Json.reads_of_required hfinite hstates
    exact fun e he => FieldState.isFaithful_of_reads (Json.reads_of_mapOf? hu hread e he)
  · exact FormData.isFinite_of_reads (Json.reads_of_required hfinite houtput)

/-- The record of a faithful pass is finite. -/
theorem IsFaithful.isFinite (h : p.IsFaithful) : p.toJson.isFinite := by
  have hinput := Json.isFinite_ofMap (f := fun v => v) h.input
  have houtput := Json.isFinite_ofMap (f := fun v => v) h.output
  have hstates := Json.isFinite_ofMap fun e he => (h.states e he).isFinite
  simp [toJson, entries, h.trigger, FormData.toJson, hinput, FieldStates.toJson, hstates, houtput,
    Hint.isFinite_toJson]

/-- Faithful passes with equal records are equal, if equal texts of their times stand for equal
times. -/
theorem IsFaithful.toJson_inj (hp : p.IsFaithful) (hq : q.IsFaithful)
    (htime : p.time.text = q.time.text → p.time = q.time) (h : p.toJson = q.toJson) : p = q := by
  simp only [toJson, entries, Json.object.injEq, List.cons_append, List.nil_append,
    List.cons.injEq, Prod.mk.injEq, Json.int.injEq, Int.natCast_inj, Json.text.injEq,
    Json.list.injEq, true_and, and_true] at h
  obtain ⟨hnumber, htrigger, hinput, hstates, houtput, hfired, hhints, hiterations, htext⟩ := h
  have hstates := Json.ofMap_inj
    (fun e he e' he' => (hp.states e he).toJson_inj (hq.states e' he')) hstates
  have hhints := eq_of_map_eq (fun _ _ _ _ => Hint.toJson_inj) hhints
  cases p
  cases q
  simp only at *
  rw [hnumber, Trigger.toJson_inj htrigger, Json.ofMap_inj (fun _ _ _ _ => id) hinput, hstates,
    Json.ofMap_inj (fun _ _ _ _ => id) houtput, Json.ofTexts_inj hfired, hhints, hiterations,
    htime htext]

end Pass

end LiveForm
