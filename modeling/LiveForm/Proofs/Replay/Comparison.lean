import LiveForm.Proofs.Session.Record
import LiveForm.Replay

/-!
# What a replay compares

A replay of a pass settles the data that the pass has read, and compares what comes out with the
record: the states, then the data, the rules that fired and the hints. It reports nothing exactly if
all four are equal, where values are equal as data; and if it names a field, the field differs. A
replay of a trace goes on up to the first pass that is not reproduced, and reports what the replay
of that pass reports.
-/

namespace LiveForm

/-! ### Maps that differ -/

namespace SortedMap

variable {α : Type} {same : α → α → Bool} {m n : SortedMap α} {k : String}

/-- Two maps differ at a key, by a test of values. -/
inductive DiffersAt (same : α → α → Bool) (m n : SortedMap α) (k : String) : Prop where
  /-- Both have a value for it, and the values are not the same. -/
  | changed {v w : α} (hm : m.get? k = some v) (hn : n.get? k = some w) (h : ¬same v w)
  /-- Only the first map has a value for it. -/
  | missing {v : α} (hm : m.get? k = some v) (hn : n.get? k = none)
  /-- Only the second map has one. -/
  | added {w : α} (hm : m.get? k = none) (hn : n.get? k = some w)

/-- A key is the first at which two maps differ: those of the first map come before those that only
the second has, and a smaller one comes before a larger one. -/
structure DiffersFirstAt (same : α → α → Bool) (m n : SortedMap α) (k : String) : Prop where
  /-- The maps differ at the key. -/
  differs : DiffersAt same m n k
  /-- It is in the first map if they differ at any key of the first map. -/
  mem_keys : ∀ k' ∈ m.keys, DiffersAt same m n k' → k ∈ m.keys
  /-- It is the least of the keys at which they differ: of those of the first map if it is one of
  them, and of the others if it is not. -/
  least : ∀ k', DiffersAt same m n k' → (k' ∈ m.keys ↔ k ∈ m.keys) → k ≤ k'

/-- Maps differ at a key if they do not answer it alike. -/
theorem differsAt_iff :
    DiffersAt same m n k ↔ ¬Option.Rel (fun v w => same v w) (m.get? k) (n.get? k) := by
  constructor
  · rintro (⟨hm, hn, h⟩ | ⟨hm, hn⟩ | ⟨hm, hn⟩) halike <;> rw [hm, hn] at halike <;> cases halike
    contradiction
  · intro h
    cases hm : m.get? k with
    | none =>
      cases hn : n.get? k with
      | none => exact absurd .none (hm ▸ hn ▸ h)
      | some w => exact .added hm hn
    | some v =>
      cases hn : n.get? k with
      | none => exact .missing hm hn
      | some w =>
        rw [hm, hn] at h
        exact .changed hm hn fun hsame => h (.some hsame)

/-- A key at which maps differ is a key of one of them. -/
theorem DiffersAt.mem_keys (h : DiffersAt same m n k) : k ∈ m.keys ∨ k ∈ n.keys := by
  simp only [mem_keys_iff]
  rcases h with ⟨hm, -, -⟩ | ⟨hm, -⟩ | ⟨-, hn⟩
  · exact .inl (by simp [hm])
  · exact .inl (by simp [hm])
  · exact .inr (by simp [hn])

/-- The first key at which maps differ is the only one that is first. -/
theorem DiffersFirstAt.unique {k' : String} (h : DiffersFirstAt same m n k)
    (h' : DiffersFirstAt same m n k') : k = k' := by
  have hkeys : k' ∈ m.keys ↔ k ∈ m.keys :=
    ⟨fun hk' => h.mem_keys k' hk' h'.differs, fun hk => h'.mem_keys k hk h.differs⟩
  exact String.le_antisymm (h.least k' h'.differs hkeys) (h'.least k h.differs hkeys.symm)

end SortedMap

section

variable {α : Type} {same : α → α → Bool} {m n : SortedMap α} {k : String}

/-- The search for a difference tests a key for one. -/
theorem not_sameOption_iff :
    (!sameOption same (m.get? k) (n.get? k)) = true ↔ m.DiffersAt same n k := by
  rw [SortedMap.differsAt_iff]
  cases m.get? k <;> cases n.get? k <;> simp [sameOption]

/-- No key is found to differ exactly if the maps are found alike. -/
theorem differingKey?_eq_none_iff : differingKey? same m n = none ↔ SortedMap.all2 same m n := by
  rw [differingKey?, List.find?_eq_none, SortedMap.all2_iff]
  constructor
  · intro h k
    by_contra halike
    have hdiffers : m.DiffersAt same n k := SortedMap.differsAt_iff.mpr halike
    exact h k (List.mem_append.mpr hdiffers.mem_keys) (not_sameOption_iff.mpr hdiffers)
  · intro h k _ hdiffers
    exact SortedMap.differsAt_iff.mp (not_sameOption_iff.mp hdiffers) (h k)

/-- The key that is found is the first at which the maps differ. -/
theorem differsFirstAt_of_differingKey? (h : differingKey? same m n = some k) :
    m.DiffersFirstAt same n k := by
  rw [differingKey?] at h
  have htest := List.find?_some h
  have hdiffers : m.DiffersAt same n k := not_sameOption_iff.mp htest
  rw [List.find?_append, Option.or_eq_some_iff] at h
  rcases h with hfound | ⟨hnone, hfound⟩
  · have hk : k ∈ m.keys := List.mem_of_find?_eq_some hfound
    refine ⟨hdiffers, fun _ _ _ => hk, fun k' hdiffers' hkeys => ?_⟩
    exact SortedMap.le_of_find?_eq_some m.sorted_keys hfound (hkeys.mpr hk)
      (not_sameOption_iff.mpr hdiffers')
  · -- the maps differ at no key of the first, so only the second has the keys that count
    have hagree (k' : String) (hk' : k' ∈ m.keys) : ¬m.DiffersAt same n k' := fun hdiffers' =>
      List.find?_eq_none.mp hnone k' hk' (not_sameOption_iff.mpr hdiffers')
    refine ⟨hdiffers, fun k' hk' hdiffers' => absurd hdiffers' (hagree k' hk'),
      fun k' hdiffers' _ => ?_⟩
    have hk' : k' ∈ n.keys := hdiffers'.mem_keys.resolve_left fun hk' => hagree k' hk' hdiffers'
    exact SortedMap.le_of_find?_eq_some n.sorted_keys hfound hk' (not_sameOption_iff.mpr hdiffers')

/-- Maps that are not found alike differ at a first key. -/
theorem exists_differsFirstAt (h : ¬SortedMap.all2 same m n) : ∃ k, m.DiffersFirstAt same n k := by
  rw [← differingKey?_eq_none_iff] at h
  obtain ⟨k, hk⟩ := Option.ne_none_iff_exists'.mp h
  exact ⟨k, differsFirstAt_of_differingKey? hk⟩

/-- A key is found exactly if it is the first at which the maps differ. -/
theorem differingKey?_eq_some_iff :
    differingKey? same m n = some k ↔ m.DiffersFirstAt same n k := by
  refine ⟨differsFirstAt_of_differingKey?, fun h => ?_⟩
  cases hfound : differingKey? same m n with
  | none =>
    rw [differingKey?_eq_none_iff, SortedMap.all2_iff] at hfound
    exact absurd (hfound k) (SortedMap.differsAt_iff.mp h.differs)
  | some k' => rw [(differsFirstAt_of_differingKey? hfound).unique h]

end

/-! ### Evaluations that differ -/

namespace Evaluation

/-- Two evaluations are the same, with values compared as data. -/
structure Same (e f : Evaluation) : Prop where
  /-- Their fields are the same and have the same states. -/
  states : SortedMap.all2 FieldState.same e.states f.states
  /-- Their data is the same. -/
  formData : sameData e.formData f.formData
  /-- The same rules fired, in one order. -/
  firedRules : e.firedRules = f.firedRules
  /-- They have the same hints, in one order. -/
  hints : e.hints = f.hints

/-- What is the first difference of two evaluations. The states come first, then the data, the rules
that fired, and the hints. -/
inductive DiffersBy (e f : Evaluation) : Difference → Prop where
  /-- A field does not have the same state in both. -/
  | state {id : String} (h : e.states.DiffersFirstAt FieldState.same f.states id) :
      DiffersBy e f (.state id)
  /-- The states are the same, and a field does not have the same value in the data of both. -/
  | output {id : String} (hstates : SortedMap.all2 FieldState.same e.states f.states)
      (h : e.formData.DiffersFirstAt Json.same f.formData id) : DiffersBy e f (.output id)
  /-- States and data are the same, and other rules fired. -/
  | firedRules (hstates : SortedMap.all2 FieldState.same e.states f.states)
      (hdata : sameData e.formData f.formData) (h : e.firedRules ≠ f.firedRules) :
      DiffersBy e f (.firedRules e.firedRules f.firedRules)
  /-- All but the hints is the same. -/
  | hints (hstates : SortedMap.all2 FieldState.same e.states f.states)
      (hdata : sameData e.formData f.formData) (hfired : e.firedRules = f.firedRules)
      (h : e.hints ≠ f.hints) : DiffersBy e f .hints

/-- All numbers in an evaluation are finite, and none is negative zero. -/
structure HasPlainNumbers (e : Evaluation) : Prop where
  /-- Those in the values of states are. -/
  states : ∀ s ∈ e.states.toList, ∀ v ∈ s.2.value, v.isFinite ∧ v.HasPlainZeros
  /-- Those in the data are. -/
  formData : ∀ d ∈ e.formData.toList, d.2.isFinite ∧ d.2.HasPlainZeros

end Evaluation

/-- A state with a finite value is the same as itself. -/
theorem FieldState.same_self {s : FieldState} (h : ∀ v ∈ s.value, v.isFinite) : same s s := by
  simp [same, sameValue_self h]

/-- Where no number is negative zero, states that are the same are equal. -/
theorem FieldState.eq_of_same {s t : FieldState} (h : same s t)
    (hs : ∀ v ∈ s.value, v.HasPlainZeros) (ht : ∀ v ∈ t.value, v.HasPlainZeros) : s = t := by
  obtain ⟨visible, required, value, options, disabled⟩ := s
  obtain ⟨visible', required', value', options', disabled'⟩ := t
  simp only [same, Bool.and_eq_true, beq_iff_eq, sameValue_iff] at h
  obtain ⟨⟨⟨⟨rfl, rfl⟩, hvalue⟩, rfl⟩, rfl⟩ := h
  cases hvalue with
  | none => rfl
  | some hsame => rw [Json.eq_of_same hsame (hs _ rfl) (ht _ rfl)]

/-- Where all numbers are finite and none is negative zero, evaluations are the same exactly if they
are equal. -/
theorem Evaluation.same_iff_eq {e f : Evaluation} (he : e.HasPlainNumbers)
    (hf : f.HasPlainNumbers) : e.Same f ↔ e = f := by
  constructor
  · intro h
    have hstates : e.states = f.states := SortedMap.eq_of_all2 h.states fun s hs t ht hsame =>
      FieldState.eq_of_same hsame (fun v hv => (he.states s hs v hv).2)
        fun v hv => (hf.states t ht v hv).2
    have hdata : e.formData = f.formData :=
      eq_of_sameData h.formData (fun d hd => (he.formData d hd).2) fun d hd => (hf.formData d hd).2
    cases e
    cases f
    rw [Evaluation.mk.injEq]
    exact ⟨hstates, hdata, h.hints, h.firedRules⟩
  · rintro rfl
    exact {
      states := SortedMap.all2_self fun s hs =>
        FieldState.same_self fun v hv => (he.states s hs v hv).1
      formData := sameData_self fun d hd => (he.formData d hd).1
      firedRules := rfl
      hints := rfl }

/-- Two evaluations are the same or have a first difference. -/
theorem Evaluation.same_or_differsBy (e f : Evaluation) : e.Same f ∨ ∃ d, e.DiffersBy f d := by
  by_cases hstates : SortedMap.all2 FieldState.same e.states f.states
  case neg =>
    obtain ⟨id, hid⟩ := exists_differsFirstAt hstates
    exact .inr ⟨_, .state hid⟩
  by_cases hdata : sameData e.formData f.formData
  case neg =>
    obtain ⟨id, hid⟩ := exists_differsFirstAt hdata
    exact .inr ⟨_, .output hstates hid⟩
  by_cases hfired : e.firedRules = f.firedRules
  case neg => exact .inr ⟨_, .firedRules hstates hdata hfired⟩
  by_cases hhints : e.hints = f.hints
  case neg => exact .inr ⟨_, .hints hstates hdata hfired hhints⟩
  exact .inl ⟨hstates, hdata, hfired, hhints⟩

/-! ### Passes that are not reproduced -/

namespace Pass

variable {p : Pass} {e : Evaluation} {d : Difference}

/-- A pass that recorded the same as an evaluation has no difference to it. -/
theorem difference?_of_same (h : p.evaluation.Same e) : p.difference? e = none := by
  have hstates : differingKey? FieldState.same p.states e.states = none :=
    differingKey?_eq_none_iff.mpr h.states
  have hdata : differingKey? Json.same p.output e.formData = none :=
    differingKey?_eq_none_iff.mpr h.formData
  have hfired : p.firedRules = e.firedRules := h.firedRules
  have hhints : p.hints = e.hints := h.hints
  simp [difference?, hstates, hdata, hfired, hhints]

/-- The first difference of what a pass recorded to an evaluation is its difference to it. -/
theorem difference?_of_differsBy (h : p.evaluation.DiffersBy e d) : p.difference? e = some d := by
  have hnone (h : SortedMap.all2 FieldState.same p.states e.states) :
      differingKey? FieldState.same p.states e.states = none := differingKey?_eq_none_iff.mpr h
  have hnone' (h : sameData p.output e.formData) :
      differingKey? Json.same p.output e.formData = none := differingKey?_eq_none_iff.mpr h
  cases h with
  | @state id h =>
    have hstate : differingKey? FieldState.same p.states e.states = some id :=
      differingKey?_eq_some_iff.mpr h
    simp only [difference?, hstate]
  | @output id hstates h =>
    have hvalue : differingKey? Json.same p.output e.formData = some id :=
      differingKey?_eq_some_iff.mpr h
    simp only [difference?, hnone hstates, hvalue]
  | firedRules hstates hdata h =>
    have hfired : p.firedRules ≠ e.firedRules := h
    simp only [difference?, hnone hstates, hnone' hdata, if_pos hfired]
    rfl
  | hints hstates hdata hfired h =>
    have hfired : ¬p.firedRules ≠ e.firedRules := not_ne_iff.mpr hfired
    have hhints : p.hints ≠ e.hints := h
    simp only [difference?, hnone hstates, hnone' hdata, if_neg hfired, if_pos hhints]

/-- A pass has no difference to an evaluation exactly if it recorded the same. -/
theorem difference?_eq_none_iff : p.difference? e = none ↔ p.evaluation.Same e := by
  refine ⟨fun h => ?_, difference?_of_same⟩
  rcases p.evaluation.same_or_differsBy e with hsame | ⟨d, hd⟩
  · exact hsame
  · rw [difference?_of_differsBy hd] at h
    cases h

/-- The difference of a pass to an evaluation is the first one of what it recorded. -/
theorem difference?_eq_some_iff : p.difference? e = some d ↔ p.evaluation.DiffersBy e d := by
  refine ⟨fun h => ?_, difference?_of_differsBy⟩
  rcases p.evaluation.same_or_differsBy e with hsame | ⟨d', hd'⟩
  · rw [difference?_of_same hsame] at h
    cases h
  · rw [difference?_of_differsBy hd', Option.some.injEq] at h
    exact h ▸ hd'

variable {engine : Engine} {fields : List Field} {rules : RuleSet}

/-- A replay of a pass reports its difference to what settling its input gives. -/
theorem replay_value (engine : Engine) (fields : List Field) (rules : RuleSet) (p : Pass) :
    (p.replay engine fields rules).value =
      match p.difference? (settle engine fields rules p.input).value.evaluation with
      | some d => .error (.replayMismatch p.number d)
      | none => .ok () := by
  rw [replay, Logged.value_bind]
  cases p.difference? (settle engine fields rules p.input).value.evaluation <;> rfl

/-- A replay reproduces a pass exactly if the pass recorded what settling its input gives. -/
theorem replay_eq_ok_iff : (p.replay engine fields rules).value = .ok () ↔
    p.evaluation.Same (settle engine fields rules p.input).value.evaluation := by
  rw [replay_value, ← difference?_eq_none_iff]
  split
  case h_1 hd => simp [hd]
  case h_2 hd => simp [hd]

/-- A replay fails exactly with the first difference of the pass, under the number of the pass. -/
theorem replay_eq_error_iff {error : FormError} :
    (p.replay engine fields rules).value = .error error ↔
      ∃ d, p.evaluation.DiffersBy (settle engine fields rules p.input).value.evaluation d ∧
        error = .replayMismatch p.number d := by
  simp only [replay_value, ← difference?_eq_some_iff]
  split
  case h_1 hd => simp [hd, eq_comm]
  case h_2 hd => simp [hd]

/-- A replay of passes goes on after a pass that it reproduces, and only then. -/
theorem replayAll_cons (p : Pass) (passes : List Pass) :
    (replayAll engine fields rules (p :: passes)).value =
      match (p.replay engine fields rules).value with
      | .error error => .error error
      | .ok () => (replayAll engine fields rules passes).value := by
  rw [replayAll, Logged.value_bind]
  cases (p.replay engine fields rules).value <;> rfl

/-- A replay of passes reproduces them exactly if that of each does. -/
theorem replayAll_eq_ok_iff {passes : List Pass} :
    (replayAll engine fields rules passes).value = .ok () ↔
      ∀ p ∈ passes, (p.replay engine fields rules).value = .ok () := by
  induction passes with
  | nil => simp [replayAll]
  | cons p passes ih =>
    rw [replayAll_cons, List.forall_mem_cons, ← ih]
    cases hp : (p.replay engine fields rules).value with
    | error error => simp
    | ok _ => simp

/-- A replay of passes fails exactly as that of the first which it does not reproduce. -/
theorem replayAll_eq_error_iff {passes : List Pass} {error : FormError} :
    (replayAll engine fields rules passes).value = .error error ↔
      ∃ before p after, passes = before ++ p :: after ∧
        (∀ q ∈ before, (q.replay engine fields rules).value = .ok ()) ∧
        (p.replay engine fields rules).value = .error error := by
  induction passes with
  | nil => simp [replayAll]
  | cons p passes ih =>
    rw [replayAll_cons]
    constructor
    · intro h
      cases hp : (p.replay engine fields rules).value with
      | error error' =>
        rw [hp] at h
        refine ⟨[], p, passes, rfl, List.forall_mem_nil _, ?_⟩
        rw [hp]
        exact h
      | ok _ =>
        rw [hp] at h
        obtain ⟨before, q, after, rfl, hbefore, hq⟩ := ih.mp h
        exact ⟨p :: before, q, after, rfl, List.forall_mem_cons.mpr ⟨hp, hbefore⟩, hq⟩
    · rintro ⟨before, q, after, hsplit, hbefore, hq⟩
      rcases List.cons_eq_append_iff.mp hsplit with ⟨rfl, hhead⟩ | ⟨rest, rfl, rfl⟩
      · rw [List.cons.injEq] at hhead
        rw [← hhead.1, hq]
      · rw [List.forall_mem_cons] at hbefore
        rw [hbefore.1]
        exact ih.mpr ⟨rest, q, after, rfl, hbefore.2, hq⟩

end Pass

section

variable {engine : Engine} {fields : List Field} {rules : RuleSet} {entries : List Entry}

/-- A replay of a trace is that of its passes, and counts them. -/
theorem replayEntries_value (engine : Engine) (fields : List Field) (rules : RuleSet)
    (entries : List Entry) :
    (replayEntries engine fields rules entries).value =
      match (Pass.replayAll engine fields rules (entries.map (·.pass))).value with
      | .error error => .error error
      | .ok () => .ok entries.length := by
  rw [replayEntries, Logged.value_bind]
  cases (Pass.replayAll engine fields rules (entries.map (·.pass))).value <;> rfl

/-- A replay of a trace counts its entries exactly if it reproduces every pass. -/
theorem replayEntries_eq_ok_iff {count : Nat} :
    (replayEntries engine fields rules entries).value = .ok count ↔
      count = entries.length ∧
        ∀ entry ∈ entries, (entry.pass.replay engine fields rules).value = .ok () := by
  have hpasses : (Pass.replayAll engine fields rules (entries.map (·.pass))).value = .ok () ↔
      ∀ entry ∈ entries, (entry.pass.replay engine fields rules).value = .ok () :=
    Pass.replayAll_eq_ok_iff.trans List.forall_mem_map
  rw [← hpasses, replayEntries_value]
  cases (Pass.replayAll engine fields rules (entries.map (·.pass))).value with
  | error error => simp
  | ok _ => simp [eq_comm]

/-- A replay of a trace fails exactly as that of the first pass which it does not reproduce. -/
theorem replayEntries_eq_error_iff {error : FormError} :
    (replayEntries engine fields rules entries).value = .error error ↔
      ∃ before entry after, entries = before ++ entry :: after ∧
        (∀ e ∈ before, (e.pass.replay engine fields rules).value = .ok ()) ∧
        (entry.pass.replay engine fields rules).value = .error error := by
  have hpasses : (replayEntries engine fields rules entries).value = .error error ↔
      (Pass.replayAll engine fields rules (entries.map (·.pass))).value = .error error := by
    rw [replayEntries_value]
    cases (Pass.replayAll engine fields rules (entries.map (·.pass))).value <;> simp
  rw [hpasses, Pass.replayAll_eq_error_iff]
  constructor
  · rintro ⟨before, p, after, hsplit, hbefore, hp⟩
    obtain ⟨front, rest, rfl, rfl, hrest⟩ := List.map_eq_append_iff.mp hsplit
    obtain ⟨entry, back, rfl, rfl, -⟩ := List.map_eq_cons_iff.mp hrest
    exact ⟨front, entry, back, rfl, List.forall_mem_map.mp hbefore, hp⟩
  · rintro ⟨before, entry, after, rfl, hbefore, hentry⟩
    exact ⟨before.map (·.pass), entry.pass, after.map (·.pass), by simp,
      List.forall_mem_map.mpr hbefore, hentry⟩

end

/-- **A replay misses nothing.** For every engine and form, the replay of a pass succeeds exactly if
the states, the data, the fired rules and the hints in the record are the same as those of settling
its input, and so, where all numbers are finite and none is negative zero, exactly if they are
equal. Otherwise it fails with the first difference, under the number of the pass, and a field that
it names differs. The replay of a trace succeeds, with the number of its entries, exactly if that of
each pass does, and otherwise fails as that of the first pass that fails. -/
theorem replay_sound_complete (engine : Engine) (fields : List Field) (rules : RuleSet) :
    (∀ p : Pass,
      let e := (settle engine fields rules p.input).value.evaluation
      ((p.replay engine fields rules).value = .ok () ↔ p.evaluation.Same e) ∧
      (∀ error, (p.replay engine fields rules).value = .error error ↔
        ∃ d, p.evaluation.DiffersBy e d ∧ error = .replayMismatch p.number d) ∧
      (p.evaluation.HasPlainNumbers → e.HasPlainNumbers →
        ((p.replay engine fields rules).value = .ok () ↔ p.evaluation = e))) ∧
    ∀ entries : List Entry,
      (∀ count, (replayEntries engine fields rules entries).value = .ok count ↔
        count = entries.length ∧
          ∀ entry ∈ entries, (entry.pass.replay engine fields rules).value = .ok ()) ∧
      (∀ error, (replayEntries engine fields rules entries).value = .error error ↔
        ∃ before entry after, entries = before ++ entry :: after ∧
          (∀ e ∈ before, (e.pass.replay engine fields rules).value = .ok ()) ∧
          (entry.pass.replay engine fields rules).value = .error error) := by
  refine ⟨fun p => ?_, fun entries => ?_⟩
  · refine ⟨Pass.replay_eq_ok_iff, fun _ => Pass.replay_eq_error_iff, fun hp he => ?_⟩
    exact Pass.replay_eq_ok_iff.trans (Evaluation.same_iff_eq hp he)
  · exact ⟨fun _ => replayEntries_eq_ok_iff, fun _ => replayEntries_eq_error_iff⟩

/-- The record of a pass holds the evaluation that it was made from. -/
theorem Setup.evaluation_record {σ : Type} (w : Setup σ) (number : Nat) (trigger : Trigger)
    (input : FormData) (s : Settlement) :
    (w.record number trigger input s).evaluation = s.evaluation := rfl

/-- The record of a pass over data of the order form, with its rule on bulk orders alone. -/
def Sample.bulkPass (number : Nat) (data : FormData) : Pass :=
  (Sample.bulkOrder.setup "session" fun _ => .epoch).record number (.valuesLoaded data.keys) data
    (settle priorityEngine Sample.orderFields Sample.bulkRules data).value

/-- The record of an order of twelve pieces replays. Without the rule on bulk orders it does not,
and the replay of a trace in which it comes after an empty order fails with the state of the
shipping. -/
theorem replay_sound_complete_bulkOrder :
    let settled (rules : RuleSet) :=
      (settle priorityEngine Sample.orderFields rules Sample.dozen).value.evaluation
    let rules : RuleSet := { rules := [] }
    let p := Sample.bulkPass 1 Sample.dozen
    let t : Trace := { id := "order" }
    let trace := (t.append Sha256.hex (Sample.bulkPass 0 ∅)).append Sha256.hex p
    p.evaluation.HasPlainNumbers ∧ (settled Sample.bulkRules).HasPlainNumbers ∧
    (p.replay priorityEngine Sample.orderFields Sample.bulkRules).value = .ok () ∧
    p.evaluation.DiffersBy (settled rules) (.state "shipping") ∧
    (replayEntries priorityEngine Sample.orderFields rules trace.entries).value =
      .error (.replayMismatch 1 (.state "shipping")) := by
  intro settled rules p t trace
  have hplain : (settled Sample.bulkRules).HasPlainNumbers :=
    ⟨by decide +kernel, by decide +kernel⟩
  have hequal : p.evaluation = settled Sample.bulkRules := Setup.evaluation_record _ _ _ _ _
  have hplain' : p.evaluation.HasPlainNumbers := by rw [hequal]; exact hplain
  have hinput : p.input = Sample.dozen := rfl
  obtain ⟨hrecorded, -⟩ := replay_sound_complete priorityEngine Sample.orderFields Sample.bulkRules
  obtain ⟨-, -, hrecorded⟩ := hrecorded p
  rw [hinput] at hrecorded
  -- the same pass, but without the rule
  obtain ⟨hchanged, htrace⟩ := replay_sound_complete priorityEngine Sample.orderFields rules
  obtain ⟨-, hchanged, -⟩ := hchanged p
  rw [hinput] at hchanged
  have hfails : (p.replay priorityEngine Sample.orderFields rules).value =
      .error (.replayMismatch 1 (.state "shipping")) := by decide +kernel
  obtain ⟨d, hdiffers, heq⟩ := (hchanged _).mp hfails
  rw [FormError.replayMismatch.injEq] at heq
  rw [← heq.2] at hdiffers
  refine ⟨hplain', hplain, (hrecorded hplain' hplain).mpr hequal, hdiffers,
    ((htrace trace.entries).2 _).mpr ?_⟩
  exact ⟨[_], _, [], rfl, by decide +kernel, hfails⟩

end LiveForm
