import LiveForm.CommandLine
import LiveForm.Proofs.Session.Forgery

/-!
# Forms that start with values

A session that is to start with given values first runs a pass over the default values alone, and
then one over what that pass has made of them, with the given values laid over it. What the first
pass has written into other fields is still there, and the second pass reads it. Only if it has
written nothing but values that the second pass supersedes does the session show what the default
values under the given ones lead to.
-/

namespace LiveForm

/-- Data without negative zeros stays so under values without them. -/
theorem FormData.HasPlainZeros.insertAll {data values : FormData}
    (hdata : FormData.HasPlainZeros data) (hvalues : FormData.HasPlainZeros values) :
    FormData.HasPlainZeros (data.insertAll values.toList) :=
  fun e he => (SortedMap.mem_of_mem_insertAll he).elim (hdata e) (hvalues e)

namespace Document

/-- The data that the first pass of a session leads to. -/
def initialData (d : Document) : FormData :=
  (settle priorityEngine d.fields d.logic (defaults d.fields)).value.evaluation.formData

/-- Given values over the default values. -/
def snapshot (d : Document) (values : FormData) : FormData :=
  (defaults d.fields).insertAll values.toList

/-- Whether the first pass leaves a value behind in a field that is given none. -/
def LeavesBehind (d : Document) (values : FormData) (f : Field) : Prop :=
  f.id ∉ values.keys ∧ d.initialData.get? f.id ≠ (defaults d.fields).get? f.id

instance (d : Document) (values : FormData) (f : Field) : Decidable (d.LeavesBehind values f) :=
  inferInstanceAs (Decidable (_ ∧ _))

variable {d : Document} {values : FormData}

/-- The first pass writes values of fields only. -/
theorem get?_initialData {id : String} (hid : id ∉ d.fields.map (·.id)) :
    d.initialData.get? id = (defaults d.fields).get? id := by
  have hrun (data : FormData) (hdata : data.get? id = (defaults d.fields).get? id) :
      (priorityEngine d.fields d.logic data).value.formData.get? id =
        (defaults d.fields).get? id := by
    rw [get?_priorityEngine_data d.fields d.logic data hid, hdata]
  obtain ⟨data, hdata, heq⟩ :=
    settle_invariant (fun data => data.get? id = (defaults d.fields).get? id) hrun rfl
  rw [initialData, heq, hrun data hdata]

/-- What the second pass starts with differs from the snapshot where the first has left a value
behind. -/
theorem exists_leavesBehind {id : String}
    (hne : (d.initialData.insertAll values.toList).get? id ≠ (d.snapshot values).get? id) :
    ∃ f ∈ d.fields, f.id = id ∧ d.LeavesBehind values f := by
  rw [snapshot, SortedMap.get?_insertAll_toList, SortedMap.get?_insertAll_toList] at hne
  have hfield : id ∈ d.fields.map (·.id) := by
    by_contra hid
    rw [get?_initialData hid] at hne
    exact hne rfl
  obtain ⟨f, hf, rfl⟩ := List.mem_map.mp hfield
  refine ⟨f, hf, rfl, fun hgiven => ?_, fun heq => ?_⟩
  · obtain ⟨v, hv⟩ := Option.isSome_iff_exists.mp (SortedMap.mem_keys_iff.mp hgiven)
    rw [hv, Option.some_or, Option.some_or] at hne
    exact hne rfl
  · rw [heq] at hne
    exact hne rfl

/-- Where the first pass leaves only superseded values behind, the first run of the second makes of
them what it makes of the snapshot. -/
theorem formData_prefilled (hids : (d.fields.map (·.id)).Nodup)
    (hleft : ∀ f ∈ d.fields, d.LeavesBehind values f →
      Superseded d.fields d.logic (d.snapshot values) f) :
    (priorityEngine d.fields d.logic (d.initialData.insertAll values.toList)).value.formData =
      (priorityEngine d.fields d.logic (d.snapshot values)).value.formData := by
  have hagree : ∀ id ∉ (d.fields.filter (d.LeavesBehind values ·)).map (·.id),
      (d.initialData.insertAll values.toList).get? id = (d.snapshot values).get? id := by
    intro id hid
    by_contra hne
    obtain ⟨f, hf, rfl, hbehind⟩ := exists_leavesBehind hne
    exact hid (List.mem_map_of_mem (List.mem_filter.mpr ⟨hf, decide_eq_true hbehind⟩))
  refine formData_eq_of_superseded hids hagree fun id hid => ?_
  obtain ⟨f, hf, rfl⟩ := List.mem_map.mp hid
  obtain ⟨hmem, hbehind⟩ := List.mem_filter.mp hf
  exact ⟨f, rfl, hleft f hmem (of_decide_eq_true hbehind)⟩

/-- Then the second pass shows what the snapshot settles on, if no number is negative zero. -/
theorem settle_prefilled (hids : (d.fields.map (·.id)).Nodup)
    (hrules : d.logic.HasPlainZeros) (hdefaults : FormData.HasPlainZeros (defaults d.fields))
    (hzeros : FormData.HasPlainZeros values)
    (hleft : ∀ f ∈ d.fields, d.LeavesBehind values f →
      Superseded d.fields d.logic (d.snapshot values) f) :
    (settle priorityEngine d.fields d.logic
        (d.initialData.insertAll values.toList)).value.evaluation =
      (settle priorityEngine d.fields d.logic (d.snapshot values)).value.evaluation := by
  have hkept (data : FormData) (hdata : FormData.HasPlainZeros data) :
      FormData.HasPlainZeros (priorityEngine d.fields d.logic data).value.formData :=
    forall_formData Json.hasPlainZeros_ofNumber hrules d.fields hdata
  have hinitial : FormData.HasPlainZeros d.initialData := by
    obtain ⟨data, hdata, heq⟩ := settle_invariant FormData.HasPlainZeros hkept hdefaults
    rw [initialData, heq]
    exact hkept data hdata
  have hsnapshot : FormData.HasPlainZeros (d.snapshot values) := hdefaults.insertAll hzeros
  exact settle_evaluation_congr (formData_prefilled hids hleft) rfl
    (fun hsame => eq_of_sameData hsame (hkept _ hsnapshot) (hinitial.insertAll hzeros))
    fun hsame => eq_of_sameData hsame (hkept _ hsnapshot) hsnapshot

end Document

/-- **A form that starts with values shows what its snapshot leads to**, in a session and on the
command line, if the first pass has left behind only values that the snapshot supersedes, and no
number is negative zero. -/
theorem load_prefilled {d : Document} (hids : (d.fields.map (·.id)).Nodup) {values : FormData}
    (hvalues : ∀ id ∈ values.keys, id ∈ d.fields.map (·.id)) (hrules : d.logic.HasPlainZeros)
    (hdefaults : FormData.HasPlainZeros (Document.defaults d.fields))
    (hzeros : FormData.HasPlainZeros values)
    (hleft : ∀ f ∈ d.fields, d.LeavesBehind values f →
      Superseded d.fields d.logic (d.snapshot values) f) :
    let e := (settle priorityEngine d.fields d.logic (d.snapshot values)).value.evaluation
    (∀ {σ : Type} (w : Setup σ), w.engine = priorityEngine → w.fields = d.fields →
      w.rules = d.logic → ∀ trace, ∃ t,
        (w.loadValues values (w.start trace).value).value = (.ok t.evaluation, t) ∧
        t.evaluation = e) ∧
    ∀ w : World, ∃ t, Command.sessionOf w d values = .ok t ∧ t.evaluation = e := by
  intro e
  have hsession : ∀ {σ : Type} (w : Setup σ), w.engine = priorityEngine → w.fields = d.fields →
      w.rules = d.logic → ∀ trace, ∃ t,
        (w.loadValues values (w.start trace).value).value = (.ok t.evaluation, t) ∧
        t.evaluation = e := by
    intro σ w hengine hfields hlogic trace
    refine ⟨_, Setup.loadValues_value (hfields ▸ hvalues) _, ?_⟩
    have hdata : (w.start trace).value.data = d.initialData := by
      rw [Setup.start, Setup.data_pass, Setup.evaluation_pass, hengine, hfields, hlogic]
      rfl
    rw [Setup.evaluation_pass, hdata, hengine, hfields, hlogic]
    exact Document.settle_prefilled hids hrules hdefaults hzeros hleft
  refine ⟨hsession, fun w => ?_⟩
  rw [Command.sessionOf]
  split
  case isTrue hempty =>
    -- without values there is only the first pass
    have hsnapshot : d.snapshot values = Document.defaults d.fields := by
      rw [Document.snapshot, List.isEmpty_iff.mp hempty]
      rfl
    refine ⟨_, rfl, ?_⟩
    rw [Setup.start, Setup.evaluation_pass]
    exact hsnapshot ▸ rfl
  case isFalse =>
    obtain ⟨t, ht, hevaluation⟩ := hsession (Command.setup w d) rfl rfl rfl ()
    exact ⟨t, Setup.load_eq_ok ht, hevaluation⟩

/-- An order of twelve pieces, given from the start, ships free: its first pass leaves a subtotal
and a total behind. -/
theorem load_prefilled_bulkOrder :
    let d := Sample.bulkOrder
    let values := Sample.dozen
    (d.fields.map (·.id)).Nodup ∧ (∀ id ∈ values.keys, id ∈ d.fields.map (·.id)) ∧
    d.logic.HasPlainZeros ∧ FormData.HasPlainZeros (Document.defaults d.fields) ∧
    FormData.HasPlainZeros values ∧
    (d.fields.filter (d.LeavesBehind values ·)).map (·.id) = ["subtotal", "total"] ∧
    (∀ f ∈ d.fields, d.LeavesBehind values f →
      Superseded d.fields d.logic (d.snapshot values) f) ∧
    let e := (settle priorityEngine d.fields d.logic (d.snapshot values)).value.evaluation
    (∀ {σ : Type} (w : Setup σ), w.engine = priorityEngine → w.fields = d.fields →
      w.rules = d.logic → ∀ trace, ∃ t,
        (w.loadValues values (w.start trace).value).value = (.ok t.evaluation, t) ∧
        t.evaluation = e) ∧
    ∀ w : World, ∃ t, Command.sessionOf w d values = .ok t ∧ t.evaluation = e := by
  intro d values
  have hids : (d.fields.map (·.id)).Nodup := by decide
  have hvalues : ∀ id ∈ values.keys, id ∈ d.fields.map (·.id) := by decide
  have hrules : d.logic.HasPlainZeros := by decide +kernel
  have hdefaults : FormData.HasPlainZeros (Document.defaults d.fields) := by decide +kernel
  have hzeros : FormData.HasPlainZeros values := by decide +kernel
  have hbehind :
      (d.fields.filter (d.LeavesBehind values ·)).map (·.id) = ["subtotal", "total"] := by
    decide +kernel
  have hwords : ∀ id ∈ d.fields.map (·.id), Calculation.isWordId id := by decide +kernel
  have hleft : ∀ f ∈ d.fields, d.LeavesBehind values f →
      Superseded d.fields d.logic (d.snapshot values) f := by
    intro f hf hleaves
    have hid : f.id ∈ ["subtotal", "total"] :=
      hbehind ▸ List.mem_map_of_mem (List.mem_filter.mpr ⟨hf, decide_eq_true hleaves⟩)
    clear hleaves
    have hcalculated : f.isCalculated := by
      revert f
      decide
    refine ⟨hf, hcalculated, .of_not_mentions hwords ?tests ?actions ?earlier ?itself, ?number⟩
    all_goals
      revert f
      decide +kernel
  exact ⟨hids, hvalues, hrules, hdefaults, hzeros, hbehind, hleft,
    load_prefilled hids hvalues hrules hdefaults hzeros hleft⟩

/-! ### What the first pass leaves behind -/

/-- A form and the values that it starts with. -/
structure Prefill where
  /-- The form. -/
  document : Document
  /-- The values. -/
  values : FormData

/-- What a session of the form shows after the values have been given, as the command line starts
it. -/
def Prefill.shown (p : Prefill) : Option Evaluation :=
  let w : World := { fileText := .error, sessionId := "session", clock := fun _ => .epoch }
  (Command.sessionOf w p.document p.values).toOption.map (·.evaluation)

/-- Whether the ids are distinct, there are values, all of them for fields of the form, and what is
shown has other fired rules or other data than what the snapshot leads to. -/
def Prefill.HasRemainder (p : Prefill) : Prop :=
  (p.document.fields.map (·.id)).Nodup ∧ p.values.isEmpty = false ∧
    (∀ id ∈ p.values.keys, id ∈ p.document.fields.map (·.id)) ∧
    let e := (settle priorityEngine p.document.fields p.document.logic
      (p.document.snapshot p.values)).value.evaluation
    p.shown.any fun shown => (shown.firedRules, shown.formData) ≠ (e.firedRules, e.formData)

instance (p : Prefill) : Decidable p.HasRemainder := inferInstanceAs (Decidable (_ ∧ _))

/-- A field that is neither calculated nor required, with a value to start with. -/
def Sample.entry (id : String) (kind : FieldKind) (defaultValue : Option Json) : Field :=
  { id, label := id, kind, defaultValue }

/-- Forms that start with values. -/
def Sample.prefills : List Prefill := [
  -- a rule sets a field while nothing is entered, and no rule takes the value away
  { document := form [entry "plan" .text none, entry "note" .text none]
      [{ conditions := [{ fieldId := "plan", operator := .isEmpty }]
         actions := [
          { kind := .setValue, targetFieldId := some "note"
            value := some (.text "Choose a plan") }] }]
    values := .ofList [("plan", .text "pro")] },
  -- the calculation has no value for the given number
  { document := form [entry "n" .number (some (.int 2)), calculated "share" "8 / n"] []
    values := .ofList [("n", .int 0)] },
  -- a rule tests the calculated field and sets another
  { document := form
      [entry "n" .number (some (.int 2)), entry "member" .checkbox none,
        calculated "price" "100 * n", entry "note" .text none]
      [{ conditions := [
          { fieldId := "price", operator := .greaterThan, value := some (.int 100) },
          { fieldId := "member", operator := .equals, value := some (.bool true) }]
         actions := [
          { kind := .setValue, targetFieldId := some "note", value := some (.text "large") }] }]
    values := .ofList [("member", .bool true), ("n", .int 1)] },
  -- a rule calculates another field from it
  { document := form
      [entry "n" .number (some (.int 2)), entry "member" .checkbox none,
        calculated "price" "100 * n", entry "peak" .number none]
      [{ conditions := [
          { fieldId := "peak", operator := .isEmpty },
          { fieldId := "member", operator := .equals, value := some (.bool true) }]
         actions := [
          { kind := .calculate, targetFieldId := some "peak", calculation := some "price" }] }]
    values := .ofList [("member", .bool true), ("n", .int 1)] },
  -- a calculated field before it depends on it
  { document := form
      [entry "n" .number (some (.int 4)), calculated "share" "1 / total", calculated "total" "n"] []
    values := .ofList [("n", .int 0), ("share", .int 5)] },
  -- the calculation depends on the field itself
  { document := form [entry "n" .number none, calculated "count" "count + 1"] []
    values := .ofList [("n", .int 1)] },
  -- the first run of the second pass changes nothing but the sign of a zero
  { document := form
      [calculated "total" "5", entry "member" .checkbox none,
        entry "tag" .other (some (.object [("sign", .float 0.0)]))]
      [{ conditions := [
          { fieldId := "member", operator := .equals, value := some (.bool true) },
          { fieldId := "tag", operator := .notContains, value := some (.text "-") }]
         actions := [
          { kind := .setValue, targetFieldId := some "tag"
            value := some (.object [("sign", .float (-0.0))]) }] }]
    values := .ofList [("member", .bool true)] }]

/-- A form need not show what its snapshot leads to. -/
theorem load_prefilled_remainder : Sample.prefills.Forall Prefill.HasRemainder := by
  decide +kernel

end LiveForm
