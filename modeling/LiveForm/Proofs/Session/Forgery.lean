import LiveForm.Proofs.Engine.Agreement
import LiveForm.Proofs.Session.History
import LiveForm.Proofs.Settlement.Trajectory

/-!
# Forged values of calculated fields

Whoever fills in a form may send any value for a calculated field. The first run of the pass writes
the value of its calculation over it, if there is one; so if nothing has carried the forged value to
another field by then, what was sent makes no difference to the session.
-/

namespace LiveForm

/-- No enabled rule sets a value in which a number is negative zero. -/
def RuleSet.HasPlainZeros (rules : RuleSet) : Prop :=
  ∀ r ∈ rules.rules, r.enabled → ∀ a ∈ r.actions, a.kind = .setValue → ∀ v ∈ a.value,
    v.HasPlainZeros

instance (rules : RuleSet) : Decidable rules.HasPlainZeros :=
  inferInstanceAs (Decidable (∀ r ∈ rules.rules, _))

/-- A run that writes a number over a forged value and leaves the data the same leaves it equal. -/
theorem eq_of_sameData_forged {fields : List Field} {rules : RuleSet} {c : Field}
    {data : FormData} (hrules : rules.HasPlainZeros) (hdata : FormData.HasPlainZeros data)
    {forged : Json} {x : Float}
    (hwritten : (priorityEngine fields rules (data.insert c.id forged)).value.formData.get? c.id =
      some (.ofNumber x))
    (hsame : sameData (priorityEngine fields rules (data.insert c.id forged)).value.formData
      (data.insert c.id forged)) :
    (priorityEngine fields rules (data.insert c.id forged)).value.formData =
      data.insert c.id forged := by
  have hvalue := sameValue_of_sameData hsame c.id
  rw [hwritten, SortedMap.get?_insert, if_pos rfl] at hvalue
  have hforged : forged = .ofNumber x := Json.eq_of_same_ofNumber hvalue
  have hplain : FormData.HasPlainZeros (data.insert c.id forged) :=
    forall_insert hdata c.id (hforged ▸ Json.hasPlainZeros_ofNumber x)
  exact eq_of_sameData hsame
    (forall_formData Json.hasPlainZeros_ofNumber hrules fields hplain) hplain

/-- Setting a calculated field to one value or to another leads to the same data and the same
evaluation, if the field is sheltered, its calculation has a value when the first run evaluates it,
and no number is negative zero. -/
theorem set_forged {d : Document} (hids : (d.fields.map (·.id)).Nodup) {c : Field}
    (hc : c ∈ d.fields) (hcalculated : c.isCalculated) {expression : String}
    (hexpression : c.calculation = some expression) (hsheltered : Sheltered d.fields d.logic c)
    (hrules : d.logic.HasPlainZeros) (sessionId : String) (clock : Nat → Timestamp)
    {s : Session Trace} (hdata : FormData.HasPlainZeros s.data) {x : Float}
    (hx : (Calculation.evaluate expression (d.fields.map (·.id))
      (dataAtTurn d.fields d.logic s.data c)).value = some x) (v v' : Json) :
    let w := d.setup sessionId clock
    ∃ t t', (w.setValue c.id v s).value = (.ok t.evaluation, t) ∧
      (w.setValue c.id v' s).value = (.ok t'.evaluation, t') ∧
      t.data = t'.data ∧ t.evaluation = t'.evaluation := by
  intro w
  have hmem : c.id ∈ w.fields.map (·.id) := List.mem_map_of_mem hc
  refine ⟨_, _, Setup.setValue_value hmem v s, Setup.setValue_value hmem v' s, ?_⟩
  have hrun (v : Json) := hsheltered.formData_eq hids hc hcalculated hexpression hx
    (agreeBeside_insert s.data c.id v)
  have hevaluation : (settle priorityEngine d.fields d.logic
        (s.data.insert c.id v)).value.evaluation =
      (settle priorityEngine d.fields d.logic (s.data.insert c.id v')).value.evaluation := by
    have hequal (v : Json) := eq_of_sameData_forged hrules hdata (hrun v).2
    refine settle_evaluation_congr (hrun v).1 (hrun v').1 ?_ ?_
    · rw [← (hrun v).1]
      exact hequal v
    · rw [← (hrun v').1]
      exact hequal v'
  rw [Setup.data_pass, Setup.data_pass, Setup.evaluation_pass, Setup.evaluation_pass]
  exact ⟨congrArg Evaluation.formData hevaluation, hevaluation⟩

/-- A session in which twelve pieces have been ordered. -/
def Sample.bulkSession : Session Trace :=
  let w := Sample.bulkOrder.setup "session" fun _ => .epoch
  (w.perform (w.start { id := "order" }).value (.load Sample.dozen)).value.2

/-- The total of a bulk order cannot be forged. -/
theorem set_forged_bulkOrder :
    let w := Sample.bulkOrder.setup "session" fun _ => .epoch
    let total : Field :=
      { id := "total", label := "Total", kind := .calculated,
        calculation := some "subtotal + shipping" }
    (Sample.bulkOrder.fields.map (·.id)).Nodup ∧ total ∈ Sample.bulkOrder.fields ∧
    Sheltered Sample.bulkOrder.fields Sample.bulkOrder.logic total ∧
    Sample.bulkOrder.logic.HasPlainZeros ∧ FormData.HasPlainZeros Sample.bulkSession.data ∧
    (Calculation.evaluate "subtotal + shipping" (Sample.bulkOrder.fields.map (·.id))
      (dataAtTurn Sample.bulkOrder.fields Sample.bulkOrder.logic Sample.bulkSession.data
        total)).value = some 114.0 ∧
    ∃ t t', (w.setValue "total" (.int 1) Sample.bulkSession).value = (.ok t.evaluation, t) ∧
      (w.setValue "total" (.text "free") Sample.bulkSession).value = (.ok t'.evaluation, t') ∧
      t.data = t'.data ∧ t.evaluation = t'.evaluation := by
  intro w total
  have hids : (Sample.bulkOrder.fields.map (·.id)).Nodup := by decide
  have hmem : total ∈ Sample.bulkOrder.fields := by decide
  have hwords : ∀ id ∈ Sample.bulkOrder.fields.map (·.id), Calculation.isWordId id := by
    decide +kernel
  have hsheltered : Sheltered Sample.bulkOrder.fields Sample.bulkOrder.logic total :=
    .of_not_mentions hwords (by decide) (by decide) (by decide +kernel) (by decide +kernel)
  have hrules : Sample.bulkOrder.logic.HasPlainZeros := by decide +kernel
  have hdata : FormData.HasPlainZeros Sample.bulkSession.data := by decide +kernel
  have hx : (Calculation.evaluate "subtotal + shipping" (Sample.bulkOrder.fields.map (·.id))
      (dataAtTurn Sample.bulkOrder.fields Sample.bulkOrder.logic Sample.bulkSession.data
        total)).value = some 114.0 := by decide +kernel
  exact ⟨hids, hmem, hsheltered, hrules, hdata, hx,
    set_forged hids hmem rfl rfl hsheltered hrules "session" (fun _ => .epoch) hdata hx (.int 1)
      (.text "free")⟩

/-! ### Ways to forge -/

/-- A form, a calculated field of it and two values for the field. -/
structure Forgery where
  /-- The form. -/
  document : Document
  /-- The id of the field. -/
  target : String
  /-- One value. -/
  first : Json
  /-- The other value. -/
  second : Json

/-- The session of the form that has just started, after the field has been set. -/
def Forgery.after (f : Forgery) (v : Json) : Option (Session Trace) :=
  let w := f.document.setup "session" fun _ => .epoch
  (Setup.unlessFailed (w.setValue f.target v (w.start { id := "trace" }).value).value).toOption

/-- Whether a calculated field is forged whose expression does not mention it, and yet the data or
the rules that have fired differ. -/
def Forgery.HasInfluence (f : Forgery) : Prop :=
  (f.document.fields.map (·.id)).Nodup ∧
    (∃ c ∈ f.document.fields, c.id = f.target ∧ c.isCalculated ∧
      ∃ expression ∈ c.calculation, Calculation.mentions expression c.id = false) ∧
    ((f.after f.first).map (·.data) ≠ (f.after f.second).map (·.data) ∨
      (f.after f.first).map (·.evaluation.firedRules) ≠
        (f.after f.second).map (·.evaluation.firedRules))

instance (f : Forgery) : Decidable f.HasInfluence := inferInstanceAs (Decidable (_ ∧ _))

/-- A form with some fields and rules. -/
def Sample.form (fields : List Field) (rules : List Rule) : Document where
  form := { id := "form", title := "Form" }
  fields := fields
  logic := { rules }

/-- A calculated field. -/
def Sample.calculated (id expression : String) : Field :=
  { id, label := id, kind := .calculated, calculation := some expression }

/-- Ways to forge a calculated field. -/
def Sample.forgeries : List Forgery := [
  -- the calculation has no value
  { document := form [calculated "total" "1 / 0"] []
    target := "total", first := .int 1, second := .int 2 },
  -- a rule tests the field and writes another
  { document := form
      [calculated "total" "5", { id := "note", label := "Note", kind := .text }]
      [{ conditions := [{ fieldId := "total", operator := .greaterThan, value := some (.int 100) }]
         actions := [
          { kind := .setValue, targetFieldId := some "note", value := some (.text "large") }] }]
    target := "total", first := .int 1, second := .int 200 },
  -- a rule calculates another field from it
  { document := form
      [calculated "total" "5", { id := "peak", label := "Peak", kind := .number }]
      [{ conditions := [{ fieldId := "peak", operator := .lessThan, value := some (.int 10) }]
         actions := [
          { kind := .calculate, targetFieldId := some "peak", calculation := some "total" }] }]
    target := "total", first := .int 1, second := .int 200 },
  -- a calculated field before it depends on it
  { document := form [calculated "share" "1 / total", calculated "total" "0"] []
    target := "total", first := .int 4, second := .int 5 },
  -- its id is found in the text of a number, where a 7 makes 17 of 1.5
  { document := form
      [{ id := "price", label := "Price", kind := .number, defaultValue := some (.float 1.5) },
       calculated ".5" "price-10"]
      []
    target := ".5", first := .int 7, second := .int 8 },
  -- the first run of the second pass changes nothing but the sign of a zero; that it is the first,
  -- and none of the eight of the first pass, the count tells, which goes up to eight
  { document := form
      [calculated "n" "n+1+0/(8-n)", calculated "total" "5",
       { id := "tag", label := "Tag", kind := .other
         defaultValue := some (.object [("sign", .float 0.0)]) }]
      [{ conditions := [
          { fieldId := "n", operator := .equals, value := some (.int 8) },
          { fieldId := "tag", operator := .notContains, value := some (.text "-") }]
         actions := [
          { kind := .setValue, targetFieldId := some "tag"
            value := some (.object [("sign", .float (-0.0))]) }] }]
    target := "total", first := .int 5, second := .int 6 }]

/-- The expression of a calculated field need not mention the field for a forged value of it to have
an influence. -/
theorem set_forged_influence : Sample.forgeries.Forall Forgery.HasInfluence := by
  decide +kernel

end LiveForm
