import LiveForm.Proofs.Calculation.Dependence
import LiveForm.Proofs.Engine.Turn

/-!
# Runs over data that differs in one value

The value of a calculated field reaches other fields through conditions that test it and through
calculations that read it before its own calculation has written it. Where no such way leads to the
value of another field, two runs over data that differs in that value alone still differ in it alone
when the field is evaluated. If its calculation has a value then, they do not differ at all.
-/

namespace LiveForm

/-- Whether two sets of data have the same values but for one id. -/
def AgreeBeside (id : String) (d d' : FormData) : Prop := ∀ k ≠ id, d.get? k = d'.get? k

/-- A calculated field is sheltered if its value reaches no other field and not itself. -/
structure Sheltered (fields : List Field) (rules : RuleSet) (c : Field) : Prop where
  /-- Enabled rules that test it write no other field. -/
  tests : ∀ r ∈ rules.rules, r.enabled → (∃ t ∈ r.conditions, t.fieldId = c.id) →
    ∀ a ∈ r.actions, a.IsWrite → ∀ id ∈ a.targetFieldId, id = c.id
  /-- Enabled rules calculate no other field from it. -/
  actions : ∀ r ∈ rules.rules, r.enabled → ∀ a ∈ r.actions, a.kind = .calculate →
    ∀ id ∈ a.targetFieldId, id ≠ c.id → ∀ expression ∈ a.calculation,
      Calculation.Ignores expression (fields.map (·.id)) {c.id}
  /-- Calculated fields before it do not depend on it. -/
  earlier : ∀ f ∈ fields, f.isCalculated → f.Precedes fields c → ∀ expression ∈ f.calculation,
    Calculation.Ignores expression (fields.map (·.id)) {c.id}
  /-- It does not depend on itself. -/
  itself : ∀ expression ∈ c.calculation,
    Calculation.Ignores expression (fields.map (·.id)) {c.id}

/-- Where the ids are words, a calculated field is sheltered if the calculations concerned do not
mention it. -/
theorem Sheltered.of_not_mentions {fields : List Field} {rules : RuleSet} {c : Field}
    (hwords : ∀ id ∈ fields.map (·.id), Calculation.isWordId id)
    (htests : ∀ r ∈ rules.rules, r.enabled → (∃ t ∈ r.conditions, t.fieldId = c.id) →
      ∀ a ∈ r.actions, a.IsWrite → ∀ id ∈ a.targetFieldId, id = c.id)
    (hactions : ∀ r ∈ rules.rules, r.enabled → ∀ a ∈ r.actions, a.kind = .calculate →
      ∀ id ∈ a.targetFieldId, id ≠ c.id → ∀ expression ∈ a.calculation,
        Calculation.mentions expression c.id = false)
    (hearlier : ∀ f ∈ fields, f.isCalculated → f.Precedes fields c → ∀ expression ∈ f.calculation,
      Calculation.mentions expression c.id = false)
    (hitself : ∀ expression ∈ c.calculation, Calculation.mentions expression c.id = false) :
    Sheltered fields rules c := by
  have hignores (expression : String) (h : Calculation.mentions expression c.id = false) :
      Calculation.Ignores expression (fields.map (·.id)) {c.id} :=
    (Calculation.ignores_unmentioned hwords expression).mono (Set.singleton_subset_iff.mpr h)
  exact {
    tests := htests
    actions := fun r hr henabled a ha hkind id hid hne expression he =>
      hignores expression (hactions r hr henabled a ha hkind id hid hne expression he)
    earlier := fun f hf hcalculated hprecedes expression he =>
      hignores expression (hearlier f hf hcalculated hprecedes expression he)
    itself := fun expression he => hignores expression (hitself expression he) }

section

variable {ids : List String} {id : String} {d d' : FormData}

/-- Data with another value for an id agrees with the data beside it. -/
theorem agreeBeside_insert (d : FormData) (id : String) (v : Json) :
    AgreeBeside id d (d.insert id v) := fun k hk => by simp [hk]

/-- An expression that ignores an id has the same value over data that agrees beside it. -/
theorem Calculation.Ignores.of_agreeBeside {expression : String}
    (h : Ignores expression ids {id}) (hd : AgreeBeside id d d') :
    (evaluate expression ids d).value = (evaluate expression ids d').value := by
  refine h d d' fun k hk => ?_
  unfold readNumber numberOf
  rw [hd k hk]

/-- A rule that does not test an id holds for data that agrees beside it, or for neither. -/
theorem Rule.holds_of_agreeBeside {r : Rule} (hr : ¬∃ t ∈ r.conditions, t.fieldId = id)
    (hd : AgreeBeside id d d') : r.holds d = r.holds d' :=
  Rule.holds_congr fun t ht => hd t.fieldId fun heq => hr ⟨t, ht, heq⟩

end

namespace Working

variable {ids : List String} {id : String} {w w' : Working}

/-- Two runs so far have states for the same fields, and data that agrees beside an id. -/
structure Alike (ids : List String) (id : String) (w w' : Working) : Prop where
  /-- The first has a state for each field of the form. -/
  left : w.Covers ids
  /-- So has the second. -/
  right : w'.Covers ids
  /-- The data agrees. -/
  data : AgreeBeside id w.data w'.data

theorem Alike.symm (h : Alike ids id w w') : Alike ids id w' w :=
  ⟨h.right, h.left, fun k hk => (h.data k hk).symm⟩

/-- An action whose calculation ignores the id, if it is for another field, keeps two runs alike. -/
theorem Alike.apply (h : Alike ids id w w') {a : Action}
    (ha : a.kind = .calculate → ∀ target ∈ a.targetFieldId, target ≠ id →
      ∀ expression ∈ a.calculation, Calculation.Ignores expression ids {id}) (r : Rule) :
    Alike ids id (apply ids r w a).value (apply ids r w' a).value where
  left := h.left.apply r a
  right := h.right.apply r a
  data k hk := by
    rw [get?_apply_data_eq, get?_apply_data_eq, h.data k hk, h.left k, h.right k]
    split
    case isTrue htarget =>
      have hwritten : a.written? ids w.data = a.written? ids w'.data :=
        Action.written?_congr fun hkind expression he =>
          (ha hkind k htarget.1 hk expression he).of_agreeBeside h.data
      rw [hwritten]
    case isFalse => rfl

/-- An action that writes no other field keeps two runs alike if only one of them applies it. -/
theorem Alike.apply_left (h : Alike ids id w w') {a : Action}
    (ha : a.IsWrite → ∀ target ∈ a.targetFieldId, target = id) (r : Rule) :
    Alike ids id (Working.apply ids r w a).value w' where
  left := h.left.apply r a
  right := h.right
  data k hk := by
    rw [get?_apply_data_of_not_isWrite fun hwrite htarget => hk (ha hwrite k htarget)]
    exact h.data k hk

/-- So do several such actions. -/
theorem Alike.after {steps : List (Rule × Action)} (h : Alike ids id w w')
    (hsteps : ∀ step ∈ steps, step.2.kind = .calculate → ∀ target ∈ step.2.targetFieldId,
      target ≠ id → ∀ expression ∈ step.2.calculation,
        Calculation.Ignores expression ids {id}) :
    Alike ids id (w.after ids steps) (w'.after ids steps) := by
  induction steps generalizing w w' with
  | nil => exact h
  | cons step steps ih =>
    exact ih (h.apply (hsteps step List.mem_cons_self) step.1)
      fun s hs => hsteps s (List.mem_cons_of_mem step hs)

/-- So do several such actions that only one run may apply. -/
theorem Alike.after_left {steps : List (Rule × Action)} (h : Alike ids id w w')
    (hsteps : ∀ step ∈ steps, step.2.IsWrite → ∀ target ∈ step.2.targetFieldId, target = id)
    (fires : Bool) : Alike ids id (if fires then w.after ids steps else w) w' := by
  have hafter : Alike ids id (w.after ids steps) w' := by
    induction steps generalizing w with
    | nil => exact h
    | cons step steps ih =>
      exact ih (h.apply_left (hsteps step List.mem_cons_self) step.1)
        fun s hs => hsteps s (List.mem_cons_of_mem step hs)
  split
  case isTrue => exact hafter
  case isFalse => exact h

/-- Of some rules the first fires, if its conditions hold, and then the others. -/
theorem after_filter_cons (holds : Rule → Bool) (r : Rule) (rules : List Rule) (w : Working) :
    w.after ids (((r :: rules).filter holds).flatMap Rule.steps) =
      (if holds r then w.after ids r.steps else w).after ids
        ((rules.filter holds).flatMap Rule.steps) := by
  by_cases h : holds r
  · simp [h, after_append]
  · simp [h]

/-- Firing rules over data that agrees beside an id keeps two runs alike, if those that test the id
write nothing else and the others calculate nothing else from it. -/
theorem Alike.fire {rules : List Rule} {d d' : FormData} (h : Alike ids id w w')
    (hd : AgreeBeside id d d')
    (htests : ∀ r ∈ rules, (∃ t ∈ r.conditions, t.fieldId = id) →
      ∀ a ∈ r.actions, a.IsWrite → ∀ target ∈ a.targetFieldId, target = id)
    (hactions : ∀ r ∈ rules, ∀ a ∈ r.actions, a.kind = .calculate →
      ∀ target ∈ a.targetFieldId, target ≠ id → ∀ expression ∈ a.calculation,
        Calculation.Ignores expression ids {id}) :
    Alike ids id (w.after ids ((rules.filter (·.holds d)).flatMap Rule.steps))
      (w'.after ids ((rules.filter (·.holds d')).flatMap Rule.steps)) := by
  induction rules generalizing w w' with
  | nil => exact h
  | cons r rules ih =>
    rw [after_filter_cons, after_filter_cons]
    refine ih ?_ (fun s hs => htests s (List.mem_cons_of_mem r hs))
      fun s hs => hactions s (List.mem_cons_of_mem r hs)
    have hof (step : Rule × Action) (hstep : step ∈ r.steps) : step.2 ∈ r.actions := by
      obtain ⟨a, ha, rfl⟩ := List.mem_map.mp hstep
      exact ha
    by_cases htest : ∃ t ∈ r.conditions, t.fieldId = id
    · -- the rule may fire in one run and not in the other
      have hwrites (step : Rule × Action) (hstep : step ∈ r.steps) :=
        htests r List.mem_cons_self htest step.2 (hof step hstep)
      exact ((h.after_left hwrites (r.holds d)).symm.after_left hwrites (r.holds d')).symm
    · rw [Rule.holds_of_agreeBeside htest hd]
      split
      case isTrue =>
        exact h.after fun step hstep => hactions r List.mem_cons_self step.2 (hof step hstep)
      case isFalse => exact h

/-- Evaluating a calculated field whose expression ignores an id keeps data in agreement beside
it. -/
theorem agreeBeside_refreshed {d d' : FormData} (hd : AgreeBeside id d d') {f : Field}
    (hf : ∀ expression ∈ f.calculation, Calculation.Ignores expression ids {id}) :
    AgreeBeside id (refreshed ids d f) (refreshed ids d' f) := by
  unfold refreshed
  cases hcalculation : f.calculation with
  | none => exact hd
  | some expression =>
    rw [Option.bind_some, Option.bind_some, (hf expression hcalculation).of_agreeBeside hd]
    cases (Calculation.evaluate expression ids d').value with
    | none => exact hd
    | some x =>
      intro k hk
      simp [hd k hk]

/-- So does evaluating several of them. -/
theorem agreeBeside_foldl_refreshed {fields : List Field} {d d' : FormData}
    (hd : AgreeBeside id d d')
    (hfields : ∀ f ∈ fields, ∀ expression ∈ f.calculation,
      Calculation.Ignores expression ids {id}) :
    AgreeBeside id (fields.foldl (refreshed ids) d) (fields.foldl (refreshed ids) d') := by
  induction fields generalizing d d' with
  | nil => exact hd
  | cons f fields ih =>
    exact ih (agreeBeside_refreshed hd (hfields f List.mem_cons_self))
      fun g hg => hfields g (List.mem_cons_of_mem f hg)

end Working

section

variable {fields : List Field} {rules : RuleSet} {c : Field} {d d' : FormData}

/-- What a sheltered field reads at its turn does not depend on the value that it had, and neither
does what the fields before it read. -/
theorem Sheltered.agreeBeside_turn (h : Sheltered fields rules c) (hd : AgreeBeside c.id d d')
    {f : Field} (hf : ¬c.Precedes fields f) :
    AgreeBeside c.id (dataAtTurn fields rules d f) (dataAtTurn fields rules d' f) := by
  have hstart : Working.Alike (fields.map (·.id)) c.id (Working.start fields d)
      (Working.start fields d') :=
    ⟨Working.covers_start fields d, Working.covers_start fields d', hd⟩
  have hfired : AgreeBeside c.id (dataAfterActions fields rules d)
      (dataAfterActions fields rules d') :=
    (hstart.fire hd
      (fun r hr => h.tests r (RuleSet.mem_ordered.mp hr).1 (RuleSet.mem_ordered.mp hr).2)
      fun r hr => h.actions r (RuleSet.mem_ordered.mp hr).1 (RuleSet.mem_ordered.mp hr).2).data
  refine Working.agreeBeside_foldl_refreshed hfired fun g hg => ?_
  have hbefore := List.mem_of_mem_filter hg
  have hprecedes : g.Precedes fields f := Field.mem_takeWhile_iff.mp hbefore
  exact h.earlier g (List.takeWhile_subset _ hbefore) (List.of_mem_filter hg)
    (Nat.lt_of_lt_of_le hprecedes (Nat.not_lt.mp hf))

/-- If the calculation of a sheltered field has a value at its turn, nothing that comes after it
depends on the value that the field had. -/
theorem Sheltered.refreshed_turn (h : Sheltered fields rules c)
    {expression : String} (hexpression : c.calculation = some expression) {x : Float}
    (hx : (Calculation.evaluate expression (fields.map (·.id))
      (dataAtTurn fields rules d c)).value = some x)
    (hd : AgreeBeside c.id d d') :
    Working.refreshed (fields.map (·.id)) (dataAtTurn fields rules d' c) c =
        Working.refreshed (fields.map (·.id)) (dataAtTurn fields rules d c) c ∧
      (Working.refreshed (fields.map (·.id)) (dataAtTurn fields rules d' c) c).get? c.id =
        some (.ofNumber x) := by
  have hturn := h.agreeBeside_turn hd (Nat.lt_irrefl (fields.idxOf c))
  have hx' : (Calculation.evaluate expression (fields.map (·.id))
      (dataAtTurn fields rules d' c)).value = some x := by
    rw [← hx, (h.itself expression hexpression).of_agreeBeside hturn]
  have hrefreshed (e : FormData) (he : (Calculation.evaluate expression (fields.map (·.id))
      (dataAtTurn fields rules e c)).value = some x) :
      Working.refreshed (fields.map (·.id)) (dataAtTurn fields rules e c) c =
        (dataAtTurn fields rules e c).insert c.id (.ofNumber x) := by
    rw [Working.refreshed, hexpression, Option.bind_some, he]
    rfl
  rw [hrefreshed d hx, hrefreshed d' hx']
  constructor
  · refine SortedMap.ext fun k => ?_
    rw [SortedMap.get?_insert, SortedMap.get?_insert]
    split
    case isTrue => rfl
    case isFalse hk => exact (hturn k hk).symm
  · simp

/-- A run writes the value of a sheltered field, if its calculation has one, whatever value it had,
and then nothing depends on that. -/
theorem Sheltered.formData_eq (h : Sheltered fields rules c) (hids : (fields.map (·.id)).Nodup)
    (hc : c ∈ fields) (hcalculated : c.isCalculated) {expression : String}
    (hexpression : c.calculation = some expression) {x : Float}
    (hx : (Calculation.evaluate expression (fields.map (·.id))
      (dataAtTurn fields rules d c)).value = some x)
    (hd : AgreeBeside c.id d d') :
    (priorityEngine fields rules d').value.formData =
        (priorityEngine fields rules d).value.formData ∧
      (priorityEngine fields rules d').value.formData.get? c.id = some (.ofNumber x) := by
  obtain ⟨hrefreshed, hwritten⟩ := h.refreshed_turn hexpression hx hd
  constructor
  · obtain ⟨behind, -, hdata⟩ := exists_behind hc hcalculated rules
    rw [hdata, hdata, hrefreshed]
  · rw [get?_calculated hids hc hcalculated, hwritten]

/-! ### Several fields -/

/-- The number that the calculation of a field gives when the field is evaluated, if it does. -/
def numberAtTurn? (fields : List Field) (rules : RuleSet) (data : FormData) (c : Field) :
    Option Float :=
  c.calculation.bind fun expression =>
    (Calculation.evaluate expression (fields.map (·.id)) (dataAtTurn fields rules data c)).value

/-- A run over some data supersedes the value of a calculated field: nothing else reads it, and the
run writes another. -/
structure Superseded (fields : List Field) (rules : RuleSet) (data : FormData) (c : Field) :
    Prop where
  /-- The form has the field. -/
  mem : c ∈ fields
  /-- It is calculated. -/
  isCalculated : c.isCalculated
  /-- Its value reaches no other field and not itself. -/
  sheltered : Sheltered fields rules c
  /-- Its calculation gives a number. -/
  hasNumber : (numberAtTurn? fields rules data c).isSome

namespace Superseded

/-- The number comes from an expression. -/
theorem exists_number (h : Superseded fields rules d c) :
    ∃ expression x, c.calculation = some expression ∧
      (Calculation.evaluate expression (fields.map (·.id))
        (dataAtTurn fields rules d c)).value = some x := by
  obtain ⟨x, hx⟩ := Option.isSome_iff_exists.mp h.hasNumber
  obtain ⟨expression, hexpression, hvalue⟩ := Option.bind_eq_some_iff.mp hx
  exact ⟨expression, x, hexpression, hvalue⟩

/-- A run makes the same of data that differs in a superseded value. -/
theorem formData_eq (h : Superseded fields rules d c) (hids : (fields.map (·.id)).Nodup)
    (hd : AgreeBeside c.id d d') :
    (priorityEngine fields rules d').value.formData =
      (priorityEngine fields rules d).value.formData := by
  obtain ⟨expression, x, hexpression, hx⟩ := h.exists_number
  exact (h.sheltered.formData_eq hids h.mem h.isCalculated hexpression hx hd).1

/-- Calculations give the same numbers over data that differs in a superseded value. -/
theorem numberAtTurn?_eq (h : Superseded fields rules d c) (hd : AgreeBeside c.id d d') {f : Field}
    (hf : f ∈ fields) (hcalculated : f.isCalculated) :
    numberAtTurn? fields rules d' f = numberAtTurn? fields rules d f := by
  unfold numberAtTurn?
  cases hcalculation : f.calculation with
  | none => rw [Option.bind_none, Option.bind_none]
  | some expression =>
    rw [Option.bind_some, Option.bind_some]
    by_cases hprecedes : c.Precedes fields f
    · obtain ⟨expression', x, hexpression, hx⟩ := h.exists_number
      obtain ⟨between, hbetween⟩ := exists_between h.isCalculated hprecedes rules
      rw [hbetween, hbetween, (h.sheltered.refreshed_turn hexpression hx hd).1]
    · have hignores : Calculation.Ignores expression (fields.map (·.id)) {c.id} := by
        by_cases heq : f = c
        · subst heq
          exact h.sheltered.itself expression hcalculation
        · have hearlier : f.Precedes fields c :=
            (Field.precedes_or_precedes hf heq).resolve_right hprecedes
          exact h.sheltered.earlier f hf hcalculated hearlier expression hcalculation
      exact (hignores.of_agreeBeside (h.sheltered.agreeBeside_turn hd hprecedes)).symm

/-- What is superseded over data is so over data that differs in another superseded value. -/
theorem congr (h : Superseded fields rules d c) (hd : AgreeBeside c.id d d') {f : Field}
    (hf : Superseded fields rules d f) : Superseded fields rules d' f where
  mem := hf.mem
  isCalculated := hf.isCalculated
  sheltered := hf.sheltered
  hasNumber := by
    rw [h.numberAtTurn?_eq hd hf.mem hf.isCalculated]
    exact hf.hasNumber

end Superseded

/-- A run makes the same of data that differs in superseded values only. -/
theorem formData_eq_of_superseded (hids : (fields.map (·.id)).Nodup) {differing : List String}
    (hd : ∀ id ∉ differing, d'.get? id = d.get? id)
    (hdiffering : ∀ id ∈ differing, ∃ c, c.id = id ∧ Superseded fields rules d c) :
    (priorityEngine fields rules d').value.formData =
      (priorityEngine fields rules d).value.formData := by
  -- the values are changed one after another, and those that are left stay superseded
  induction differing generalizing d with
  | nil =>
    have heq : d' = d := SortedMap.ext fun id => hd id List.not_mem_nil
    rw [heq]
  | cons id differing ih =>
    obtain ⟨c, rfl, hc⟩ := hdiffering id List.mem_cons_self
    obtain ⟨next, hnext, hkept⟩ := SortedMap.exists_update d c.id (d'.get? c.id)
    have hagree : AgreeBeside c.id d next := fun k hk => (hkept k hk).symm
    rw [← hc.formData_eq hids hagree]
    refine ih (fun k hk => ?_) fun k hk => ?_
    · by_cases heq : k = c.id
      · rw [heq, hnext]
      · rw [hkept k heq]
        exact hd k (List.not_mem_cons_of_ne_of_not_mem heq hk)
    · obtain ⟨f, hfid, hf⟩ := hdiffering k (List.mem_cons_of_mem _ hk)
      exact ⟨f, hfid, hc.congr hagree hf⟩

end

end LiveForm
