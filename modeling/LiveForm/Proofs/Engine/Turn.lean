import LiveForm.Proofs.Engine.Frame

/-!
# The turn of a calculated field

Calculated fields are evaluated one after another, over data that the actions have been applied to.
So a calculated field reads the final values of the calculated fields before it, and the values
after the actions of itself and of those behind it. Actions change only what a `set_value` or
`calculate` action is about.
-/

namespace LiveForm

/-! ### Actions that write -/

/-- Whether an action is there to write a value. -/
def Action.IsWrite (a : Action) : Prop := a.kind = .setValue ∨ a.kind = .calculate

instance (a : Action) : Decidable a.IsWrite := inferInstanceAs (Decidable (_ ∨ _))

/-- Whether an enabled rule has an action that writes the value of a field. -/
def RuleSet.Writes (rules : RuleSet) (id : String) : Prop :=
  ∃ r ∈ rules.rules, r.enabled ∧ ∃ a ∈ r.actions, a.IsWrite ∧ a.targetFieldId = some id

instance (rules : RuleSet) (id : String) : Decidable (rules.Writes id) :=
  inferInstanceAs (Decidable (∃ r ∈ rules.rules, _))

/-- The rules of a set that have one of some ids. -/
def RuleSet.among (rules : RuleSet) (ids : List String) : RuleSet :=
  { rules with rules := rules.rules.filter (ids.contains ·.id) }

/-- What some of the rules write the rules write. -/
theorem RuleSet.Writes.of_among {rules : RuleSet} {ids : List String} {id : String}
    (h : (rules.among ids).Writes id) : rules.Writes id := by
  obtain ⟨r, hr, hwrites⟩ := h
  exact ⟨r, List.mem_of_mem_filter hr, hwrites⟩

/-- An action that is not there to write writes nothing. -/
theorem Action.written?_of_not_isWrite {a : Action} (h : ¬a.IsWrite) (ids : List String)
    (data : FormData) : a.written? ids data = none := by
  unfold Action.written?
  split
  case h_1 hkind => exact absurd (.inl hkind) h
  case h_2 hkind => exact absurd (.inr hkind) h
  case h_3 => rfl

/-- The rules that are applied are the enabled ones. -/
theorem RuleSet.mem_ordered {s : RuleSet} {r : Rule} : r ∈ s.ordered ↔ r ∈ s.rules ∧ r.enabled := by
  rw [ordered, List.mem_mergeSort, List.mem_filter]

/-- The actions that are applied are those of enabled rules. -/
theorem RuleSet.of_mem_steps {s : RuleSet} {data : FormData} {r : Rule} {a : Action}
    (h : (r, a) ∈ s.steps data) : r ∈ s.rules ∧ r.enabled ∧ a ∈ r.actions := by
  obtain ⟨r', hr', hstep⟩ := List.mem_flatMap.mp h
  obtain ⟨a', ha', heq⟩ := List.mem_map.mp hstep
  cases heq
  obtain ⟨hrule, henabled⟩ := mem_ordered.mp (List.mem_of_mem_filter hr')
  exact ⟨hrule, henabled, ha'⟩

namespace Working

variable {ids : List String}

/-- An action gives its target what it writes, if it writes something and the target is defined, and
leaves every other value as it is. -/
theorem get?_apply_data_eq (r : Rule) (w : Working) (a : Action) (id : String) :
    (apply ids r w a).value.data.get? id =
      (if a.targetFieldId = some id ∧ w.states.contains id then a.written? ids w.data
        else none).or (w.data.get? id) := by
  rw [apply_data, write?]
  cases a.targetFieldId with
  | none => simp
  | some target =>
    rw [Option.bind_some]
    by_cases hid : target = id
    · subst hid
      by_cases hdefined : w.states.contains target
      · cases a.written? ids w.data <;> simp [hdefined]
      · simp [hdefined]
    · have hne : id ≠ target := Ne.symm hid
      split
      · cases a.written? ids w.data <;> simp [hid, hne]
      · simp [hid]

/-- What an action writes is a value for its target. -/
theorem of_write?_eq_some {w : Working} {a : Action} {e : String × Json}
    (h : w.write? ids a = some e) :
    a.targetFieldId = some e.1 ∧ a.written? ids w.data = some e.2 := by
  obtain ⟨target, htarget, he⟩ := Option.bind_eq_some_iff.mp h
  split at he
  case isTrue =>
    obtain ⟨v, hv, rfl⟩ := Option.map_eq_some_iff.mp he
    exact ⟨htarget, hv⟩
  case isFalse => cases he

/-- An action leaves every value as it is but the one that it writes. -/
theorem get?_apply_data_of_not_isWrite {a : Action} {id : String}
    (h : a.IsWrite → a.targetFieldId ≠ some id) (r : Rule) (w : Working) :
    (apply ids r w a).value.data.get? id = w.data.get? id := by
  rw [get?_apply_data_eq]
  by_cases hwrite : a.IsWrite
  · rw [if_neg fun htarget => h hwrite htarget.1, Option.none_or]
  · rw [Action.written?_of_not_isWrite hwrite, ite_self, Option.none_or]

/-- Actions leave every value as it is but those that one of them writes. -/
theorem get?_after_data {steps : List (Rule × Action)} {id : String}
    (h : ∀ step ∈ steps, step.2.IsWrite → step.2.targetFieldId ≠ some id) (w : Working) :
    (w.after ids steps).data.get? id = w.data.get? id := by
  induction steps generalizing w with
  | nil => rfl
  | cons step steps ih =>
    rw [after_cons, ih fun s hs => h s (List.mem_cons_of_mem step hs),
      get?_apply_data_of_not_isWrite (h step List.mem_cons_self)]

end Working

/-- The data of a run after its actions, before any calculated field is evaluated. -/
def dataAfterActions (fields : List Field) (rules : RuleSet) (data : FormData) : FormData :=
  ((Working.start fields data).after (fields.map (·.id)) (rules.steps data)).data

/-- A run reports the rule of every action that it applies. -/
theorem id_mem_firedRules {fields : List Field} {rules : RuleSet} {data : FormData} {r : Rule}
    {a : Action} (h : (r, a) ∈ rules.steps data) :
    r.id ∈ (priorityEngine fields rules data).value.firedRules := by
  obtain ⟨r', hr', hstep⟩ := List.mem_flatMap.mp h
  obtain ⟨a', -, heq⟩ := List.mem_map.mp hstep
  cases heq
  rw [priorityEngine_value]
  exact List.mem_map_of_mem hr'

/-- The actions of a run change only values that a rule which it reports writes. -/
theorem get?_dataAfterActions_of_firedRules {fields : List Field} {rules : RuleSet}
    {data : FormData} {id : String}
    (h : ¬(rules.among (priorityEngine fields rules data).value.firedRules).Writes id) :
    (dataAfterActions fields rules data).get? id = data.get? id := by
  refine Working.get?_after_data (fun ⟨r, a⟩ hstep hwrite htarget => h ?_) _
  obtain ⟨hrule, henabled, ha⟩ := RuleSet.of_mem_steps hstep
  have hfired : r.id ∈ (priorityEngine fields rules data).value.firedRules :=
    id_mem_firedRules hstep
  exact ⟨r, List.mem_filter.mpr ⟨hrule, List.contains_iff_mem.mpr hfired⟩, henabled, a, ha, hwrite,
    htarget⟩

/-- So they change only values that an enabled rule writes. -/
theorem get?_dataAfterActions {rules : RuleSet} {id : String} (h : ¬rules.Writes id)
    (fields : List Field) (data : FormData) :
    (dataAfterActions fields rules data).get? id = data.get? id :=
  get?_dataAfterActions_of_firedRules fun hwrites => h hwrites.of_among

/-- The data of a run is that after the actions, with all calculated fields evaluated. -/
theorem priorityEngine_formData (fields : List Field) (rules : RuleSet) (data : FormData) :
    (priorityEngine fields rules data).value.formData =
      (fields.filter (·.isCalculated)).foldl (Working.refreshed (fields.map (·.id)))
        (dataAfterActions fields rules data) := by
  rw [priorityEngine_value, Working.foldl_refresh]
  rfl

/-! ### Turns -/

namespace Field

/-- Whether a field is defined before another. -/
def Precedes (fields : List Field) (f g : Field) : Prop := fields.idxOf f < fields.idxOf g

instance (fields : List Field) (f g : Field) : Decidable (Precedes fields f g) :=
  inferInstanceAs (Decidable (_ < _))

/-- The fields before a field come first, and it ends them. -/
theorem mem_takeWhile_iff {fields : List Field} {f g : Field} :
    f ∈ fields.takeWhile (· ≠ g) ↔ Precedes fields f g := by
  unfold Precedes
  induction fields with
  | nil => simp
  | cons e fields ih =>
    by_cases hg : e = g
    · simp [hg]
    · have htake : (e :: fields).takeWhile (· ≠ g) = e :: fields.takeWhile (· ≠ g) :=
        List.takeWhile_cons_of_pos (decide_eq_true hg)
      rw [htake, List.mem_cons, ih, List.idxOf_cons_ne fields hg]
      by_cases hf : e = f
      · simp [hf]
      · rw [List.idxOf_cons_ne fields hf, eq_comm]
        simp [hf]

/-- Of two different fields one is defined before the other. -/
theorem precedes_or_precedes {fields : List Field} {f g : Field} (hf : f ∈ fields) (hne : f ≠ g) :
    Precedes fields f g ∨ Precedes fields g f := by
  unfold Precedes
  have hidx : fields.idxOf f ≠ fields.idxOf g := fun h => hne ((List.idxOf_inj hf).mp h)
  omega

end Field

/-- The data that a calculated field reads when it is evaluated: the actions have been applied, and
the calculated fields before it evaluated. -/
def dataAtTurn (fields : List Field) (rules : RuleSet) (data : FormData) (c : Field) : FormData :=
  ((fields.takeWhile (· ≠ c)).filter (·.isCalculated)).foldl
    (Working.refreshed (fields.map (·.id))) (dataAfterActions fields rules data)

section

variable {fields : List Field} {rules : RuleSet} {data : FormData} {c : Field}

/-- At its turn a calculated field is evaluated; then come the calculated fields behind it. -/
theorem exists_behind (hc : c ∈ fields) (hcalculated : c.isCalculated) (rules : RuleSet) :
    ∃ behind, fields = fields.takeWhile (· ≠ c) ++ c :: behind ∧
      ∀ data, (priorityEngine fields rules data).value.formData =
        (behind.filter (·.isCalculated)).foldl (Working.refreshed (fields.map (·.id)))
          (Working.refreshed (fields.map (·.id)) (dataAtTurn fields rules data c) c) := by
  obtain ⟨before, behind, hsplit, hbefore⟩ := List.eq_append_cons_of_mem hc
  have hne : ∀ f ∈ before, decide (f ≠ c) = true := fun f hf =>
    decide_eq_true (ne_of_mem_of_not_mem hf hbefore)
  have htake : fields.takeWhile (· ≠ c) = before := by
    rw [hsplit, List.takeWhile_append_of_pos hne]
    simp
  refine ⟨behind, by rw [htake, ← hsplit], fun data => ?_⟩
  rw [priorityEngine_formData, dataAtTurn, htake, hsplit, List.filter_append,
    List.filter_cons_of_pos hcalculated, List.foldl_append, List.foldl_cons]

/-- At its turn a calculated field is evaluated; then come the calculated fields between it and a
later field. -/
theorem exists_between (hcalculated : c.isCalculated) {f : Field} (hprecedes : c.Precedes fields f)
    (rules : RuleSet) :
    ∃ between : List Field, ∀ data, dataAtTurn fields rules data f =
      (between.filter (·.isCalculated)).foldl (Working.refreshed (fields.map (·.id)))
        (Working.refreshed (fields.map (·.id)) (dataAtTurn fields rules data c) c) := by
  obtain ⟨before, between, hsplit, hbefore⟩ :=
    List.eq_append_cons_of_mem (Field.mem_takeWhile_iff.mpr hprecedes)
  have hne : ∀ g ∈ before, decide (g ≠ c) = true := fun g hg =>
    decide_eq_true (ne_of_mem_of_not_mem hg hbefore)
  have htake : fields.takeWhile (· ≠ c) = before := by
    rw [← List.takeWhile_append_dropWhile (p := (· ≠ f)) (l := fields), hsplit, List.append_assoc,
      List.takeWhile_append_of_pos hne]
    simp
  refine ⟨between, fun data => ?_⟩
  rw [dataAtTurn, dataAtTurn, htake, hsplit, List.filter_append,
    List.filter_cons_of_pos hcalculated, List.foldl_append, List.foldl_cons]

/-- Fields behind a field are not before it. -/
theorem not_precedes_of_mem_behind (hids : (fields.map (·.id)).Nodup) {behind : List Field}
    (hsplit : fields = fields.takeWhile (· ≠ c) ++ c :: behind) {f : Field} (hf : f ∈ behind) :
    ¬f.Precedes fields c := by
  intro hprecedes
  rw [hsplit] at hids
  have hnodup := List.nodup_append.mp hids.of_map
  exact hnodup.2.2 f (Field.mem_takeWhile_iff.mpr hprecedes) f (List.mem_cons_of_mem c hf) rfl

/-- A calculated field ends up with what its calculation gives at its turn. -/
theorem get?_calculated (hids : (fields.map (·.id)).Nodup) (hc : c ∈ fields)
    (hcalculated : c.isCalculated) :
    (priorityEngine fields rules data).value.formData.get? c.id =
      (Working.refreshed (fields.map (·.id)) (dataAtTurn fields rules data c) c).get? c.id := by
  obtain ⟨behind, hsplit, hdata⟩ := exists_behind hc hcalculated rules
  rw [hdata, Working.get?_foldl_refreshed]
  rw [hsplit, List.map_append, List.map_cons] at hids
  have hrest := (List.nodup_cons.mp (List.nodup_append.mp hids).2.1).1
  exact fun hmem => hrest (List.map_subset _ (List.filter_subset_self behind) hmem)

/-- At its turn a calculated field reads the final values, but for those of itself and of the
calculated fields behind it. -/
theorem get?_dataAtTurn (hids : (fields.map (·.id)).Nodup) (hc : c ∈ fields)
    (hcalculated : c.isCalculated) {id : String}
    (hid : ∀ f ∈ fields, f.isCalculated → f.id = id → f.Precedes fields c) :
    (dataAtTurn fields rules data c).get? id =
      (priorityEngine fields rules data).value.formData.get? id := by
  obtain ⟨behind, hsplit, hdata⟩ := exists_behind hc hcalculated rules
  have hself : id ≠ c.id := fun heq => absurd (hid c hc hcalculated heq.symm) (Nat.lt_irrefl _)
  rw [hdata, Working.get?_foldl_refreshed, Working.get?_refreshed _ hself]
  intro hmem
  obtain ⟨f, hf, rfl⟩ := List.mem_map.mp hmem
  have hbehind := List.mem_of_mem_filter hf
  have hfields : f ∈ fields := by
    rw [hsplit]
    exact List.mem_append_right _ (List.mem_cons_of_mem c hbehind)
  exact not_precedes_of_mem_behind hids hsplit hbehind
    (hid f hfields (List.of_mem_filter hf) rfl)

/-- At its turn a calculated field reads what the actions have left, but for the calculated fields
before it. -/
theorem get?_dataAtTurn_of_not_precedes {id : String}
    (hid : ∀ f ∈ fields, f.isCalculated → f.id = id → ¬f.Precedes fields c) :
    (dataAtTurn fields rules data c).get? id = (dataAfterActions fields rules data).get? id := by
  rw [dataAtTurn, Working.get?_foldl_refreshed]
  intro hmem
  obtain ⟨f, hf, rfl⟩ := List.mem_map.mp hmem
  have hbefore := List.mem_of_mem_filter hf
  exact hid f (List.takeWhile_subset _ hbefore) (List.of_mem_filter hf) rfl
    (Field.mem_takeWhile_iff.mp hbefore)

/-- What is not the value of a calculated field ends up as the actions have left it. -/
theorem get?_formData_of_not_calculated {id : String}
    (hid : ∀ f ∈ fields, f.isCalculated → f.id ≠ id) :
    (priorityEngine fields rules data).value.formData.get? id =
      (dataAfterActions fields rules data).get? id := by
  rw [priorityEngine_formData, Working.get?_foldl_refreshed]
  intro hmem
  obtain ⟨f, hf, rfl⟩ := List.mem_map.mp hmem
  exact hid f (List.mem_of_mem_filter hf) (List.of_mem_filter hf) rfl

end

/-! ### Kinds of values -/

section

variable {P : Json → Prop}

/-- The values of data with one more entry are that of the entry and those of the data. -/
theorem forall_insert {d : FormData} (hd : ∀ e ∈ d.toList, P e.2) (k : String) {v : Json}
    (hv : P v) : ∀ e ∈ (d.insert k v).toList, P e.2 := by
  intro e he
  rcases SortedMap.mem_place he with rfl | he
  · exact hv
  · exact hd e he

namespace Working

variable {ids : List String}

/-- What an action writes is a number, or the value that it sets. -/
theorem forall_written? (hnumber : ∀ x, P (.ofNumber x)) {a : Action}
    (hset : a.kind = .setValue → ∀ v ∈ a.value, P v) {d : FormData} {v : Json}
    (hv : a.written? ids d = some v) : P v := by
  unfold Action.written? at hv
  split at hv
  case h_1 hkind => exact hset hkind v hv
  case h_2 =>
    obtain ⟨_, _, hvalue⟩ := Option.bind_eq_some_iff.mp hv
    obtain ⟨x, _, rfl⟩ := Option.map_eq_some_iff.mp hvalue
    exact hnumber x
  case h_3 => cases hv

/-- Actions keep a property that numbers have and that the values have which they set. -/
theorem forall_after (hnumber : ∀ x, P (.ofNumber x)) {steps : List (Rule × Action)}
    (hset : ∀ step ∈ steps, step.2.kind = .setValue → ∀ v ∈ step.2.value, P v) {w : Working}
    (hw : ∀ e ∈ w.data.toList, P e.2) : ∀ e ∈ (w.after ids steps).data.toList, P e.2 := by
  induction steps generalizing w with
  | nil => exact hw
  | cons step steps ih =>
    refine ih (fun s hs => hset s (List.mem_cons_of_mem step hs)) ?_
    rw [apply_data]
    cases hwrite : w.write? ids step.2 with
    | none => exact hw
    | some e =>
      exact forall_insert hw e.1
        (forall_written? hnumber (hset step List.mem_cons_self) (of_write?_eq_some hwrite).2)

/-- Evaluating calculated fields keeps a property that numbers have. -/
theorem forall_foldl_refreshed (hnumber : ∀ x, P (.ofNumber x)) (cs : List Field) {d : FormData}
    (hd : ∀ e ∈ d.toList, P e.2) : ∀ e ∈ (cs.foldl (refreshed ids) d).toList, P e.2 := by
  induction cs generalizing d with
  | nil => exact hd
  | cons c cs ih =>
    refine ih ?_
    unfold refreshed
    cases c.calculation.bind fun expression => (Calculation.evaluate expression ids d).value with
    | none => exact hd
    | some x => exact forall_insert hd c.id (hnumber x)

end Working

/-- A run keeps a property of values that numbers have and that the values have which its rules
set. -/
theorem forall_formData (hnumber : ∀ x, P (.ofNumber x)) {rules : RuleSet}
    (hset : ∀ r ∈ rules.rules, r.enabled → ∀ a ∈ r.actions, a.kind = .setValue →
      ∀ v ∈ a.value, P v)
    (fields : List Field) {data : FormData} (hdata : ∀ e ∈ data.toList, P e.2) :
    ∀ e ∈ (priorityEngine fields rules data).value.formData.toList, P e.2 := by
  rw [priorityEngine_formData]
  refine Working.forall_foldl_refreshed hnumber _
    (Working.forall_after hnumber (fun step hstep => ?_) hdata)
  obtain ⟨hrule, henabled, ha⟩ := RuleSet.of_mem_steps hstep
  exact hset step.1 hrule henabled step.2 ha

end

end LiveForm
