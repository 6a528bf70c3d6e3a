import LiveForm.Proofs.Calculation.Dependence
import LiveForm.Proofs.Engine.Turn
import LiveForm.Proofs.Settlement.Trajectory
import Mathlib.Data.List.Chain
import Mathlib.Logic.Relation
import Mathlib.Order.Lattice.Nat

/-!
# Chains of references

A calculated field reads the calculated fields before it as they are in the same run, and those
behind it as they were in the run before. So where nothing but calculations writes values, a field
is as it will be one run after the fields behind it that it refers to, and in the same run as those
before it. Without cycles, all fields are as they will be after one run more than there are steps to
a later field in any chain of references.
-/

namespace LiveForm

namespace Field

/-- Whether a calculated field refers to another: its expression mentions the id. -/
def References (fields : List Field) (f g : Field) : Prop :=
  f ∈ fields ∧ f.isCalculated ∧ g ∈ fields ∧ g.isCalculated ∧
    ∃ expression ∈ f.calculation, Calculation.mentions expression g.id

instance (fields : List Field) (f g : Field) : Decidable (f.References fields g) :=
  inferInstanceAs (Decidable (_ ∧ _))

/-- How many steps in a chain of fields go to a field that is defined later. -/
def forwardSteps (fields : List Field) : List Field → Nat
  | f :: g :: chain => (if f.Precedes fields g then 1 else 0) + forwardSteps fields (g :: chain)
  | _ => 0

/-- All chains of references from a field have fewer steps than a bound, and no more than so many of
them go to a later field. -/
def ChainsWithin (fields : List Field) (steps forward : Nat) (f : Field) : Prop :=
  ∀ chain, (f :: chain).IsChain (References fields) →
    chain.length < steps ∧ forwardSteps fields (f :: chain) ≤ forward

section

variable {fields : List Field} {f g : Field} {chain : List Field} {steps forward : Nat}

/-- A reference leads to a field with chains that are shorter by one step. -/
theorem ChainsWithin.step (h : ChainsWithin fields (steps + 1) forward f)
    (hfg : References fields f g) : ChainsWithin fields steps forward g := by
  intro chain hchain
  obtain ⟨hlength, hforward⟩ := h (g :: chain) (hchain.cons_cons hfg)
  rw [forwardSteps] at hforward
  rw [List.length_cons] at hlength
  omega

/-- A reference to a later field takes one of the steps to later fields. -/
theorem ChainsWithin.forwardStep (h : ChainsWithin fields (steps + 1) forward f)
    (hfg : References fields f g) (hprecedes : f.Precedes fields g) :
    ∃ rest, forward = rest + 1 ∧ ChainsWithin fields steps rest g := by
  have hone (chain : List Field) (hchain : (g :: chain).IsChain (References fields)) :
      chain.length < steps ∧ forwardSteps fields (g :: chain) + 1 ≤ forward := by
    obtain ⟨hlength, hforward⟩ := h (g :: chain) (hchain.cons_cons hfg)
    rw [forwardSteps, if_pos hprecedes] at hforward
    rw [List.length_cons] at hlength
    omega
  have hpositive := (hone [] (.singleton g)).2
  refine ⟨forward - 1, by omega, fun chain hchain => ?_⟩
  obtain ⟨hlength, hforward⟩ := hone chain hchain
  omega

/-- A chain has at most as many steps to later fields as steps. -/
theorem forwardSteps_le (fields : List Field) (f : Field) (chain : List Field) :
    forwardSteps fields (f :: chain) ≤ chain.length := by
  induction chain generalizing f with
  | nil => exact le_rfl
  | cons g chain ih =>
    have hrest := ih g
    rw [forwardSteps, List.length_cons]
    split <;> omega

/-- Without cycles a chain of references visits no field twice, so it is not longer than the list of
fields. -/
theorem length_le_of_isChain (hacyclic : ∀ f, ¬Relation.TransGen (References fields) f f)
    (h : (f :: chain).IsChain (References fields)) : chain.length ≤ fields.length := by
  have hpairwise : (f :: chain).Pairwise (Relation.TransGen (References fields)) :=
    (h.imp fun _ _ => .single).pairwise
  obtain ⟨hfirst, hrest⟩ := List.pairwise_cons.mp hpairwise
  have hnodup : chain.Nodup := by
    refine hrest.imp fun hgg' => ?_
    rintro rfl
    exact hacyclic _ hgg'
  refine (hnodup.subperm fun g hg => ?_).length_le
  cases hfirst g hg with
  | single hfg => exact hfg.2.2.1
  | tail _ hfg => exact hfg.2.2.1

/-- Where every reference is to an earlier field, no step goes to a later one. -/
theorem forwardSteps_eq_zero (hback : ∀ f g, References fields f g → g.Precedes fields f)
    (h : chain.IsChain (References fields)) : forwardSteps fields chain = 0 := by
  induction h with
  | nil | singleton f => rfl
  | @cons_cons f g chain hfg _ ih =>
    have hnot : ¬f.Precedes fields g := Nat.not_lt_of_gt (hback f g hfg)
    rw [forwardSteps, if_neg hnot, ih]

/-- The numbers of steps to later fields in the chains of references. -/
def forwardCounts (fields : List Field) : Set Nat :=
  {n | ∃ chain : List Field, chain.IsChain (References fields) ∧ forwardSteps fields chain = n}

/-- Without cycles there is a greatest number of steps to later fields in a chain of references. -/
theorem exists_isGreatest_forwardCounts
    (hacyclic : ∀ f, ¬Relation.TransGen (References fields) f f) :
    ∃ most, IsGreatest (forwardCounts fields) most := by
  have hne : (forwardCounts fields).Nonempty := ⟨0, [], .nil, rfl⟩
  have hbounded : BddAbove (forwardCounts fields) := by
    refine ⟨fields.length, ?_⟩
    rintro n ⟨chain, hchain, rfl⟩
    cases chain with
    | nil => exact Nat.zero_le _
    | cons f chain =>
      exact (forwardSteps_le fields f chain).trans (length_le_of_isChain hacyclic hchain)
  exact ⟨_, Nat.sSup_mem hne hbounded, fun n hn => le_csSup hbounded hn⟩

/-- Without cycles all chains are within the greatest number of steps to later fields. -/
theorem chainsWithin_of_isGreatest (hacyclic : ∀ f, ¬Relation.TransGen (References fields) f f)
    {most : Nat} (hmost : IsGreatest (forwardCounts fields) most) (f : Field) :
    ChainsWithin fields (fields.length + 1) most f := fun chain hchain =>
  ⟨Nat.lt_succ_of_le (length_le_of_isChain hacyclic hchain), hmost.2 ⟨f :: chain, hchain, rfl⟩⟩

end

end Field

/-! ### Runs -/

section

variable {fields : List Field} {rules : RuleSet} {c : Field}

/-- Where no rule writes values, a run leaves what is not the value of a calculated field as it
is. -/
theorem get?_formData_of_not_writes (hwrites : ∀ id, ¬rules.Writes id) (data : FormData)
    {id : String} (hid : ∀ f ∈ fields, f.isCalculated → f.id ≠ id) :
    (priorityEngine fields rules data).value.formData.get? id = data.get? id :=
  (get?_formData_of_not_calculated hid).trans (get?_dataAfterActions (hwrites id) fields data)

/-- Where no rule writes values, a calculated field reads the same in one run and in the next if the
fields before it that it refers to are the same after both runs, and those behind it were the same
before both. -/
theorem get?_dataAtTurn_of_references (hids : (fields.map (·.id)).Nodup)
    (hwrites : ∀ id, ¬rules.Writes id) (hc : c ∈ fields) (hcalculated : c.isCalculated)
    (hself : ¬c.References fields c) {data next : FormData}
    (hnext : (priorityEngine fields rules data).value.formData = next)
    (hearlier : ∀ f, c.References fields f → f.Precedes fields c →
      (priorityEngine fields rules next).value.formData.get? f.id = next.get? f.id)
    (hlater : ∀ f, c.References fields f → c.Precedes fields f → next.get? f.id = data.get? f.id)
    {expression : String} (hexpression : c.calculation = some expression) {id : String}
    (hmentions : Calculation.mentions expression id) :
    (dataAtTurn fields rules next c).get? id = (dataAtTurn fields rules data c).get? id := by
  by_cases hid : ∃ f ∈ fields, f.isCalculated ∧ f.id = id
  · obtain ⟨f, hf, hfcalculated, rfl⟩ := hid
    have href : c.References fields f :=
      ⟨hc, hcalculated, hf, hfcalculated, expression, hexpression, hmentions⟩
    have hsame (g : Field) (hg : g ∈ fields) (heq : g.id = f.id) : g = f :=
      List.inj_on_of_nodup_map hids hg hf heq
    have hne : f ≠ c := by
      rintro rfl
      exact hself href
    rcases Field.precedes_or_precedes hf hne with hprecedes | hprecedes
    · have hfinal : ∀ g ∈ fields, g.isCalculated → g.id = f.id → g.Precedes fields c :=
        fun g hg _ heq => (hsame g hg heq).symm ▸ hprecedes
      rw [get?_dataAtTurn hids hc hcalculated hfinal, get?_dataAtTurn hids hc hcalculated hfinal,
        hnext, hearlier f href hprecedes]
    · have hold : ∀ g ∈ fields, g.isCalculated → g.id = f.id → ¬g.Precedes fields c :=
        fun g hg _ heq => (hsame g hg heq).symm ▸ Nat.not_lt_of_gt hprecedes
      rw [get?_dataAtTurn_of_not_precedes hold, get?_dataAtTurn_of_not_precedes hold,
        get?_dataAfterActions (hwrites _), get?_dataAfterActions (hwrites _),
        hlater f href hprecedes]
  · have hplain : ∀ f ∈ fields, f.isCalculated → f.id ≠ id :=
      fun f hf hfcalculated heq => hid ⟨f, hf, hfcalculated, heq⟩
    have hold : ∀ f ∈ fields, f.isCalculated → f.id = id → ¬f.Precedes fields c :=
      fun f hf hfcalculated heq => absurd heq (hplain f hf hfcalculated)
    rw [get?_dataAtTurn_of_not_precedes hold, get?_dataAtTurn_of_not_precedes hold,
      get?_dataAfterActions (hwrites _), get?_dataAfterActions (hwrites _), ← hnext,
      get?_formData_of_not_writes hwrites data hplain]

/-- A calculated field that reads the same in one run and in the next has the same value after
both. -/
theorem get?_formData_of_references (hids : (fields.map (·.id)).Nodup)
    (hwords : ∀ id ∈ fields.map (·.id), Calculation.isWordId id)
    (hwrites : ∀ id, ¬rules.Writes id) (hc : c ∈ fields) (hcalculated : c.isCalculated)
    (hself : ¬c.References fields c) {data next : FormData}
    (hnext : (priorityEngine fields rules data).value.formData = next)
    (hearlier : ∀ f, c.References fields f → f.Precedes fields c →
      (priorityEngine fields rules next).value.formData.get? f.id = next.get? f.id)
    (hlater : ∀ f, c.References fields f → c.Precedes fields f →
      next.get? f.id = data.get? f.id) :
    (priorityEngine fields rules next).value.formData.get? c.id = next.get? c.id := by
  -- without a value the field keeps the one that the run started with
  have hkept : (dataAtTurn fields rules next c).get? c.id = next.get? c.id := by
    rw [get?_dataAtTurn_of_not_precedes, get?_dataAfterActions (hwrites _)]
    intro f hf _ heq
    rw [List.inj_on_of_nodup_map hids hf hc heq]
    exact Nat.lt_irrefl _
  have hvalue : (priorityEngine fields rules data).value.formData.get? c.id = _ :=
    get?_calculated hids hc hcalculated
  rw [hnext] at hvalue
  rw [get?_calculated hids hc hcalculated]
  unfold Working.refreshed at hvalue ⊢
  cases hexpression : c.calculation with
  | none => exact hkept
  | some expression =>
    have hread : (Calculation.evaluate expression (fields.map (·.id))
        (dataAtTurn fields rules next c)).value =
          (Calculation.evaluate expression (fields.map (·.id))
            (dataAtTurn fields rules data c)).value := by
      refine Calculation.ignores_unmentioned hwords expression _ _ fun id hid => ?_
      have hmentions : Calculation.mentions expression id := by simpa using hid
      unfold Calculation.readNumber Calculation.numberOf
      rw [get?_dataAtTurn_of_references hids hwrites hc hcalculated hself hnext hearlier hlater
        hexpression hmentions]
    rw [hexpression, Option.bind_some, ← hread] at hvalue
    rw [Option.bind_some]
    cases hx : (Calculation.evaluate expression (fields.map (·.id))
      (dataAtTurn fields rules next c)).value with
    | none => exact hkept
    | some x =>
      rw [hx] at hvalue
      rw [hvalue]
      simp

end

/-- A field whose chains of references have no more than so many steps to later fields keeps its
value from one run later on. -/
theorem trajectory_of_chainsWithin {fields : List Field} {rules : RuleSet}
    (hids : (fields.map (·.id)).Nodup)
    (hwords : ∀ id ∈ fields.map (·.id), Calculation.isWordId id)
    (hwrites : ∀ id, ¬rules.Writes id) (hself : ∀ f, ¬Field.References fields f f)
    (data : FormData) {steps forward : Nat} {c : Field} (hc : c ∈ fields)
    (hcalculated : c.isCalculated) (hwithin : c.ChainsWithin fields steps forward) {n : Nat}
    (hn : forward < n) :
    (trajectory (priorityEngine fields rules) data (n + 1)).get? c.id =
      (trajectory (priorityEngine fields rules) data n).get? c.id := by
  induction steps generalizing forward c n with
  | zero => exact absurd (hwithin [] (.singleton c)).1 (Nat.not_lt_zero _)
  | succ steps ih =>
    obtain ⟨m, rfl⟩ := Nat.exists_eq_add_of_lt hn
    refine get?_formData_of_references hids hwords hwrites hc hcalculated (hself c) rfl
      (fun f hcf _ => ?_) fun f hcf hprecedes => ?_
    · exact ih hcf.2.2.1 hcf.2.2.2.1 (hwithin.step hcf) hn
    · obtain ⟨rest, rfl, hrest⟩ := hwithin.forwardStep hcf hprecedes
      exact ih hcf.2.2.1 hcf.2.2.2.1 hrest (by omega)

/-- Where no rule writes values and calculated fields refer to each other without cycles, nothing
changes from one run after the greatest number of steps to later fields on. -/
theorem trajectory_of_isGreatest {fields : List Field} {rules : RuleSet}
    (hids : (fields.map (·.id)).Nodup)
    (hwords : ∀ id ∈ fields.map (·.id), Calculation.isWordId id)
    (hwrites : ∀ id, ¬rules.Writes id)
    (hacyclic : ∀ f, ¬Relation.TransGen (Field.References fields) f f) {most : Nat}
    (hmost : IsGreatest (Field.forwardCounts fields) most) (data : FormData) {n : Nat}
    (hn : most + 1 ≤ n) :
    trajectory (priorityEngine fields rules) data n =
      trajectory (priorityEngine fields rules) data (most + 1) := by
  have hself (f : Field) : ¬Field.References fields f f := fun h => hacyclic f (.single h)
  induction n, hn using Nat.le_induction with
  | base => rfl
  | succ n hn ih =>
    rw [← ih]
    refine SortedMap.ext fun id => ?_
    by_cases hid : ∃ f ∈ fields, f.isCalculated ∧ f.id = id
    · obtain ⟨f, hf, hcalculated, rfl⟩ := hid
      exact trajectory_of_chainsWithin hids hwords hwrites hself data hf hcalculated
        (Field.chainsWithin_of_isGreatest hacyclic hmost f) hn
    · exact get?_formData_of_not_writes hwrites _
        fun f hf hcalculated heq => hid ⟨f, hf, hcalculated, heq⟩

/-- Runs over finite data produce finite data, if no rule sets values. -/
theorem isFinite_trajectory {fields : List Field} {rules : RuleSet}
    (hrules : ∀ r ∈ rules.rules, ∀ a ∈ r.actions, ¬a.IsWrite) {data : FormData}
    (hdata : ∀ e ∈ data.toList, e.2.isFinite) (n : Nat) :
    ∀ e ∈ (trajectory (priorityEngine fields rules) data n).toList, e.2.isFinite := by
  induction n with
  | zero => exact hdata
  | succ n ih =>
    exact forall_formData (P := fun v => v.isFinite) Json.isFinite_ofNumber
      (fun r hr _ a ha hkind => absurd (.inl hkind) (hrules r hr a ha)) fields ih

/-- Where the ids are words, no rule writes values and calculated fields refer to each other without
cycles, data settles, its numbers being finite as all numbers of JSON are: nothing changes any more
after one run more than there are steps to a later field in any chain of references. With at most
six such steps settling finds that out one run later, so with none at the second run. -/
theorem settle_references {fields : List Field} {rules : RuleSet}
    (hids : (fields.map (·.id)).Nodup)
    (hwords : ∀ id ∈ fields.map (·.id), Calculation.isWordId id)
    (hrules : ∀ r ∈ rules.rules, ∀ a ∈ r.actions, ¬a.IsWrite)
    (hacyclic : ∀ f, ¬Relation.TransGen (Field.References fields) f f) :
    ∃ most, IsGreatest (Field.forwardCounts fields) most ∧
      ∀ data : FormData, (∀ e ∈ data.toList, e.2.isFinite) →
        let s := (settle priorityEngine fields rules data).value
        let d := trajectory (priorityEngine fields rules) data
        (∀ n, most + 1 ≤ n → d n = d (most + 1)) ∧
        (most ≤ 6 → s.converged ∧ s.iterations ≤ most + 2) ∧
        ((∀ f g, Field.References fields f g → Field.Precedes fields g f) →
          s.converged ∧ s.iterations ≤ 2) := by
  have hwrites (id : String) : ¬rules.Writes id := fun ⟨r, hr, _, a, ha, hwrite, _⟩ =>
    hrules r hr a ha hwrite
  obtain ⟨most, hmost⟩ := Field.exists_isGreatest_forwardCounts hacyclic
  refine ⟨most, hmost, fun data hdata => ?_⟩
  intro s d
  have hstable : ∀ n, most + 1 ≤ n → d n = d (most + 1) := fun n hn =>
    trajectory_of_isGreatest hids hwords hwrites hacyclic hmost data hn
  have hsettled (hsix : most ≤ 6) : s.converged ∧ s.iterations ≤ most + 2 := by
    have hs : s.StopsWithin (priorityEngine fields rules) data 1 maxRuns :=
      settle_stopsWithin priorityEngine fields rules data
    have hsame : sameData (d (most + 2)) (d (most + 2 - 1)) := by
      rw [hstable (most + 2) (by omega)]
      exact sameData_self (isFinite_trajectory hrules hdata (most + 1))
    exact hs.converged_of_sameData (by omega) (show most + 2 ≤ 8 by omega) hsame
  refine ⟨hstable, hsettled, fun hback => ?_⟩
  have hzero : most = 0 := by
    obtain ⟨chain, hchain, hcount⟩ := hmost.1
    rw [← hcount, Field.forwardSteps_eq_zero hback hchain]
  subst hzero
  exact hsettled (Nat.zero_le 6)

/-- A quotation: a total before the subtotal that it refers to, and a code that large totals ask
for. -/
def Sample.quote : Document where
  form := { id := "quote", title := "Quotation" }
  fields := [
    { id := "total", label := "Total", kind := .calculated,
      calculation := some "subtotal + shipping" },
    { id := "subtotal", label := "Subtotal", kind := .calculated,
      calculation := some "qty * price" },
    { id := "qty", label := "Quantity", kind := .number },
    { id := "price", label := "Unit price", kind := .number },
    { id := "shipping", label := "Shipping", kind := .number },
    { id := "approval", label := "Approval code", kind := .text, defaultHidden := true }]
  logic := { rules := [{
    id := "large-order"
    conditions := [{ fieldId := "total", operator := .greaterThan, value := some (.int 100) }]
    actions := [.targeting .show "approval", .targeting .require "approval"] }] }

/-- In a quotation the total refers to the subtotal behind it, and nothing else refers to a
calculated field. -/
theorem settle_references_quote :
    (Sample.quote.fields.map (·.id)).Nodup ∧
    (∀ id ∈ Sample.quote.fields.map (·.id), Calculation.isWordId id) ∧
    (∀ r ∈ Sample.quote.logic.rules, ∀ a ∈ r.actions, ¬a.IsWrite) ∧
    (∀ f, ¬Relation.TransGen (Field.References Sample.quote.fields) f f) ∧
    ∃ most, IsGreatest (Field.forwardCounts Sample.quote.fields) most ∧
      ∀ data : FormData, (∀ e ∈ data.toList, e.2.isFinite) →
        let s := (settle priorityEngine Sample.quote.fields Sample.quote.logic data).value
        let d := trajectory (priorityEngine Sample.quote.fields Sample.quote.logic) data
        (∀ n, most + 1 ≤ n → d n = d (most + 1)) ∧
        (most ≤ 6 → s.converged ∧ s.iterations ≤ most + 2) ∧
        ((∀ f g, Field.References Sample.quote.fields f g →
          Field.Precedes Sample.quote.fields g f) → s.converged ∧ s.iterations ≤ 2) := by
  have hids : (Sample.quote.fields.map (·.id)).Nodup := by decide
  have hwords : ∀ id ∈ Sample.quote.fields.map (·.id), Calculation.isWordId id := by decide +kernel
  have hrules : ∀ r ∈ Sample.quote.logic.rules, ∀ a ∈ r.actions, ¬a.IsWrite := by decide
  have hreferences : ∀ f ∈ Sample.quote.fields, ∀ g ∈ Sample.quote.fields,
      Field.References Sample.quote.fields f g → f.id = "total" ∧ g.id = "subtotal" := by
    decide +kernel
  have hacyclic (f : Field) : ¬Relation.TransGen (Field.References Sample.quote.fields) f f := by
    intro hcycle
    obtain ⟨g, hfg, -⟩ := Relation.TransGen.head'_iff.mp hcycle
    obtain ⟨g', -, hgf⟩ := Relation.TransGen.tail'_iff.mp hcycle
    have htotal := (hreferences f hfg.1 g hfg.2.2.1 hfg).1
    have hsubtotal := (hreferences g' hgf.1 f hgf.2.2.1 hgf).2
    rw [htotal] at hsubtotal
    exact absurd hsubtotal (by decide)
  exact ⟨hids, hwords, hrules, hacyclic, settle_references hids hwords hrules hacyclic⟩

end LiveForm
