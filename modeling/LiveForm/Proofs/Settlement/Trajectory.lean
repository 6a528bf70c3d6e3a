import LiveForm.Proofs.Json.Sameness
import LiveForm.Proofs.Session.Calls
import LiveForm.Proofs.Settlement.Runs
import LiveForm.Sample.Order
import Mathlib.Order.Bounds.Basic
import Mathlib.Order.Interval.Set.Defs

/-!
# The first run that changes nothing

Runs of an engine, each over the data that the one before produced, pass through a trajectory of
data. Settling follows it up to the first run that leaves the data as it was, or up to the bound,
and returns the evaluation of that run. Once a run has changed nothing, neither does any other.
-/

namespace LiveForm

/-- The data after a number of runs, each over the data that the one before produced. -/
def trajectory (run : FormData → Logged Evaluation) (data : FormData) : Nat → FormData
  | 0 => data
  | n + 1 => (run (trajectory run data n)).value.formData

/-- Some of the runs `low`, …, `high` of a trajectory were done, up to the first that changed
nothing, or up to the last of them. -/
structure Settlement.StopsWithin (run : FormData → Logged Evaluation) (data : FormData)
    (low high : Nat) (s : Settlement) : Prop where
  /-- At least the first of the runs was done. -/
  low_le : low ≤ s.iterations
  /-- No other run was done. -/
  le_high : s.iterations ≤ high
  /-- The evaluation is that of the last run. -/
  evaluation_eq : s.evaluation = (run (trajectory run data (s.iterations - 1))).value
  /-- Every run before the last changed something. -/
  changed : ∀ n, low ≤ n → n < s.iterations →
    sameData (trajectory run data n) (trajectory run data (n - 1)) = false
  /-- It has converged if the last run changed nothing. -/
  converged_eq : s.converged =
    sameData (trajectory run data s.iterations) (trajectory run data (s.iterations - 1))
  /-- It goes on as long as something changes and runs are left. -/
  exhausted : s.converged = false → s.iterations = high

namespace Settlement

variable {run : FormData → Logged Evaluation} {data : FormData}

/-- The last run is the only one if nothing is asked about those before it. -/
theorem StopsWithin.last {n high : Nat} {converged : Bool} (hhigh : n + 1 ≤ high)
    (hconverged : converged = sameData (trajectory run data (n + 1)) (trajectory run data n))
    (hexhausted : converged = false → n + 1 = high) :
    StopsWithin run data (n + 1) high ⟨(run (trajectory run data n)).value, n + 1, converged⟩ where
  low_le := le_rfl
  le_high := hhigh
  evaluation_eq := rfl
  changed _ hlow hlt := absurd hlt (Nat.not_lt.mpr hlow)
  converged_eq := hconverged
  exhausted := hexhausted

/-- Going on after a run does so many more runs at most. -/
theorem goOn_stopsWithin (left done : Nat) :
    (goOn run left (done + 1) (trajectory run data done)
      (run (trajectory run data done)).value).value.StopsWithin run data (done + 1)
        (done + 1 + left) := by
  -- the data that a run produces is the next of the trajectory
  have hnext (n : Nat) : (run (trajectory run data n)).value.formData =
      trajectory run data (n + 1) := rfl
  induction left generalizing done with
  | zero =>
    rw [goOn_value, hnext]
    split
    case isTrue hsame => exact .last le_rfl hsame.symm nofun
    case isFalse hchanged => exact .last le_rfl (by simpa using hchanged) fun _ => rfl
  | succ left ih =>
    rw [goOn_value, hnext]
    split
    case isTrue hsame => exact .last (by omega) hsame.symm nofun
    case isFalse hchanged =>
      have hrest := ih (done + 1)
      dsimp only
      refine ⟨?_, ?_, hrest.evaluation_eq, fun n hlow hn => ?_, hrest.converged_eq, fun hnot => ?_⟩
      · have := hrest.low_le
        omega
      · have := hrest.le_high
        omega
      · by_cases hfirst : n = done + 1
        · subst hfirst
          simpa using hchanged
        · exact hrest.changed n (by omega) hn
      · have := hrest.exhausted hnot
        omega

end Settlement

/-- Settling does at most eight runs, up to the first that changes nothing. -/
theorem settle_stopsWithin (engine : Engine) (fields : List Field) (rules : RuleSet)
    (data : FormData) :
    (settle engine fields rules data).value.StopsWithin (engine fields rules) data 1 maxRuns :=
  Settlement.goOn_stopsWithin (maxRuns - 1) 0

namespace Settlement.StopsWithin

variable {run : FormData → Logged Evaluation} {data : FormData} {low high : Nat} {s : Settlement}

/-- The data of the evaluation is what the last run produced. -/
theorem formData_eq (h : s.StopsWithin run data (low + 1) high) :
    s.evaluation.formData = trajectory run data s.iterations := by
  have hlow := h.low_le
  obtain ⟨n, hn⟩ := Nat.exists_eq_add_of_le' (show 1 ≤ s.iterations by omega)
  rw [h.evaluation_eq, hn]
  rfl

/-- If one of the runs changes nothing, settling converges with it at the latest. -/
theorem converged_of_sameData (h : s.StopsWithin run data low high) {n : Nat} (hlow : low ≤ n)
    (hhigh : n ≤ high) (hsame : sameData (trajectory run data n) (trajectory run data (n - 1))) :
    s.converged ∧ s.iterations ≤ n := by
  have hle : s.iterations ≤ n := by
    by_contra hlt
    rw [h.changed n hlow (by omega)] at hsame
    cases hsame
  refine ⟨?_, hle⟩
  by_contra hnot
  rw [Bool.not_eq_true] at hnot
  have hlast : s.iterations = n := by
    have := h.exhausted hnot
    omega
  rw [h.converged_eq, hlast, hsame] at hnot
  cases hnot

end Settlement.StopsWithin

/-- Settling data that a run leaves as it is takes that one run. -/
theorem settle_of_sameData {engine : Engine} {fields : List Field} {rules : RuleSet}
    {data : FormData} (h : sameData (engine fields rules data).value.formData data) :
    (settle engine fields rules data).value = ⟨(engine fields rules data).value, 1, true⟩ := by
  have hgoOn : (settle engine fields rules data).value = _ :=
    Settlement.goOn_value (maxRuns - 1) 1 data (engine fields rules data).value
  rwa [if_pos h] at hgoOn

/-- If a first run leaves data equal or not the same, settling that data gives what going on from
the data that it produces gives. -/
theorem settle_evaluation_eq_goOn {engine : Engine} {fields : List Field} {rules : RuleSet}
    {data next : FormData} (hnext : (engine fields rules data).value.formData = next)
    (hequal : sameData next data → next = data) :
    (settle engine fields rules data).value.evaluation =
      (Settlement.goOn (engine fields rules) (maxRuns - 2) 2 next
        (engine fields rules next).value).value.evaluation := by
  have hgoOn : (settle engine fields rules data).value = _ :=
    Settlement.goOn_value (maxRuns - 1) 1 data (engine fields rules data).value
  rw [hgoOn, hnext]
  split
  case isTrue hsame =>
    obtain rfl := hequal hsame
    rw [Settlement.goOn_value, hnext, if_pos hsame]
  case isFalse => rfl

/-- Data of which a first run makes the same settles alike. -/
theorem settle_evaluation_congr {engine : Engine} {fields : List Field} {rules : RuleSet}
    {data data' next : FormData} (hnext : (engine fields rules data).value.formData = next)
    (hnext' : (engine fields rules data').value.formData = next)
    (hequal : sameData next data → next = data) (hequal' : sameData next data' → next = data') :
    (settle engine fields rules data).value.evaluation =
      (settle engine fields rules data').value.evaluation :=
  (settle_evaluation_eq_goOn hnext hequal).trans (settle_evaluation_eq_goOn hnext' hequal').symm

/-- The number of runs is the least one after which the last run has changed nothing, or the bound
if every run has changed something. -/
theorem settle_iterations (engine : Engine) (fields : List Field) (rules : RuleSet)
    (data : FormData) :
    let s := (settle engine fields rules data).value
    let d := trajectory (engine fields rules) data
    IsLeast {n | n ∈ Set.Icc 1 maxRuns ∧ sameData (d n) (d (n - 1))} s.iterations ∨
      (∀ n ∈ Set.Icc 1 maxRuns, ¬sameData (d n) (d (n - 1))) ∧ s.iterations = maxRuns := by
  intro s d
  have hs : s.StopsWithin (engine fields rules) data 1 maxRuns :=
    settle_stopsWithin engine fields rules data
  cases hconverged : s.converged with
  | true =>
    have hsame := hs.converged_eq
    rw [hconverged] at hsame
    refine .inl ⟨⟨⟨hs.low_le, hs.le_high⟩, hsame.symm⟩, fun n hn => ?_⟩
    exact (hs.converged_of_sameData hn.1.1 hn.1.2 hn.2).2
  | false =>
    refine .inr ⟨fun n hn hsame => ?_, hs.exhausted hconverged⟩
    rw [(hs.converged_of_sameData hn.1 hn.2 hsame).1] at hconverged
    cases hconverged

/-- Data that settling has converged on, where no number is negative zero, is what the last run
started with. -/
theorem Settlement.StopsWithin.run_formData {run : FormData → Logged Evaluation} {data : FormData}
    {low high : Nat} {s : Settlement} (h : s.StopsWithin run data (low + 1) high)
    (hconverged : s.converged)
    (hzeros : FormData.HasPlainZeros (trajectory run data s.iterations))
    (hzeros' : FormData.HasPlainZeros (trajectory run data (s.iterations - 1))) :
    (run s.evaluation.formData).value = s.evaluation := by
  rw [h.converged_eq] at hconverged
  rw [h.formData_eq, eq_of_sameData hconverged hzeros hzeros', ← h.evaluation_eq]

/-! ### Data that has settled -/

/-- Settling gives the evaluation of the first of at most eight runs that leaves the data as it was,
or of the eighth if there is none, and says so. Once it has converged, with no number negative zero,
its data is settled: evaluating it once more, settling it, and setting any field to the value that
it has in a session, all give the same evaluation again. -/
theorem settle_firstUnchanged (engine : Engine) (fields : List Field) (rules : RuleSet)
    (data : FormData) :
    let s := (settle engine fields rules data).value
    let d := trajectory (engine fields rules) data
    s.evaluation = (engine fields rules (d (s.iterations - 1))).value ∧
    (IsLeast {n | n ∈ Set.Icc 1 maxRuns ∧ sameData (d n) (d (n - 1))} s.iterations ∨
      (∀ n ∈ Set.Icc 1 maxRuns, ¬sameData (d n) (d (n - 1))) ∧ s.iterations = maxRuns) ∧
    (s.converged ↔ sameData (d s.iterations) (d (s.iterations - 1))) ∧
    (s.converged → FormData.HasPlainZeros (d s.iterations) →
      FormData.HasPlainZeros (d (s.iterations - 1)) →
        (engine fields rules s.evaluation.formData).value = s.evaluation ∧
        (settle engine fields rules s.evaluation.formData).value = ⟨s.evaluation, 1, true⟩ ∧
        ∀ (σ : Type) (w : Setup σ) (trigger : Trigger) (before : Session σ),
          let w := { w with engine, fields, rules }
          let after := (w.pass trigger data before).value
          ∀ id ∈ fields.map (·.id), ∀ value, after.data.get? id = some value →
            ∃ again, (w.setValue id value after).value = (.ok again.evaluation, again) ∧
              again.evaluation = after.evaluation) := by
  intro s d
  have hs : s.StopsWithin (engine fields rules) data 1 maxRuns :=
    settle_stopsWithin engine fields rules data
  refine ⟨hs.evaluation_eq, settle_iterations engine fields rules data, by rw [hs.converged_eq],
    fun hconverged hzeros hzeros' => ?_⟩
  have hagain := hs.run_formData hconverged hzeros hzeros'
  have hsame : sameData (engine fields rules s.evaluation.formData).value.formData
      s.evaluation.formData := by
    have hlast := hconverged
    rw [hs.converged_eq] at hlast
    rw [hagain, hs.formData_eq]
    nth_rewrite 2 [eq_of_sameData hlast hzeros hzeros']
    exact hlast
  have hsettled := settle_of_sameData hsame
  rw [hagain] at hsettled
  refine ⟨hagain, hsettled, fun σ w trigger before => ?_⟩
  intro w after id hid value hvalue
  refine ⟨_, Setup.setValue_value hid value after, ?_⟩
  -- the session shows what the settlement gave, so settling its data is settling that data again
  have hevaluation := congrArg Settlement.evaluation hsettled
  rwa [SortedMap.insert_of_get?_eq_some hvalue, Setup.evaluation_pass, Setup.data_pass,
    Setup.evaluation_pass]

/-- An order of twelve pieces. -/
def Sample.dozen : FormData := .ofList [("qty", .int 12), ("price", .float 9.5)]

/-- The rule of the order form on bulk orders. -/
def Sample.bulkRules : RuleSet := { rules := [Sample.bulkShipping] }

/-- The order form with its rule on bulk orders alone. -/
def Sample.bulkOrder : Document where
  form := { id := "order", title := "Place an order" }
  fields := Sample.orderFields
  logic := Sample.bulkRules

/-- An order of twelve pieces ships free, and settles after two runs. -/
theorem settle_firstUnchanged_dozen :
    (settle priorityEngine Sample.orderFields Sample.bulkRules Sample.dozen).value.iterations = 2 ∧
    (settle priorityEngine Sample.orderFields Sample.bulkRules Sample.dozen).value.converged ∧
    FormData.HasPlainZeros
      (trajectory (priorityEngine Sample.orderFields Sample.bulkRules) Sample.dozen 2) ∧
    FormData.HasPlainZeros
      (trajectory (priorityEngine Sample.orderFields Sample.bulkRules) Sample.dozen 1) ∧
    (settle priorityEngine Sample.orderFields Sample.bulkRules
      (settle priorityEngine Sample.orderFields Sample.bulkRules
        Sample.dozen).value.evaluation.formData).value =
      ⟨(settle priorityEngine Sample.orderFields Sample.bulkRules Sample.dozen).value.evaluation,
        1, true⟩ := by
  have hruns : (settle priorityEngine Sample.orderFields Sample.bulkRules
    Sample.dozen).value.iterations = 2 := by decide +kernel
  have hconverged : (settle priorityEngine Sample.orderFields Sample.bulkRules
    Sample.dozen).value.converged = true := by decide +kernel
  have hzeros : FormData.HasPlainZeros
    (trajectory (priorityEngine Sample.orderFields Sample.bulkRules) Sample.dozen 2) := by
    decide +kernel
  have hzeros' : FormData.HasPlainZeros
    (trajectory (priorityEngine Sample.orderFields Sample.bulkRules) Sample.dozen 1) := by
    decide +kernel
  have h := (settle_firstUnchanged priorityEngine Sample.orderFields Sample.bulkRules
    Sample.dozen).2.2.2
  rw [hruns] at h
  exact ⟨hruns, hconverged, hzeros, hzeros', (h hconverged hzeros hzeros').2.1⟩

end LiveForm
