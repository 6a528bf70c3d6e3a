import LiveForm.Settlement

/-!
# The runs of a settlement

What settling returns is the evaluation of one of its runs, over data that the runs before it
produced. So two settlements whose runs go in step return after the same number of runs, and a
property of data that every run keeps holds for the data of the last run.
-/

namespace LiveForm

namespace Settlement

variable {run run' : FormData → Logged Evaluation}

/-- Going on stops if the last run changed nothing or no run is left, and does one more run
otherwise. -/
theorem goOn_value (left done : Nat) (input : FormData) (e : Evaluation) :
    (goOn run left done input e).value =
      if sameData e.formData input then ⟨e, done, true⟩
      else match left with
        | 0 => ⟨e, done, false⟩
        | left + 1 => (goOn run left (done + 1) e.formData (run e.formData).value).value := by
  conv => lhs; unfold goOn
  split
  · rfl
  · cases left <;> rfl

/-- Going on after two runs over related data stops after the same run, if runs over related data
produce related data and both of them change it or none. -/
theorem goOn_simulation {R : FormData → FormData → Prop}
    (hrun : ∀ d d', R d d' → R (run d).value.formData (run' d').value.formData)
    (hsame : ∀ d d', R d d' →
      sameData (run d).value.formData d = sameData (run' d').value.formData d')
    (left done : Nat) {d d' : FormData} (h : R d d') :
    ∃ last last' runs converged, R last last' ∧
      (goOn run left done d (run d).value).value = ⟨(run last).value, runs, converged⟩ ∧
      (goOn run' left done d' (run' d').value).value = ⟨(run' last').value, runs, converged⟩ := by
  induction left generalizing done d d' with
  | zero =>
    rw [goOn_value 0 done d, goOn_value 0 done d', hsame d d' h]
    split
    case isTrue => exact ⟨d, d', done, true, h, rfl, rfl⟩
    case isFalse => exact ⟨d, d', done, false, h, rfl, rfl⟩
  | succ left ih =>
    rw [goOn_value (left + 1) done d, goOn_value (left + 1) done d', hsame d d' h]
    split
    case isTrue => exact ⟨d, d', done, true, h, rfl, rfl⟩
    case isFalse => exact ih (done + 1) (hrun d d' h)

end Settlement

section

variable {engine engine' : Engine} {fields fields' : List Field} {rules rules' : RuleSet}

/-- Two settlements of related data return after the same run, if runs over related data produce
related data and both of them change it or none. -/
theorem settle_simulation {R : FormData → FormData → Prop}
    (hrun : ∀ d d', R d d' →
      R (engine fields rules d).value.formData (engine' fields' rules' d').value.formData)
    (hsame : ∀ d d', R d d' → sameData (engine fields rules d).value.formData d =
      sameData (engine' fields' rules' d').value.formData d')
    {data data' : FormData} (h : R data data') :
    ∃ last last' runs converged, R last last' ∧
      (settle engine fields rules data).value =
        ⟨(engine fields rules last).value, runs, converged⟩ ∧
      (settle engine' fields' rules' data').value =
        ⟨(engine' fields' rules' last').value, runs, converged⟩ :=
  Settlement.goOn_simulation hrun hsame (maxRuns - 1) 1 h

/-- Forms that are evaluated alike over any data settle alike. -/
theorem settle_congr
    (h : ∀ d, (engine fields rules d).value = (engine' fields' rules' d).value) (data : FormData) :
    (settle engine fields rules data).value = (settle engine' fields' rules' data).value := by
  have hrun (d d' : FormData) (heq : d = d') :
      (engine fields rules d).value = (engine' fields' rules' d').value := heq ▸ h d
  obtain ⟨last, last', runs, converged, heq, hs, hs'⟩ :=
    settle_simulation (R := (· = ·)) (fun d d' heq => by rw [hrun d d' heq])
      (fun d d' heq => by rw [hrun d d' heq, heq]) (Eq.refl data)
  rw [hs, hs', hrun last last' heq]

/-- Settling returns the evaluation of a run over data with any property that the given data has and
that every run keeps. -/
theorem settle_invariant (P : FormData → Prop)
    (hrun : ∀ d, P d → P (engine fields rules d).value.formData) {data : FormData}
    (hdata : P data) :
    ∃ d, P d ∧
      (settle engine fields rules data).value.evaluation = (engine fields rules d).value := by
  have hrun' (d d' : FormData) (h : d = d' ∧ P d) :
      (engine fields rules d).value.formData = (engine fields rules d').value.formData ∧
        P (engine fields rules d).value.formData :=
    ⟨by rw [h.1], hrun d h.2⟩
  obtain ⟨last, _, _, _, ⟨-, hlast⟩, hs, -⟩ :=
    settle_simulation hrun' (fun d d' h => by rw [h.1]) ⟨Eq.refl data, hdata⟩
  exact ⟨last, hlast, by rw [hs]⟩

end

end LiveForm
