import Mathlib.Data.ENat.Lattice
import SearchClient.Proofs.Search.Action

/-! How often a call is made, when its outcomes are any infinite sequence: once more than the sequence has transient
    failures in front of its first other outcome, up to the attempts that the policy allows. -/

namespace SearchClient.RetryPolicy
variable {α : Type}

/-- The call that ends with the next outcome of a sequence. The host counts the calls. -/
def nextOutcome (outcomes : Nat → Except SearchError α) : Act Nat α :=
  Act.onHost fun calls => (outcomes calls, calls + 1)

open Classical in
/-- The number of transient failures in front of the first other outcome. -/
noncomputable def leadingFailures (outcomes : Nat → Except SearchError α) : ℕ∞ :=
  if h : ∃ i, isFinal (outcomes i) = true then (Nat.find h : Nat) else ⊤

section Sequence
variable {outcomes : Nat → Except SearchError α}

theorem le_leadingFailures_iff {n : Nat} : (n : ℕ∞) ≤ leadingFailures outcomes ↔
    ∀ i < n, isFinal (outcomes i) = false := by
  unfold leadingFailures
  split
  · simp
  · next h =>
    push Not at h
    simpa using fun i _ => h i

theorem lt_leadingFailures_iff {n : Nat} : (n : ℕ∞) < leadingFailures outcomes ↔
    ∀ i ≤ n, isFinal (outcomes i) = false := by
  rw [← ENat.add_one_le_iff (ENat.natCast_ne_top n), ← Nat.cast_add_one, le_leadingFailures_iff]
  simp only [Nat.lt_succ_iff]

theorem iterate_count (n : Nat) : (fun calls => calls + 1)^[n] 0 = n :=
  (Nat.succ_iterate 0 n).trans (Nat.zero_add n)

theorem outcomeAfter_count (n : Nat) : outcomeAfter (fun calls => (outcomes calls, calls + 1)) 0 n = outcomes n := by
  unfold outcomeAfter
  exact congrArg outcomes (iterate_count n)

variable {left : Nat} {errors : List SearchError}

theorem failed_of_failsBefore (h : FailsBefore (fun calls => (outcomes calls, calls + 1)) 0 left errors) {i : Nat}
    {error : SearchError} (hat : errors[i]? = some error) :
    outcomes i = .error error ∧ error.isTransient = true := by
  have herror := h.failed i error hat
  rw [outcomeAfter_count] at herror
  exact ⟨herror, h.transient error (List.mem_of_getElem? hat)⟩

theorem length_le_leadingFailures (h : FailsBefore (fun calls => (outcomes calls, calls + 1)) 0 left errors) :
    (errors.length : ℕ∞) ≤ leadingFailures outcomes := by
  refine le_leadingFailures_iff.mpr fun i hi => ?_
  obtain ⟨herror, htransient⟩ := failed_of_failsBefore h (List.getElem?_eq_getElem hi)
  rw [herror, isFinal, htransient, Bool.not_true]

/-- The outcome behind all failures is no transient one exactly if these are all leading failures. -/
theorem isFinal_iff_of_failsBefore (h : FailsBefore (fun calls => (outcomes calls, calls + 1)) 0 left errors) :
    isFinal (outcomes errors.length) = true ↔ leadingFailures outcomes ≤ errors.length := by
  have hbefore := le_leadingFailures_iff.mp (length_le_leadingFailures h)
  rw [← not_lt, lt_leadingFailures_iff]
  constructor
  · intro hfinal hnone
    rw [hnone _ (Nat.le_refl _)] at hfinal
    cases hfinal
  · intro hsome
    by_contra hnot
    refine hsome fun i hi => ?_
    rcases Nat.lt_or_eq_of_le hi with hlt | rfl
    · exact hbefore i hlt
    · exact Bool.eq_false_iff.mpr hnot

end Sequence

/-- A call is made once for each leading transient failure that the policy allows to try again, and once more. It ends
    as the last of these calls, which is no transient failure exactly if the policy allows to try again after all of
    them. Each failure in front of the last call is reported, with its number and the error, and a last transient
    failure is reported as the one after which the policy gives up. -/
theorem run_outcomes (policy : RetryPolicy) (name : String) (outcomes : Nat → Except SearchError α)
    (cache : FacetCache) (diagnostics : List Diagnostic) :
    ∃ errors : List SearchError,
      (errors.length : ℕ∞) = min (leadingFailures outcomes) policy.maxRetries ∧
      (∀ i error, errors[i]? = some error → outcomes i = .error error ∧ error.isTransient = true) ∧
      policy.run name (nextOutcome outcomes) ⟨0, cache, diagnostics⟩ =
        (outcomes errors.length, ⟨errors.length + 1, cache,
          diagnostics ++ policy.retryReports name 1 errors ++ policy.lastReport name (outcomes errors.length)⟩) ∧
      (isFinal (outcomes errors.length) = true ↔ leadingFailures outcomes ≤ policy.maxRetries) := by
  obtain ⟨errors, hfails, hrun⟩ := policy.attempt_onHost name (fun calls => (outcomes calls, calls + 1))
    policy.maxRetries (Nat.le_refl _) ⟨0, cache, diagnostics⟩
  have hallowed : (errors.length : ℕ∞) ≤ policy.maxRetries := Nat.cast_le.mpr hfails.length_le
  have hfinal := isFinal_iff_of_failsBefore hfails
  have hlast := hfails.last
  simp only [outcomeAfter_count] at hlast hrun
  rw [iterate_count, Nat.sub_self, Nat.zero_add] at hrun
  refine ⟨errors, ?_, fun i error => failed_of_failsBefore hfails, hrun, ?_⟩
  · refine le_antisymm (le_min (length_le_leadingFailures hfails) hallowed) ?_
    rcases hlast with hreached | hspent
    · exact min_le_of_left_le (hfinal.mp hreached)
    · exact min_le_of_right_le (Nat.cast_le.mpr (Nat.le_of_eq hspent.symm))
  · rw [hfinal]
    constructor
    · intro hle
      exact hle.trans hallowed
    · intro hle
      rcases hlast with hreached | hspent
      · exact hfinal.mp hreached
      · rwa [hspent]

end SearchClient.RetryPolicy
