import CysAgi.Base.Averages
import CysAgi.Catalog.QualityKept

open Py

namespace CysAgi.Catalog

structure RecordMatch where
  planId : String
  profileId : String := defaultProfileId
  jobs : Int := 1

namespace RecordMatch

def key (call : RecordMatch) : ItemKey := (call.planId, call.profileId)

def apply (plans : JsonPayloadCatalog PlanCatalogEntry) (call : RecordMatch) : JsonPayloadCatalog PlanCatalogEntry :=
  CatalogService.recordMatch .inMemory plans call.planId call.profileId call.jobs

def run (plans : JsonPayloadCatalog PlanCatalogEntry) (calls : List RecordMatch) :
    JsonPayloadCatalog PlanCatalogEntry :=
  calls.foldl apply plans

def jobsOf (key : ItemKey) (calls : List RecordMatch) : List Rat :=
  (calls.filter fun call => call.key = key).map fun call => call.jobs

theorem jobsOf_concat (key : ItemKey) (calls : List RecordMatch) (call : RecordMatch) :
    jobsOf key (calls ++ [call]) =
      if call.key = key then jobsOf key calls ++ [(call.jobs : Rat)] else jobsOf key calls := by
  unfold jobsOf
  rw [List.filter_append, List.map_append]
  by_cases here : call.key = key
  · simp [here]
  · simp [here]

theorem quality_apply (plans : JsonPayloadCatalog PlanCatalogEntry) (call : RecordMatch) (key : ItemKey) :
    ((apply plans call).get? key).map PlanCatalogEntry.quality =
      if call.key = key then ((plans.get? key).map PlanCatalogEntry.quality).map (learnedMatch call.jobs)
      else (plans.get? key).map PlanCatalogEntry.quality := by
  unfold apply
  cases found : plans.get? call.key with
  | none =>
    have kept : CatalogService.recordMatch .inMemory plans call.planId call.profileId call.jobs = plans := by
      unfold CatalogService.recordMatch
      rw [show plans.getItem call.planId call.profileId = none from found]
    rw [kept]
    by_cases here : call.key = key
    · rw [if_pos here, ← here, found]
      rfl
    · rw [if_neg here]
  | some entry =>
    rw [quality_recordMatch found .inMemory call.jobs key]
    by_cases here : call.key = key
    · rw [if_pos here, if_pos ⟨rfl, here.symm⟩, ← here, found]
      rfl
    · rw [if_neg here, if_neg fun both => here both.2.symm]

end RecordMatch

/-- What the quality of a plan says of the calls that were made for it. -/
structure PlanQuality.Tallies (quality : PlanQuality) (jobs : List Rat) : Prop where
  matchCount : quality.matchCount = jobs.length
  total : quality.avgJobsPerEvent * quality.matchCount = jobs.sum

theorem PlanQuality.tallies_nil {quality : PlanQuality} (fresh : quality.matchCount = 0) : quality.Tallies [] where
  matchCount := fresh
  total := by
    rw [fresh]
    exact mul_zero quality.avgJobsPerEvent

theorem PlanQuality.Tallies.learnedMatch {quality : PlanQuality} {jobs : List Rat} (tallies : quality.Tallies jobs)
    (more : Int) : (learnedMatch more quality).Tallies (jobs ++ [(more : Rat)]) := by
  have counted : (Catalog.learnedMatch more quality).matchCount = quality.matchCount + 1 := rfl
  have before : (if 0 < quality.matchCount + 1 - 1 then quality.matchCount + 1 - 1 else 0) = quality.matchCount := by
    have := tallies.matchCount
    split <;> omega
  have after : (if 1 < quality.matchCount + 1 then quality.matchCount + 1 else 1) = quality.matchCount + 1 := by
    have := tallies.matchCount
    split <;> omega
  have average : (Catalog.learnedMatch more quality).avgJobsPerEvent =
      (quality.avgJobsPerEvent * quality.matchCount + more) / (quality.matchCount + 1) := by
    simp only [Catalog.learnedMatch, before, after]
    push_cast
    rfl
  have positive : (quality.matchCount : Rat) + 1 ≠ 0 := by
    rw [tallies.matchCount]
    exact_mod_cast Nat.succ_ne_zero jobs.length
  constructor
  · rw [counted, tallies.matchCount, List.length_append]
    rfl
  · rw [average, counted, List.sum_append, List.sum_singleton]
    push_cast
    exact Averages.mean_mul_count positive tallies.total

namespace RecordMatch

variable {plans : JsonPayloadCatalog PlanCatalogEntry}

theorem run_concat (calls : List RecordMatch) (call : RecordMatch) :
    run plans (calls ++ [call]) = apply (run plans calls) call := by
  unfold run
  rw [List.foldl_append]
  rfl

variable (plans) in
theorem isSome_run (calls : List RecordMatch) (key : ItemKey) :
    ((run plans calls).get? key).isSome = (plans.get? key).isSome := by
  induction calls using List.reverseRecOn with
  | nil => rfl
  | append_singleton calls call ih =>
    have stepped := congrArg Option.isSome (quality_apply (run plans calls) call key)
    rw [← run_concat] at stepped
    split at stepped <;> simpa [ih] using stepped

theorem tallies_run (fresh : ∀ key quality, (plans.get? key).map PlanCatalogEntry.quality = some quality →
      quality.matchCount = 0) (calls : List RecordMatch) (key : ItemKey) {quality : PlanQuality}
    (stored : ((run plans calls).get? key).map PlanCatalogEntry.quality = some quality) :
    quality.Tallies (jobsOf key calls) := by
  induction calls using List.reverseRecOn generalizing quality with
  | nil => exact PlanQuality.tallies_nil (fresh key quality stored)
  | append_singleton calls call ih =>
    rw [run_concat, quality_apply] at stored
    rw [jobsOf_concat]
    by_cases here : call.key = key
    · rw [if_pos here] at stored ⊢
      obtain ⟨before, held, rfl⟩ := Option.map_eq_some_iff.mp stored
      have tallies := ih held
      exact tallies.learnedMatch call.jobs
    · rw [if_neg here] at stored ⊢
      exact ih stored

end RecordMatch

/-- From fresh qualities, a plan of the catalog tallies the calls of any history that were made for it. -/
theorem plan_match_average_exact (plans : JsonPayloadCatalog PlanCatalogEntry)
    (fresh : ∀ key entry, plans.get? key = some entry → entry.quality.matchCount = 0) (calls : List RecordMatch)
    (key : ItemKey) :
    ((RecordMatch.run plans calls).get? key).isSome = (plans.get? key).isSome ∧
      ∀ entry, (RecordMatch.run plans calls).get? key = some entry →
        entry.quality.Tallies (RecordMatch.jobsOf key calls) := by
  constructor
  · exact RecordMatch.isSome_run plans calls key
  · intro entry found
    apply RecordMatch.tallies_run
    · intro other quality stored
      obtain ⟨original, held, rfl⟩ := Option.map_eq_some_iff.mp stored
      exact fresh other original held
    · exact congrArg (Option.map PlanCatalogEntry.quality) found

def triagePlans : JsonPayloadCatalog PlanCatalogEntry := KeyedDict.empty.put { id := "triage" }

theorem triagePlans_fresh (key : ItemKey) (entry : PlanCatalogEntry) (found : triagePlans.get? key = some entry) :
    entry.quality.matchCount = 0 := by
  unfold triagePlans at found
  rw [KeyedDict.get?_put] at found
  split at found
  · cases found
    rfl
  · cases found

theorem plan_match_average_exact_triage :
    ((RecordMatch.run triagePlans [{ planId := "triage", jobs := 3 }, { planId := "other" },
        { planId := "triage", jobs := 2 }]).get? ("triage", defaultProfileId)).map PlanCatalogEntry.quality =
      some { matchCount := 2, avgJobsPerEvent := 5 / 2 } ∧
    ((RecordMatch.run triagePlans [{ planId := "triage", jobs := 3 }, { planId := "other" },
        { planId := "triage", jobs := 2 }]).get? ("triage", defaultProfileId)).isSome = true := by
  constructor
  · decide +kernel
  · exact (plan_match_average_exact triagePlans triagePlans_fresh _ ("triage", defaultProfileId)).1

end CysAgi.Catalog
