import CysAgi.Hitl.Pause
import CysAgi.Runs.RunStep

namespace CysAgi

open Py

theorem workerSession_injective {p q j k : String} (plain : ':' ∉ p.toList) (other : ':' ∉ q.toList)
    (same : workerSession p j = workerSession q k) : p = q ∧ j = k := by
  have tail : p.toList ++ ':' :: j.toList = q.toList ++ ':' :: k.toList := by
    have letters := congrArg String.toList same
    simpa [workerSession] using letters
  have split := splitColon_append p.toList plain j.toList
  rw [tail, splitColon_append q.toList other k.toList] at split
  obtain ⟨head, rest⟩ := Prod.mk.inj (Option.some.inj split)
  exact ⟨(String.toList_inj.mp head).symm, (String.toList_inj.mp rest).symm⟩

theorem jobIdFromSession_colon {p : String} (colon : ':' ∈ p.toList) (j : String) :
    jobIdFromSession (workerSession p j) ≠ some j := by
  obtain ⟨first, rest, spelled, plain⟩ := List.eq_append_cons_of_mem colon
  have outer : splitColon (workerSession p j).toList =
      some ("worker".toList, first ++ ':' :: (rest ++ ':' :: j.toList)) := by
    rw [← splitColon_append "worker".toList (by decide)]
    simp [workerSession, spelled]
  have decoded : jobIdFromSession (workerSession p j) = some (String.ofList (rest ++ ':' :: j.toList)) := by
    simp [jobIdFromSession, outer, splitColon_append _ plain]
  rw [decoded]
  intro same
  have long := congrArg (fun text => text.toList.length) (Option.some.inj same)
  simp only [String.toList_ofList, List.length_append, List.length_cons] at long
  omega

theorem checkpointKey_job {context : RunContext} (job : context.kind = .job) (persona : String) :
    checkpointKey context persona =
      if persona = "" then "run:job:" ++ context.contextId else workerSession persona context.contextId := by
  unfold checkpointKey workerSession
  rw [job, if_neg (by simp)]
  by_cases empty : persona = ""
  · rw [if_neg (by simp [empty]), if_pos empty]
    rfl
  · rw [if_pos ⟨empty, rfl⟩, if_neg empty]
    rfl

theorem run_ne_worker (j p k : String) : "run:job:" ++ j ≠ workerSession p k := by
  intro same
  have letters := congrArg String.toList same
  simp [workerSession] at letters

theorem checkpointKey_injective {p q : String} {c d : RunContext} (plain : ':' ∉ p.toList) (other : ':' ∉ q.toList)
    (job : c.kind = .job) (job' : d.kind = .job) (same : checkpointKey c p = checkpointKey d q) :
    p = q ∧ c.contextId = d.contextId := by
  rw [checkpointKey_job job, checkpointKey_job job'] at same
  by_cases left : p = "" <;> by_cases right : q = ""
  · rw [if_pos left, if_pos right] at same
    refine ⟨left.trans right.symm, ?_⟩
    have letters := congrArg String.toList same
    exact String.toList_inj.mp (by simpa using letters)
  · rw [if_pos left, if_neg right] at same
    exact absurd same (run_ne_worker _ _ _)
  · rw [if_neg left, if_pos right] at same
    exact absurd same.symm (run_ne_worker _ _ _)
  · rw [if_neg left, if_neg right] at same
    exact workerSession_injective plain other same

/-- The session ids of the workers of these personas are taken apart again, no two jobs share one, nor a checkpoint,
    and a pause is recorded on the job of its session. -/
structure SessionsFaithful (names : List String) : Prop where
  inverse : ∀ p ∈ names, ∀ j, jobIdFromSession (workerSession p j) = some j
  sessions : ∀ p ∈ names, ∀ q ∈ names, ∀ j k, workerSession p j = workerSession q k → p = q ∧ j = k
  checkpoints : ∀ p ∈ names, ∀ q ∈ names, ∀ c d : RunContext, c.kind = .job → d.kind = .job →
    checkpointKey c p = checkpointKey d q → p = q ∧ c.contextId = d.contextId
  pauses : ∀ p ∈ names, ∀ j, j ≠ "" → ∀ paramsHash approvalId toolName toolArgs riskLevel,
    (buildHitlPreview paramsHash approvalId toolName toolArgs riskLevel (workerSession p j) p).jobId = j

theorem sessionsFaithful_iff (names : List String) : SessionsFaithful names ↔ ∀ p ∈ names, ':' ∉ p.toList := by
  constructor
  · intro faithful p member colon
    exact jobIdFromSession_colon colon "" (faithful.inverse p member "")
  · intro plain
    refine ⟨fun p hp j => jobIdFromSession_workerSession (plain p hp) j, fun p hp q hq j k same => ?_,
      fun p hp q hq c d job job' same => ?_, fun p hp j named _ _ _ _ _ => ?_⟩
    · exact workerSession_injective (plain p hp) (plain q hq) same
    · exact checkpointKey_injective (plain p hp) (plain q hq) job job' same
    · unfold buildHitlPreview orElse
      rw [jobIdFromSession_workerSession (plain p hp)]
      exact if_neg named

/-- The job of a persona with a colon is not found again, and its session is that of another persona's job. -/
theorem colon_persona_confused :
    ¬SessionsFaithful ["soc", "soc:soc-eu"] ∧
      jobIdFromSession (workerSession "soc:soc-eu" "soc:soc-eu-1-0a1b2c3d") = some "soc-eu:soc:soc-eu-1-0a1b2c3d" ∧
      workerSession "soc" "soc-eu:soc:soc-eu-1-0a1b2c3d" = workerSession "soc:soc-eu" "soc:soc-eu-1-0a1b2c3d" := by
  refine ⟨fun faithful => ?_, by decide, by decide⟩
  have inverse := faithful.inverse "soc:soc-eu" (by decide) "1"
  exact absurd inverse (by decide)

end CysAgi
