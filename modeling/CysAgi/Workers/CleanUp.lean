import CysAgi.Hitl.PauseSurvival
import CysAgi.Workers.PersonaMarked

namespace CysAgi

open Py

namespace RunWorkerJob

structure CleanedUp (deps : WorkerDeps) (job : WorkerJob) (before : World) (run : RunResult) (after : World) :
    Prop where
  destroyed : after.destroyedSandboxes = before.destroyedSandboxes ++ [job.jobId]
  completed : after.stored job.jobId = some .completed ↔ run.success = true
  failed : after.stored job.jobId = some .failed ↔ run.success = false
  marked : deps.hasInvestigationStore = true → Marked job after

def Letters (deps : WorkerDeps) : Prop :=
  ∀ send, deps.sendToDlq = some send → ∀ job text, send job text = .ok ()

section

variable {deps : WorkerDeps} {job : WorkerJob}

theorem sendToDlq_runs (letters : Letters deps) (job : WorkerJob) (e : PyExc) (w : World) :
    ∃ t, sendToDlq deps job e w = .ok () t := by
  unfold sendToDlq
  cases queue : deps.sendToDlq with
  | none => exact ⟨w, rfl⟩
  | some send =>
    dsimp only
    rw [run_bind, letters send queue]
    exact ⟨_, rfl⟩

theorem onFailure_runs (job : WorkerJob) (letters : Letters deps) {e : PyExc} (caught : e.caught) (w : World) :
    ∃ run t, onFailure deps job e w = .ok run t := by
  have expected : ∀ e, ∃ run t, onExpected deps job e w = .ok run t := by
    intro e
    unfold onExpected
    rw [run_bind, run_markFailed]
    exact ⟨_, _, rfl⟩
  have unexpected : ∀ e, ∃ run t, onUnexpected deps job e w = .ok run t := by
    intro e
    obtain ⟨t, sent⟩ := sendToDlq_runs letters job e (failedWorld deps job (w.recordAgentFailure job.persona))
    unfold onUnexpected
    rw [run_bind, run_modify]
    dsimp only
    rw [run_bind, run_markFailed]
    dsimp only
    rw [run_bind, sent]
    exact ⟨_, _, rfl⟩
  cases e with
  | baseException message => cases caught
  | jobBudgetExceeded message => exact expected _
  | securityViolation message => exact expected _
  | _ => exact unexpected _

theorem body_destroys_nothing (sessionId : String) (w : World) :
    (final (body deps job sessionId) w).destroyedSandboxes = w.destroyedSandboxes := by
  refine body_preserves (P := fun v => v.destroyedSandboxes = w.destroyedSandboxes) (fun _ same => same)
    (fun _ _ _ same => same) (fun _ _ same => same) (fun _ _ same => same) (fun _ _ _ _ same => same)
    (fun v same => ?_) w rfl
  unfold completedWorld
  split <;> exact same

theorem onFailure_destroys_nothing (deps : WorkerDeps) (job : WorkerJob) (e : PyExc) (w : World) :
    (final (onFailure deps job e) w).destroyedSandboxes = w.destroyedSandboxes := by
  refine onFailure_preserves (P := fun v => v.destroyedSandboxes = w.destroyedSandboxes) (fun _ _ same => same)
    (fun v same => ?_) (fun _ _ same => same) e w rfl
  unfold failedWorld
  split <;> exact same

theorem body_keeps_known (deps : WorkerDeps) (sessionId : String) {w : World}
    (registered : ∃ record, w.jobStore.get job.jobId = some record) :
    ∃ record, (final (body deps job sessionId) w).jobStore.get job.jobId = some record :=
  (known_invariant deps job job.jobId).body (fun _ known => InMemoryJobStore.known_set known _ _) w registered

theorem body_ok {sessionId : String} {w t : World} {run : RunResult} (done : body deps job sessionId w = .ok run t) :
    run.success = true ∧ ∃ v : World, t.jobStore = v.jobStore.markCompleted job.jobId := by
  obtain ⟨prepared, u, -, rest⟩ := run_bind_ok.mp done
  obtain ⟨result, v, -, finished⟩ := run_bind_ok.mp rest
  obtain ⟨finding, before, -, success, -, -, completed, -⟩ := finish_ok finished
  exact ⟨success, before, completed⟩

end

/-- Whatever returns or raises on the way, a registered job's run ends with a result, its sandbox is
    destroyed once, its record says whether it succeeded and its persona is done. -/
theorem execute_cleans_up {deps : WorkerDeps} {job : WorkerJob} {w : World} (calm : Uncancelled deps)
    (letters : Letters deps) (destroys : ∀ runId, deps.adestroy runId = .ok ())
    (registered : ∃ record, w.jobStore.get job.jobId = some record) (sessionId : String) :
    ∃ run t, execute deps job sessionId w = .ok run t ∧ CleanedUp deps job w run t := by
  have marked : ∀ {run t}, execute deps job sessionId w = .ok run t →
      deps.hasInvestigationStore = true → Marked job t := by
    intro run t done wired
    have ended := execute_marks calm wired job sessionId w
    rwa [final, done] at ended
  rcases run_cases (body deps job sessionId) w with ⟨run, returned, -⟩ | ⟨e, raised, failed⟩
  · obtain ⟨success, v, jobs⟩ := body_ok returned
    have stored : ((final (body deps job sessionId) w).destroySandbox job.jobId).stored job.jobId =
        some .completed := by
      obtain ⟨record, found⟩ := body_keeps_known deps sessionId registered
      have status : record.status = .completed := by
        rw [jobs] at found
        exact InMemoryJobStore.status_of_markCompleted found
      change ((final (body deps job sessionId) w).jobStore.get job.jobId).map JobRecord.status = _
      rw [found, Option.map_some, status]
    have done : execute deps job sessionId w =
        .ok run ((final (body deps job sessionId) w).destroySandbox job.jobId) :=
      settle_ok.mpr ⟨destroys _, _, rfl, .inl returned⟩
    refine ⟨run, _, done, ?_, ?_, ?_, marked done⟩
    · change (final (body deps job sessionId) w).destroyedSandboxes ++ [job.jobId] = _
      rw [body_destroys_nothing]
    · simp [stored, success]
    · simp [stored, success]
  · obtain ⟨run, u, handled⟩ := onFailure_runs job letters
      (body_raises calm job sessionId w e failed) (final (body deps job sessionId) w)
    obtain ⟨success, -, jobs, -⟩ := onFailure_ok handled
    have stored : (u.destroySandbox job.jobId).stored job.jobId = some .failed := by
      apply stored_markFailed (body_keeps_known deps sessionId registered)
      change u.jobStore = _
      rw [jobs, jobStore_failedWorld]
    have done : execute deps job sessionId w = .ok run (u.destroySandbox job.jobId) :=
      settle_ok.mpr ⟨destroys _, u, rfl, .inr ⟨e, _, raised, handled⟩⟩
    refine ⟨run, _, done, ?_, ?_, ?_, marked done⟩
    · change u.destroyedSandboxes ++ [job.jobId] = _
      have kept := onFailure_destroys_nothing deps job e (final (body deps job sessionId) w)
      rw [final, handled] at kept
      rw [kept, body_destroys_nothing]
    · simp [stored, success]
    · simp [stored, success]

def unheardDeps : WorkerDeps :=
  { sampleDeps { outcome := .ok (.obj []) } with publish := fun _ _ => .error (.exception "broker unavailable") }

theorem unheard_uncancelled : Uncancelled unheardDeps := by
  constructor
  case publish =>
    intro channel envelope e raised
    cases raised
    trivial
  all_goals nofun

def samplePending : World :=
  { jobStore := InMemoryJobStore.empty.upsertPending "job-1" "soc" "inv-1" "default" "evt-1" }

theorem execute_cleans_up_unheard :
    ∃ run t, execute unheardDeps sampleJob "worker:soc:job-1" samplePending = .ok run t ∧
      CleanedUp unheardDeps sampleJob samplePending run t :=
  execute_cleans_up unheard_uncancelled nofun (fun _ => rfl) ⟨_, rfl⟩ "worker:soc:job-1"

end RunWorkerJob

end CysAgi
