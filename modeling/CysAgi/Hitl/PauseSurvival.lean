import CysAgi.Hitl.ApprovalBinding
import CysAgi.Workers.Execution

namespace CysAgi

open Py

/-- After a run the job still awaits approval of the action it was paused for, and the run
    has not recorded a persona as done. -/
def PauseSurvives (jobId tenantId investigationId persona : String) (pending : PendingHitlAction)
    (before after : World) : Prop :=
  (∃ record, after.jobStore.get jobId = some record ∧ record.Awaiting pending) ∧
    (persona ∈ after.completed tenantId investigationId → persona ∈ before.completed tenantId investigationId)

theorem not_pauseSurvives_of_terminal {jobId tenantId investigationId persona : String}
    {pending : PendingHitlAction} {before after : World}
    (terminal : ∀ record, after.jobStore.get jobId = some record → record.status.Terminal) :
    ¬ PauseSurvives jobId tenantId investigationId persona pending before after := by
  intro given
  obtain ⟨⟨record, found, awaiting⟩, -⟩ := given
  rcases terminal record found with done | done <;>
    · rw [awaiting.1] at done
      cases done

/-- While `execute` awaits the runtime a tool call of the job is interrupted, and the
    runtime returns a dict with the interrupt unanswered. -/
structure ExecutePauses (deps : WorkerDeps) (job : WorkerJob) (sessionId : String)
    (pending : PendingHitlAction) (w : World) : Prop where
  paused : ∃ prepared w' record, RunWorkerJob.prepare deps job sessionId w = .ok prepared w' ∧
    (w'.pauseAll (deps.arun prepared.call).pauses).jobStore.get job.jobId = some record ∧
    record.Awaiting pending ∧ ∃ result, (deps.arun prepared.call).outcome = .ok (.obj result)

structure ResumePauses (env : ResumeEnv) (aresume : Aresume) (jobId : String) (request : JobResumeRequest)
    (pending : PendingHitlAction) (w : World) : Prop where
  paused : ∃ record payload w' again, beginResume env jobId request w = .ok (.resumed record payload) w' ∧
    (w'.pauseAll (aresume record.persona record.sessionId payload).pauses).jobStore.get jobId = some again ∧
    again.Awaiting pending ∧ ∃ result, (aresume record.persona record.sessionId payload).outcome = .ok (.obj result)

theorem execute_settles {deps : WorkerDeps} {job : WorkerJob} {sessionId : String} {w t : World}
    {run : RunResult} (done : RunWorkerJob.execute deps job sessionId w = .ok run t) :
    ∀ record, t.jobStore.get job.jobId = some record → record.status.Terminal := by
  refine RunWorkerJob.settled_terminal (fun w u run ran => ?_) done
  obtain ⟨prepared, v, -, rest⟩ := run_bind_ok.mp ran
  obtain ⟨result, v', -, finished⟩ := run_bind_ok.mp rest
  obtain ⟨finding, v'', -, -, -, -, completed, -⟩ := RunWorkerJob.finish_ok finished
  exact ⟨v'', completed⟩

theorem resume_settles {env : ResumeEnv} {aresume : Aresume} {jobId : String} {request : JobResumeRequest}
    {w t : World} {response : ResumeResponse}
    (done : ResumeHitlJob.execute env aresume jobId request w = .ok response t) :
    ∀ record, t.jobStore.get jobId = some record → record.status.Terminal := by
  intro record found
  obtain ⟨v, rfl | rfl⟩ := execute_ok done
  · exact .inr (InMemoryJobStore.status_of_markFailed found)
  · exact .inl (InMemoryJobStore.status_of_markCompleted found)

/-- No pause outlives the use case in whose run it was raised. -/
theorem pause_never_survives (deps : WorkerDeps) (job : WorkerJob) (sessionId : String) (env : ResumeEnv)
    (aresume : Aresume) (request : JobResumeRequest) (pending : PendingHitlAction) (w t : World) :
    (∀ run, ExecutePauses deps job sessionId pending w → RunWorkerJob.execute deps job sessionId w = .ok run t →
      ¬ PauseSurvives job.jobId job.tenantId job.investigationId job.persona pending w t) ∧
    (∀ response, ResumePauses env aresume job.jobId request pending w →
      ResumeHitlJob.execute env aresume job.jobId request w = .ok response t →
      ¬ PauseSurvives job.jobId job.tenantId job.investigationId job.persona pending w t) := by
  constructor
  · intro run _ done
    exact not_pauseSurvives_of_terminal (execute_settles done)
  · intro response _ done
    exact not_pauseSurvives_of_terminal (resume_settles done)

def sampleJob : WorkerJob := { jobId := "job-1", eventId := "evt-1", persona := "soc", correlationId := "inv-1" }

def samplePause : PendingHitlAction × JsonDict :=
  ((sampleMiddleware.preview sampleCall sampleNode).pending, (sampleMiddleware.preview sampleCall sampleNode).toDict)

def sampleDeps (agentRun : AgentRun) : WorkerDeps :=
  { arun := fun _ => agentRun
    registry := fun name => .ok { name, tools := ["shell"] }
    toolRegistry := { names := ["shell"] }
    schemas := { names := [] }
    useToolGateway := true
    acreate := fun runId _ => .ok { sandboxId := runId }
    adestroy := fun _ => .ok ()
    sanitize := .ok
    queryInvestigation := none
    appendPendingFinding := none
    hasInvestigationStore := true
    sendMessage := fun _ _ payload => .ok (.obj payload)
    receiveMessage := fun _ _ => .ok ()
    publish := fun _ _ => .ok ()
    sendToDlq := none
    validateSchema := fun _ result => .ok result
    parseJsonText := fun _ => .ok none
    dumps := fun _ => ""
    str := fun _ => ""
    dumpState := fun _ => .null
    stage := "prod"
    selfRefineMax := 0 }

def interruptedRun : AgentRun := { pauses := [samplePause], outcome := .ok (.obj [("raw_response", .str "")]) }

theorem interrupted_execute_pauses :
    ExecutePauses (sampleDeps interruptedRun) sampleJob "worker:soc:job-1" samplePause.1 {} := by
  refine ⟨_, _, { sampleRecord with correlationId := "inv-1", eventId := "evt-1" }, rfl, ?_, ?_, _, rfl⟩ <;> decide

theorem interrupted_resume_pauses :
    ResumePauses sampleEnv (fun _ _ _ => interruptedRun) "job-1" { decision := "approve" } samplePause.1
      samplePaused := by
  refine ⟨sampleRecord, _, _, sampleRecord, rfl, ?_, ?_, _, rfl⟩ <;> decide

theorem pause_never_survives_sample :
    ¬ PauseSurvives "job-1" "default" "inv-1" "soc" samplePause.1 {}
        (final (RunWorkerJob.execute (sampleDeps interruptedRun) sampleJob "worker:soc:job-1") {}) ∧
      ¬ PauseSurvives "job-1" "default" "inv-1" "soc" samplePause.1 samplePaused
        (final (ResumeHitlJob.execute sampleEnv (fun _ _ _ => interruptedRun) "job-1" { decision := "approve" })
          samplePaused) :=
  ⟨(pause_never_survives _ sampleJob _ sampleEnv (fun _ _ _ => interruptedRun) { decision := "approve" } _ _ _).1 _
      interrupted_execute_pauses rfl,
    (pause_never_survives (sampleDeps interruptedRun) sampleJob "" _ _ _ _ _ _).2 _ interrupted_resume_pauses rfl⟩

/-- The interrupted job ends completed and its persona done. -/
theorem interrupted_job_completes :
    let t := final (RunWorkerJob.execute (sampleDeps interruptedRun) sampleJob "worker:soc:job-1") {}
    ExecutePauses (sampleDeps interruptedRun) sampleJob "worker:soc:job-1" samplePause.1 {} ∧
      ¬ PauseSurvives "job-1" "default" "inv-1" "soc" samplePause.1 {} t ∧
      (t.jobStore.get "job-1").map JobRecord.status = some .completed ∧ t.completed "default" "inv-1" = ["soc"] := by
  have settled := execute_settles (show RunWorkerJob.execute (sampleDeps interruptedRun) sampleJob
    "worker:soc:job-1" {} = .ok _ _ from rfl)
  exact ⟨interrupted_execute_pauses, not_pauseSurvives_of_terminal settled, by decide, by decide⟩

end CysAgi
