import CysAgi.Hitl.ApprovalBinding

namespace CysAgi

open Py

/-- The job can still be handled: it is terminal, or it awaits the approval of an action. -/
def Handleable (w : World) (jobId : String) : Prop :=
  ∃ record, w.jobStore.get jobId = some record ∧
    (record.status.Terminal ∨ ∃ pending, record.Awaiting pending)

theorem handleable_markCompleted {w : World} {jobId : String}
    (known : ∃ record, w.jobStore.get jobId = some record) : Handleable (w.markCompleted jobId) jobId := by
  obtain ⟨record, stored⟩ := InMemoryJobStore.known_modify known jobId fun record =>
    { record with status := .completed }
  have done := InMemoryJobStore.status_of_markCompleted stored
  exact ⟨record, stored, .inl (.inl done)⟩

theorem handleable_markFailed {w : World} {jobId : String}
    (known : ∃ record, w.jobStore.get jobId = some record) : Handleable (w.markFailed jobId) jobId := by
  obtain ⟨record, stored⟩ := InMemoryJobStore.known_modify known jobId fun record =>
    { record with status := .failed }
  have done := InMemoryJobStore.status_of_markFailed stored
  exact ⟨record, stored, .inl (.inr done)⟩

theorem not_handleable_running {w : World} {jobId : String} {record : JobRecord}
    (stored : w.jobStore.get jobId = some record) (running : record.status = .running) : ¬ Handleable w jobId := by
  intro given
  obtain ⟨found, here, settled⟩ := given
  have same : record = found := Option.some.inj (stored.symm.trans here)
  subst same
  rcases settled with terminal | ⟨action, awaiting⟩
  · rw [running] at terminal
    exact absurd terminal (by decide)
  · have waiting := awaiting.1
    rw [running] at waiting
    cases waiting

theorem handleable_pauseAll_iff {w : World} {jobId : String} {record : JobRecord}
    (stored : w.jobStore.get jobId = some record) (running : record.status = .running)
    (pauses : List (PendingHitlAction × JsonDict)) :
    Handleable (w.pauseAll pauses) jobId ↔ ∃ pause ∈ pauses, pause.1.jobId = jobId := by
  by_cases again : ∃ pause ∈ pauses, pause.1.jobId = jobId
  · obtain ⟨last, action, paused, awaiting⟩ := World.get_pauseAll_of_mem again w
    exact iff_of_true ⟨last, paused, .inr ⟨action, awaiting⟩⟩ again
  · have none_again := again
    push Not at none_again
    have kept := World.get_pauseAll_of_none none_again w
    rw [stored] at kept
    exact iff_of_false (not_handleable_running kept running) again

/-- An accepted request leaves its job handleable exactly when it rejects, when the runtime
    returns, or when the resumed run pauses the job once more before it raises. -/
theorem handleable_iff {env : ResumeEnv} {jobId : String} {request : JobResumeRequest} {w : World}
    (record : JobRecord) (pending : PendingHitlAction)
    (accepted : Accepted env w jobId request record pending) (aresume : Aresume) :
    Handleable (final (ResumeHitlJob.execute env aresume jobId request) w) jobId ↔
      request.decision = "reject" ∨
      (∃ result, (aresume record.persona record.sessionId (resumePayload request pending)).outcome = .ok result) ∨
      ∃ pause ∈ (aresume record.persona record.sessionId (resumePayload request pending)).pauses,
        pause.1.jobId = jobId := by
  rw [final_execute accepted]
  by_cases reject : request.decision = "reject"
  · rw [if_pos reject]
    exact iff_of_true (handleable_markFailed ⟨record, accepted.found⟩) (.inl reject)
  rw [if_neg reject]
  generalize aresume record.persona record.sessionId (resumePayload request pending) = agentRun
  dsimp only
  have resumed : ∃ running, ((w.recordApproval (approvalOf env jobId request pending)).markRunning
      jobId).jobStore.get jobId = some running := InMemoryJobStore.known_modify ⟨record, accepted.found⟩ _ _
  generalize before_eq : (w.recordApproval (approvalOf env jobId request pending)).markRunning jobId = before
    at resumed
  cases ended : agentRun.outcome with
  | ok result =>
    have known : ∃ last, (before.pauseAll agentRun.pauses).jobStore.get jobId = some last :=
      World.pauseAll_preserves (P := fun v => ∃ last, v.jobStore.get jobId = some last)
        (fun _ _ _ held => InMemoryJobStore.known_set held _ _) agentRun.pauses resumed
    exact iff_of_true (handleable_markCompleted known) (.inr (.inl ⟨result, rfl⟩))
  | error e =>
    obtain ⟨running, stored⟩ := resumed
    have status : running.status = .running := by
      rw [← before_eq] at stored
      exact InMemoryJobStore.status_of_markRunning stored
    dsimp only
    rw [handleable_pauseAll_iff stored status]
    simp [reject]

def raisingResume : Aresume := fun _ _ _ => { outcome := .error (.exception "model unavailable") }

def returningResume : Aresume := fun _ _ _ => { outcome := .ok (.obj [("response", .str "done")]) }

theorem handleable_iff_sample :
    Handleable (final (ResumeHitlJob.execute sampleEnv returningResume "job-1" { decision := "approve" })
        samplePaused) "job-1" ↔
      "approve" = "reject" ∨ (∃ result, Except.ok (.obj [("response", .str "done")]) =
        (Except.ok result : Except PyExc Json)) ∨
      ∃ pause ∈ ([] : List (PendingHitlAction × JsonDict)), pause.1.jobId = "job-1" :=
  handleable_iff sampleRecord (sampleMiddleware.preview sampleCall sampleNode).pending
    ⟨by decide, by decide, by decide, by decide, by decide⟩ returningResume

/-- When the approved run raises, the job stays running with nothing to answer. -/
theorem raising_resume_strands :
    (final (ResumeHitlJob.execute sampleEnv raisingResume "job-1" { decision := "approve" })
      samplePaused).jobStore.get "job-1" =
      some { sampleRecord with status := .running, pendingHitl := none } := by
  decide

end CysAgi
