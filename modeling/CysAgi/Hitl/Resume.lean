import CysAgi.Runtime.World

namespace CysAgi

open Py

/-- What the resume use case is wired with. The audit log and the pause preview hash
    arguments with two different functions of the source. -/
structure ResumeEnv where
  paramsHash : JsonDict → String
  auditParamsHash : JsonDict → String
  createApprovalId : String

def targetResource (toolArgs : JsonDict) : Json :=
  JsonDict.getD toolArgs "target" (JsonDict.getD toolArgs "command" (.str ""))

def Auditable (toolArgs : JsonDict) : Prop := ∃ target, targetResource toolArgs = .str target

instance (toolArgs : JsonDict) : Decidable (Auditable toolArgs) :=
  match held : targetResource toolArgs with
  | .str target => isTrue ⟨target, held⟩
  | .null | .bool _ | .int _ | .float _ | .arr _ | .obj _ =>
    isFalse fun ⟨target, found⟩ => by rw [held] at found; cases found

def recordHitlApproval (env : ResumeEnv) (actor tool persona jobId decision : String)
    (toolArgs : JsonDict) (approvalId : String) : Effect HitlApprovalRecord :=
  match targetResource toolArgs with
  | .str target => do
    let record : HitlApprovalRecord :=
      { approvalId := orElse approvalId env.createApprovalId, actor, tool, persona, jobId
        targetResource := target, paramsHash := env.auditParamsHash toolArgs, decision }
    modify fun w => { w with approvalRecords := w.approvalRecords ++ [record] }
    return record
  | _ => throw (.exception "target_resource: Input should be a valid string")

inductive Resumption where
  | rejected
  | resumed (record : JobRecord) (payload : JsonDict)
  deriving DecidableEq

def decidedArgs (request : JobResumeRequest) (pending : PendingHitlAction) : JsonDict :=
  if request.decision = "edit" ∧ request.editedArgs ≠ [] then request.editedArgs else pending.toolArgs

def hashMismatch (env : ResumeEnv) (record : JobRecord) (toolArgs : JsonDict) : Bool :=
  let expected := JsonDict.getD record.hitlPreview "params_hash" (.str "")
  expected.truthy && Json.str (env.paramsHash toolArgs) != expected

def resumePayload (request : JobResumeRequest) (pending : PendingHitlAction) : JsonDict :=
  [("decision", .str request.decision), ("approval_id", .str pending.approvalId)]

/-- `ResumeHitlJob.execute` up to its one await, the call of the runtime's `aresume`. -/
def beginResume (env : ResumeEnv) (jobId : String) (request : JobResumeRequest) : Effect Resumption := do
  match (← get).jobStore.get jobId with
  | none => throw (.resumeHitlJobError s!"Unknown job: {jobId}")
  | some record =>
    match record.status, record.pendingHitl with
    | .awaitingApproval, some pending =>
      if request.approvalId ≠ "" ∧ request.approvalId ≠ pending.approvalId then
        throw (.resumeHitlJobError "Invalid approval_id for high-risk action")
      else if request.decision = "reject" then
        -- a rejection is recorded for the original arguments, with no look at their hash
        let _ ← recordHitlApproval env request.actor pending.toolName pending.persona jobId "reject"
          pending.toolArgs pending.approvalId
        modify fun w => w.markFailed jobId
        return .rejected
      else if request.decision = "approve" ∧ hashMismatch env record (decidedArgs request pending) then
        throw (.resumeHitlJobError "Tool args hash mismatch — approval bypass blocked")
      else
        let _ ← recordHitlApproval env request.actor pending.toolName pending.persona jobId
          request.decision (decidedArgs request pending) pending.approvalId
        modify fun w => w.markRunning jobId
        return .resumed record (resumePayload request pending)
    | _, _ => throw (.resumeHitlJobError s!"Job {jobId} is not awaiting approval")

structure ResumeResponse where
  jobId : String
  status : String
  result : Option Json := none
  deriving DecidableEq

abbrev Aresume := String → String → JsonDict → AgentRun

def ResumeHitlJob.execute (env : ResumeEnv) (aresume : Aresume) (jobId : String)
    (request : JobResumeRequest) : Effect ResumeResponse := do
  match ← beginResume env jobId request with
  | .rejected => return { jobId, status := "rejected" }
  | .resumed record payload =>
    let result ← awaitAgent (aresume record.persona record.sessionId payload)
    modify fun w => w.markCompleted jobId
    return { jobId, status := "resumed", result := some result }

/-- The request decides this pending action of the job: every check of it passes. -/
structure Accepted (env : ResumeEnv) (w : World) (jobId : String) (request : JobResumeRequest)
    (record : JobRecord) (pending : PendingHitlAction) : Prop where
  found : w.jobStore.get jobId = some record
  awaiting : record.Awaiting pending
  identified : request.approvalId = "" ∨ request.approvalId = pending.approvalId
  matching : request.decision = "approve" → hashMismatch env record (decidedArgs request pending) = false
  auditable : Auditable (decidedArgs request pending)

def approvalOf (env : ResumeEnv) (jobId : String) (request : JobResumeRequest)
    (pending : PendingHitlAction) : HitlApprovalRecord :=
  { approvalId := orElse pending.approvalId env.createApprovalId, actor := request.actor
    tool := pending.toolName, persona := pending.persona, jobId
    targetResource := match targetResource (decidedArgs request pending) with
      | .str target => target
      | _ => ""
    paramsHash := env.auditParamsHash (decidedArgs request pending), decision := request.decision }

def World.recordApproval (w : World) (record : HitlApprovalRecord) : World :=
  { w with approvalRecords := w.approvalRecords ++ [record] }

theorem decidedArgs_of_ne_edit {request : JobResumeRequest} (other : request.decision ≠ "edit")
    (pending : PendingHitlAction) : decidedArgs request pending = pending.toolArgs := by
  simp [decidedArgs, other]

theorem recordHitlApproval_cases (env : ResumeEnv) (jobId : String) (request : JobResumeRequest)
    (pending : PendingHitlAction) (w : World) :
    (Auditable (decidedArgs request pending) ∧
        recordHitlApproval env request.actor pending.toolName pending.persona jobId request.decision
            (decidedArgs request pending) pending.approvalId w =
          .ok (approvalOf env jobId request pending) (w.recordApproval (approvalOf env jobId request pending))) ∨
      (¬ Auditable (decidedArgs request pending) ∧
        recordHitlApproval env request.actor pending.toolName pending.persona jobId request.decision
            (decidedArgs request pending) pending.approvalId w =
          .error (.exception "target_resource: Input should be a valid string") w) := by
  unfold recordHitlApproval Auditable approvalOf
  cases held : targetResource (decidedArgs request pending) with
  | str target => exact .inl ⟨⟨target, rfl⟩, rfl⟩
  | _ => exact .inr ⟨by simp, rfl⟩

theorem not_accepted_of_get_none {env : ResumeEnv} {w : World} {jobId : String}
    (found : w.jobStore.get jobId = none) (request : JobResumeRequest) (record : JobRecord)
    (pending : PendingHitlAction) : ¬ Accepted env w jobId request record pending := by
  intro accepted
  have known := accepted.found
  rw [found] at known
  cases known

theorem beginResume_awaiting (env : ResumeEnv) {jobId : String} (request : JobResumeRequest) {w : World}
    {record : JobRecord} {pending : PendingHitlAction} (found : w.jobStore.get jobId = some record)
    (awaiting : record.Awaiting pending) :
    (∃ e, beginResume env jobId request w = .error e w ∧
        ¬ Accepted env w jobId request record pending) ∨
      (Accepted env w jobId request record pending ∧ request.decision = "reject" ∧
        beginResume env jobId request w =
          .ok .rejected ((w.recordApproval (approvalOf env jobId request pending)).markFailed jobId)) ∨
      (Accepted env w jobId request record pending ∧ request.decision ≠ "reject" ∧
        beginResume env jobId request w =
          .ok (.resumed record (resumePayload request pending))
            ((w.recordApproval (approvalOf env jobId request pending)).markRunning jobId)) := by
  unfold beginResume
  rw [run_bind, run_get]
  simp only [found, awaiting.1, awaiting.2]
  by_cases wrongId : request.approvalId ≠ "" ∧ request.approvalId ≠ pending.approvalId
  · rw [if_pos wrongId]
    exact .inl ⟨_, rfl, fun accepted => accepted.identified.elim wrongId.1 wrongId.2⟩
  have identified : request.approvalId = "" ∨ request.approvalId = pending.approvalId := by
    rw [not_and_or, not_not, not_not] at wrongId
    exact wrongId
  rw [if_neg wrongId]
  by_cases reject : request.decision = "reject"
  · have original : decidedArgs request pending = pending.toolArgs :=
      decidedArgs_of_ne_edit (by simp [reject]) pending
    rw [if_pos reject, run_bind, ← reject, ← original]
    rcases recordHitlApproval_cases env jobId request pending w with ⟨auditable, logged⟩ | ⟨bad, refused⟩
    · rw [logged]
      exact .inr (.inl ⟨⟨found, awaiting, identified, by simp [reject], auditable⟩, rfl, rfl⟩)
    · rw [refused]
      exact .inl ⟨_, rfl, fun accepted => bad accepted.auditable⟩
  rw [if_neg reject]
  by_cases mismatch : request.decision = "approve" ∧ hashMismatch env record (decidedArgs request pending)
  · rw [if_pos mismatch]
    refine .inl ⟨_, rfl, fun accepted => ?_⟩
    have matching := accepted.matching mismatch.1
    rw [mismatch.2] at matching
    cases matching
  have matching : request.decision = "approve" →
      hashMismatch env record (decidedArgs request pending) = false := by
    intro approve
    exact Bool.eq_false_iff.mpr fun bad => mismatch ⟨approve, bad⟩
  rw [if_neg mismatch, run_bind]
  rcases recordHitlApproval_cases env jobId request pending w with ⟨auditable, logged⟩ | ⟨bad, refused⟩
  · rw [logged]
    exact .inr (.inr ⟨⟨found, awaiting, identified, matching, auditable⟩, reject, rfl⟩)
  · rw [refused]
    exact .inl ⟨_, rfl, fun accepted => bad accepted.auditable⟩

theorem beginResume_cases (env : ResumeEnv) (jobId : String) (request : JobResumeRequest) (w : World) :
    (∃ e, beginResume env jobId request w = .error e w ∧
        ∀ record pending, ¬ Accepted env w jobId request record pending) ∨
      ∃ record pending, Accepted env w jobId request record pending ∧
        ((request.decision = "reject" ∧ beginResume env jobId request w =
            .ok .rejected ((w.recordApproval (approvalOf env jobId request pending)).markFailed jobId)) ∨
          (request.decision ≠ "reject" ∧ beginResume env jobId request w =
            .ok (.resumed record (resumePayload request pending))
              ((w.recordApproval (approvalOf env jobId request pending)).markRunning jobId))) := by
  cases found : w.jobStore.get jobId with
  | none =>
    refine .inl ⟨.resumeHitlJobError s!"Unknown job: {jobId}", ?_, not_accepted_of_get_none found request⟩
    unfold beginResume
    rw [run_bind, run_get]
    simp only [found, run_throw]
  | some record =>
    by_cases answerable : ∃ pending, record.Awaiting pending
    · obtain ⟨pending, awaiting⟩ := answerable
      rcases beginResume_awaiting env request found awaiting with
        ⟨e, refused, unaccepted⟩ | ⟨accepted, reject, done⟩ | ⟨accepted, other, done⟩
      · refine .inl ⟨e, refused, fun other another accepted => ?_⟩
        have same : record = other := Option.some.inj (found.symm.trans accepted.found)
        subst same
        have samePending : pending = another :=
          Option.some.inj (awaiting.2.symm.trans accepted.awaiting.2)
        subst samePending
        exact unaccepted accepted
      · exact .inr ⟨record, pending, accepted, .inl ⟨reject, done⟩⟩
      · exact .inr ⟨record, pending, accepted, .inr ⟨other, done⟩⟩
    · refine .inl ⟨.resumeHitlJobError s!"Job {jobId} is not awaiting approval", ?_, ?_⟩
      · unfold beginResume
        rw [run_bind, run_get]
        simp only [found]
        cases status : record.status with
        | awaitingApproval =>
          cases held : record.pendingHitl with
          | none => rfl
          | some pending => exact absurd ⟨pending, status, held⟩ answerable
        | _ => rfl
      · intro other pending accepted
        have same : record = other := Option.some.inj (found.symm.trans accepted.found)
        subst same
        exact answerable ⟨pending, accepted.awaiting⟩

theorem beginResume_accepted {env : ResumeEnv} {jobId : String} {request : JobResumeRequest} {w : World}
    {record : JobRecord} {pending : PendingHitlAction}
    (accepted : Accepted env w jobId request record pending) :
    beginResume env jobId request w =
      if request.decision = "reject" then
        .ok .rejected ((w.recordApproval (approvalOf env jobId request pending)).markFailed jobId)
      else
        .ok (.resumed record (resumePayload request pending))
          ((w.recordApproval (approvalOf env jobId request pending)).markRunning jobId) := by
  rcases beginResume_awaiting env request accepted.found accepted.awaiting with
    ⟨e, refused, unaccepted⟩ | ⟨-, reject, done⟩ | ⟨-, other, done⟩
  · exact absurd accepted unaccepted
  · rw [if_pos reject, done]
  · rw [if_neg other, done]

theorem final_execute {env : ResumeEnv} {jobId : String} {request : JobResumeRequest} {w : World}
    {record : JobRecord} {pending : PendingHitlAction}
    (accepted : Accepted env w jobId request record pending) (aresume : Aresume) :
    final (ResumeHitlJob.execute env aresume jobId request) w =
      if request.decision = "reject" then
        (w.recordApproval (approvalOf env jobId request pending)).markFailed jobId
      else
        let agentRun := aresume record.persona record.sessionId (resumePayload request pending)
        let after := ((w.recordApproval (approvalOf env jobId request pending)).markRunning jobId).pauseAll
          agentRun.pauses
        match agentRun.outcome with
        | .ok _ => after.markCompleted jobId
        | .error _ => after := by
  unfold ResumeHitlJob.execute
  rw [final_bind]
  by_cases reject : request.decision = "reject"
  · simp only [outcome, final, beginResume_accepted accepted, reject, if_true, run_pure]
  · simp only [outcome, final, beginResume_accepted accepted, reject, if_false]
    change final _ _ = _
    rw [final_bind, outcome_awaitAgent, final_awaitAgent]
    cases (aresume record.persona record.sessionId (resumePayload request pending)).outcome <;> rfl

theorem execute_ok {env : ResumeEnv} {aresume : Aresume} {jobId : String} {request : JobResumeRequest}
    {w t : World} {response : ResumeResponse}
    (done : ResumeHitlJob.execute env aresume jobId request w = .ok response t) :
    ∃ v, t = World.markFailed v jobId ∨ t = World.markCompleted v jobId := by
  unfold ResumeHitlJob.execute at done
  obtain ⟨resumption, v, began, rest⟩ := run_bind_ok.mp done
  rcases beginResume_cases env jobId request w with
    ⟨e, refused, -⟩ | ⟨record, pending, -, ⟨-, rejected⟩ | ⟨-, resumed⟩⟩
  · rw [refused] at began
    cases began
  · rw [rejected] at began
    cases began
    cases rest
    exact ⟨_, .inl rfl⟩
  · rw [resumed] at began
    cases began
    obtain ⟨result, u, -, last⟩ := run_bind_ok.mp rest
    cases last
    exact ⟨u, .inr rfl⟩

end CysAgi
