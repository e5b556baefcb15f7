import CysAgi.Hitl.Resume
import CysAgi.Runtime.Agent

namespace CysAgi

open Py

/-- The arguments of an execution are those whose hash the resume put in the audit log. -/
def ApprovalBinds (env : ResumeEnv) (jobId : String) (request : JobResumeRequest) (w : World)
    (e : ToolExecution) : Prop :=
  ∃ approval, (final (beginResume env jobId request) w).approvalRecords = w.approvalRecords ++ [approval] ∧
    approval.paramsHash = env.auditParamsHash e.args

theorem approvalRecords_beginResume {env : ResumeEnv} {jobId : String} {request : JobResumeRequest}
    {w : World} {record : JobRecord} {pending : PendingHitlAction}
    (accepted : Accepted env w jobId request record pending) :
    (final (beginResume env jobId request) w).approvalRecords =
      w.approvalRecords ++ [approvalOf env jobId request pending] := by
  rw [final, beginResume_accepted accepted]
  by_cases reject : request.decision = "reject"
  · rw [if_pos reject]
    rfl
  · rw [if_neg reject]
    rfl

/-- The replayed call runs with its original arguments, the audit record holds the decided
    ones: the two agree unless an edit was given that hashes differently. -/
theorem approval_binds_iff {env : ResumeEnv} (mw : SecurityMiddleware) (call : ToolCall) (node : NodeRun)
    {w : World} {jobId : String} {request : JobResumeRequest} (record : JobRecord)
    (accepted : Accepted env w jobId request record (mw.preview call node).pending)
    (agent : Agent) (replay : NodeRun) (later : World) {e : ToolExecution}
    (ran : e ∈ agent.newExecutions call replay later) :
    ApprovalBinds env jobId request w e ↔
      request.decision ≠ "edit" ∨ request.editedArgs = [] ∨
        env.auditParamsHash request.editedArgs = env.auditParamsHash call.args := by
  have original : e.args = call.args := (Agent.executions_bound (Agent.mem_newExecutions ran)).2
  have paused : (mw.preview call node).pending.toolArgs = call.args := rfl
  have recorded : ApprovalBinds env jobId request w e ↔
      env.auditParamsHash (decidedArgs request (mw.preview call node).pending) =
        env.auditParamsHash call.args := by
    unfold ApprovalBinds
    rw [approvalRecords_beginResume accepted, original]
    constructor
    · intro given
      obtain ⟨approval, logged, bound⟩ := given
      rw [← bound, ← List.singleton_inj.mp (List.append_cancel_left logged)]
      rfl
    · intro bound
      exact ⟨_, rfl, bound⟩
  rw [recorded, decidedArgs, paused]
  by_cases edit : request.decision = "edit"
  · by_cases blank : request.editedArgs = []
    · simp [blank]
    · simp [edit, blank]
  · simp [edit]

def sampleHash : JsonDict → String
  | [(_, .str value)] => value
  | _ => ""

def sampleEnv : ResumeEnv :=
  { paramsHash := sampleHash, auditParamsHash := sampleHash, createApprovalId := "appr-0" }

def sampleMiddleware : SecurityMiddleware :=
  { agentId := "soc", sessionId := "worker:soc:job-1", stage := "prod"
    policy := { classifyToolRisk := fun _ _ => .high, hitlThreshold := fun _ => .low }
    paramsHash := sampleHash }

def sampleAgent : Agent := { tools := [.registry "shell"], middleware := sampleMiddleware }

def sampleCall : ToolCall := { id := "call-1", name := "shell", args := [("command", .str "id")] }

def sampleNode : NodeRun := { approvalId := "appr-1" }

def samplePaused : World := final (sampleAgent.callTool sampleCall sampleNode) {}

def sampleRecord : JobRecord :=
  { jobId := "job-1", sessionId := "worker:soc:job-1", persona := "soc", status := .awaitingApproval
    hitlPreview := (sampleMiddleware.preview sampleCall sampleNode).toDict
    pendingHitl := some (sampleMiddleware.preview sampleCall sampleNode).pending }

def answeredNode (request : JobResumeRequest) : NodeRun :=
  { approvalId := "appr-2"
    answer := some (.obj (resumePayload request (sampleMiddleware.preview sampleCall sampleNode).pending)) }

theorem approval_binds_iff_approved :
    ApprovalBinds sampleEnv "job-1" { decision := "approve" } samplePaused
        (sampleAgent.execution sampleCall (.registry "shell")) ↔
      "approve" ≠ "edit" ∨ ([] : JsonDict) = [] ∨
        sampleHash [] = sampleHash [("command", .str "id")] :=
  approval_binds_iff sampleMiddleware sampleCall sampleNode sampleRecord
    ⟨by decide, by decide, by decide, by decide, by decide⟩ sampleAgent
    (answeredNode { decision := "approve" })
    (final (beginResume sampleEnv "job-1" { decision := "approve" }) samplePaused) (by decide)

/-- A reviewer who replaces the command has the replacement recorded and the original run. -/
theorem edited_args_recorded_not_run :
    let request : JobResumeRequest := { decision := "edit", editedArgs := [("command", .str "ls")] }
    let resumed := final (beginResume sampleEnv "job-1" request) samplePaused
    resumed.approvalRecords.map HitlApprovalRecord.paramsHash = [sampleHash [("command", .str "ls")]] ∧
      (sampleAgent.newExecutions sampleCall (answeredNode request) resumed).map ToolExecution.args =
        [[("command", .str "id")]] ∧
      sampleHash [("command", .str "ls")] ≠ sampleHash [("command", .str "id")] := by
  decide

end CysAgi
