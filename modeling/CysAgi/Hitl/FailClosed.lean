import CysAgi.Hitl.ApprovalBinding

namespace CysAgi

open Py

/-- A paused job is answered and, where that resumes it, the runtime runs the paused call
    again with the resume payload as the interrupt's answer. -/
def answerAndReplay (env : ResumeEnv) (agent : Agent) (jobId : String) (request : JobResumeRequest)
    (call : ToolCall) (node : NodeRun) : Effect Unit := do
  match ← beginResume env jobId request with
  | .rejected => return ()
  | .resumed _ payload =>
    let _ ← agent.callTool call { node with answer := some (.obj payload) }
    return ()

def CarriesApproval : Json → Prop
  | .obj value =>
    JsonDict.getD value "decision" .null = .str "approve" ∨ JsonDict.getD value "decision" .null = .str "edit"
  | _ => False

/-- Apart from the reviewer's answer, nothing keeps the call from its tool. -/
def Agent.LetsThrough (agent : Agent) (call : ToolCall) (node : NodeRun) (w : World) : Prop :=
  agent.middleware.Admitted w node ∧ node.publishPaused = some (.ok ()) ∧
    ∃ tool, agent.findTool call.name = some tool

section

variable {env : ResumeEnv} {agent : Agent} {call : ToolCall}

theorem gated_runs_iff (gated : agent.middleware.Gated call) (live : agent.middleware.stage ≠ "dev")
    (value : Json) (node : NodeRun) (w : World) :
    (final (agent.callTool call { node with answer := some value }) w).executedTools = w.executedTools ↔
      ExplicitRefusal value ∨ ¬ agent.LetsThrough call node w := by
  rw [← not_iff_not, ← ne_eq, Agent.callTool_runs_iff, Agent.passes_gated_iff gated live]
  simp only [Option.some.injEq, exists_eq_left', resumeDecisionApproved_iff, Agent.LetsThrough,
    SecurityMiddleware.Admitted, not_or, not_not]
  tauto

theorem resumePayload_not_refusal {request : JobResumeRequest} (other : request.decision ≠ "reject")
    (pending : PendingHitlAction) : ¬ ExplicitRefusal (.obj (resumePayload request pending)) := by
  simp [ExplicitRefusal, resumePayload, JsonDict.getD, JsonDict.get?, Json.unhashable, Json.truthy, other,
    Assoc.lookup_cons]

theorem executed_answerAndReplay {jobId : String} {request : JobResumeRequest} {node : NodeRun} {w : World}
    {record : JobRecord} {pending : PendingHitlAction}
    (accepted : Accepted env w jobId request record pending) (other : request.decision ≠ "reject") :
    final (answerAndReplay env agent jobId request call node) w =
      final (agent.callTool call { node with answer := some (.obj (resumePayload request pending)) })
        ((w.recordApproval (approvalOf env jobId request pending)).markRunning jobId) := by
  unfold answerAndReplay
  rw [final_bind]
  simp only [outcome, final, beginResume_accepted accepted, if_neg other, run_bind]
  cases agent.callTool call _ _ <;> rfl

theorem answerAndReplay_runs_iff (gated : agent.middleware.Gated call)
    (live : agent.middleware.stage ≠ "dev") {jobId : String} {request : JobResumeRequest} {node : NodeRun}
    {w : World} {record : JobRecord} {pending : PendingHitlAction}
    (found : w.jobStore.get jobId = some record) (awaiting : record.Awaiting pending)
    (notApprove : request.decision ≠ "approve") (notEdit : request.decision ≠ "edit") :
    (final (answerAndReplay env agent jobId request call node) w).executedTools = w.executedTools ↔
      (request.approvalId ≠ "" ∧ request.approvalId ≠ pending.approvalId) ∨ request.decision = "reject" ∨
        ¬ Auditable pending.toolArgs ∨ ¬ agent.LetsThrough call node w := by
  have original := decidedArgs_of_ne_edit notEdit pending
  rcases beginResume_awaiting env request found awaiting with
    ⟨e, refused, unaccepted⟩ | ⟨accepted, reject, done⟩ | ⟨accepted, other, done⟩
  · have kept : final (answerAndReplay env agent jobId request call node) w = w := by
      unfold answerAndReplay
      rw [final, run_bind, refused]
    rw [kept]
    refine ⟨fun _ => ?_, fun _ => rfl⟩
    by_contra none
    push Not at none
    refine unaccepted ⟨found, awaiting, ?_, fun approve => absurd approve notApprove, ?_⟩
    · by_cases blank : request.approvalId = ""
      · exact .inl blank
      · exact .inr (none.1 blank)
    · rw [original]
      exact none.2.2.1
  · have ended : (final (answerAndReplay env agent jobId request call node) w).executedTools =
        w.executedTools := by
      unfold answerAndReplay
      rw [final, run_bind, done]
      rfl
    exact ⟨fun _ => .inr (.inl reject), fun _ => ended⟩
  · have identified : ¬ (request.approvalId ≠ "" ∧ request.approvalId ≠ pending.approvalId) := by
      intro both
      obtain ⟨given, wrong⟩ := both
      exact accepted.identified.elim given wrong
    have auditable : Auditable pending.toolArgs := by
      rw [← original]
      exact accepted.auditable
    have replay := gated_runs_iff gated live (.obj (resumePayload request pending)) node
      ((w.recordApproval (approvalOf env jobId request pending)).markRunning jobId)
    have unrefused := resumePayload_not_refusal other pending
    rw [executed_answerAndReplay accepted other]
    simp only [identified, other, auditable, not_true_eq_false, false_or]
    simp only [unrefused, false_or] at replay
    exact replay

/-- A request with another decision, or a resume value with another content, keeps the tool
    from running exactly when it refuses explicitly or something else stops the call. -/
theorem fails_closed_iff (env : ResumeEnv) (gated : agent.middleware.Gated call) (live : agent.middleware.stage ≠ "dev") :
    (∀ jobId request node w record pending, w.jobStore.get jobId = some record → record.Awaiting pending →
      request.decision ≠ "approve" → request.decision ≠ "edit" →
      ((final (answerAndReplay env agent jobId request call node) w).executedTools = w.executedTools ↔
        (request.approvalId ≠ "" ∧ request.approvalId ≠ pending.approvalId) ∨ request.decision = "reject" ∨
          ¬ Auditable pending.toolArgs ∨ ¬ agent.LetsThrough call node w)) ∧
    (∀ value node w, ¬ CarriesApproval value →
      ((final (agent.callTool call { node with answer := some value }) w).executedTools = w.executedTools ↔
        ExplicitRefusal value ∨ ¬ agent.LetsThrough call node w)) :=
  ⟨fun _ _ _ _ _ _ found awaiting notApprove notEdit =>
      answerAndReplay_runs_iff gated live found awaiting notApprove notEdit,
    fun value node w _ => gated_runs_iff gated live value node w⟩

end

theorem fails_closed_iff_sample :
    ((final (answerAndReplay sampleEnv sampleAgent "job-1" { decision := "reject" } sampleCall sampleNode)
          samplePaused).executedTools = samplePaused.executedTools ↔
        ("" ≠ "" ∧ "" ≠ "appr-1") ∨ "reject" = "reject" ∨ ¬ Auditable sampleCall.args ∨
          ¬ sampleAgent.LetsThrough sampleCall sampleNode samplePaused) ∧
      ((final (sampleAgent.callTool sampleCall { sampleNode with answer := some (.bool false) })
          samplePaused).executedTools = samplePaused.executedTools ↔
        ExplicitRefusal (.bool false) ∨ ¬ sampleAgent.LetsThrough sampleCall sampleNode samplePaused) :=
  have closed := fails_closed_iff sampleEnv
    (show sampleAgent.middleware.Gated sampleCall by decide) (by decide)
  ⟨closed.1 "job-1" { decision := "reject" } sampleNode samplePaused sampleRecord
      (sampleMiddleware.preview sampleCall sampleNode).pending (by decide) (by decide) (by decide) (by decide),
    closed.2 (.bool false) sampleNode samplePaused (by simp [CarriesApproval])⟩

/-- A reviewer's "deny" runs the tool, and so does the empty resume value. -/
theorem other_decision_runs_tool :
    (final (answerAndReplay sampleEnv sampleAgent "job-1" { decision := "deny" } sampleCall sampleNode)
        samplePaused).executedTools = [sampleAgent.execution sampleCall (.registry "shell")] ∧
      (final (sampleAgent.callTool sampleCall { sampleNode with answer := some (.obj []) })
        samplePaused).executedTools = [sampleAgent.execution sampleCall (.registry "shell")] := by
  decide

end CysAgi
