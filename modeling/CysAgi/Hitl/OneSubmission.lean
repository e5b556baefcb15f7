import CysAgi.Base.Transition
import CysAgi.Hitl.ApprovalBinding

namespace CysAgi

open Py

def NodeRun.unanswered (node : NodeRun) : NodeRun := { node with answer := none }

def NodeRun.answered (node : NodeRun) (payload : JsonDict) : NodeRun :=
  { node with answer := some (.obj payload) }

@[simp] theorem NodeRun.unanswered_publishPaused (node : NodeRun) :
    node.unanswered.publishPaused = node.publishPaused := rfl

@[simp] theorem NodeRun.answered_publishPaused (node : NodeRun) (payload : JsonDict) :
    (node.answered payload).publishPaused = node.publishPaused := rfl

@[simp] theorem Agent.submits_unanswered {agent : Agent} {call : ToolCall} {node : NodeRun} {w : World} :
    agent.Submits call node.unanswered w ↔ agent.Submits call node w := Iff.rfl

@[simp] theorem Agent.submits_answered {agent : Agent} {call : ToolCall} {node : NodeRun} {payload : JsonDict}
    {w : World} : agent.Submits call (node.answered payload) w ↔ agent.Submits call node w := Iff.rfl

def Agent.addedPauses (agent : Agent) (call : ToolCall) (node : NodeRun) (w : World) : Nat :=
  (final (agent.callTool call node) w).pauses.length - w.pauses.length

def Agent.addedEvents (agent : Agent) (call : ToolCall) (node : NodeRun) (w : World) : Nat :=
  (final (agent.callTool call node) w).pausedRecords.length - w.pausedRecords.length

theorem Agent.added_quiet (agent : Agent) (call : ToolCall) (node : NodeRun) (w : World)
    (quiet : ¬ agent.Submits call node w ∨ node.publishPaused = none) :
    agent.addedPauses call node w = 0 ∧ agent.addedEvents call node w = 0 ∧
      (final (agent.callTool call node) w).jobStore = w.jobStore := by
  have gate : agent.gateWorld call node w = w := by
    unfold gateWorld
    rcases quiet with closed | unconfigured
    · rw [if_neg closed]
    · rw [unconfigured]
      exact ite_self w
  unfold addedPauses addedEvents
  rw [callTool_frame World.pauses (fun _ _ => rfl) (fun _ _ => rfl),
    callTool_frame World.pausedRecords (fun _ _ => rfl) (fun _ _ => rfl),
    callTool_frame World.jobStore (fun _ _ => rfl) (fun _ _ => rfl), gate]
  simp

theorem Agent.added_submits {agent : Agent} {call : ToolCall} {node : NodeRun} {w : World}
    {published : Except PyExc Unit} (submits : agent.Submits call node w)
    (configured : node.publishPaused = some published) :
    agent.addedPauses call node w = 1 ∧ (agent.addedEvents call node w = 1 ↔ published = .ok ()) := by
  unfold addedPauses addedEvents
  rw [callTool_frame World.pauses (fun _ _ => rfl) (fun _ _ => rfl),
    callTool_frame World.pausedRecords (fun _ _ => rfl) (fun _ _ => rfl), gateWorld, if_pos submits, configured]
  cases published <;> simp [World.pauseForHitl, SecurityMiddleware.submitted]

structure Submission where
  call : ToolCall
  needed : Bool
  pauses : Nat
  events : Nat
  deriving DecidableEq

def Submission.Once (submission : Submission) : Prop :=
  submission.pauses = submission.needed.toNat ∧ submission.events = submission.needed.toNat

def Submission.first (agent : Agent) (call : ToolCall) (node : NodeRun) (w : World) : Submission :=
  { call, needed := decide (agent.Submits call node w)
    pauses := agent.addedPauses call node w, events := agent.addedEvents call node w }

def Submission.again (submission : Submission) (agent : Agent) (node : NodeRun) (w : World) : Submission :=
  { submission with
    pauses := submission.pauses + agent.addedPauses submission.call node w
    events := submission.events + agent.addedEvents submission.call node w }

theorem Submission.once_first (agent : Agent) (call : ToolCall) (node : NodeRun) (w : World) :
    (Submission.first agent call node w).Once ↔
      (agent.Submits call node w → node.publishPaused = some (.ok ())) := by
  unfold Once first
  by_cases submits : agent.Submits call node w
  · cases configured : node.publishPaused with
    | none =>
      have quiet := (Agent.added_quiet agent call node w (.inr configured)).1
      simp [submits, quiet]
    | some published =>
      obtain ⟨pauses, events⟩ := Agent.added_submits submits configured
      simp [submits, pauses, events]
  · obtain ⟨pauses, events, -⟩ := Agent.added_quiet agent call node w (.inl submits)
    simp [submits, pauses, events]

theorem Submission.once_again {submission : Submission} (own : submission.Once) (agent : Agent) (node : NodeRun)
    (w : World) :
    (submission.again agent node w).Once ↔ (agent.Submits submission.call node w → node.publishPaused = none) := by
  unfold Once at own
  unfold Once again
  by_cases quiet : ¬ agent.Submits submission.call node w ∨ node.publishPaused = none
  · obtain ⟨pauses, events, -⟩ := Agent.added_quiet agent submission.call node w quiet
    refine iff_of_true (by simp [own, pauses, events]) fun submits => ?_
    exact quiet.resolve_left (not_not.mpr submits)
  · rw [not_or, not_not] at quiet
    obtain ⟨published, configured⟩ := Option.ne_none_iff_exists'.mp quiet.2
    obtain ⟨pauses, -⟩ := Agent.added_submits quiet.1 configured
    refine iff_of_false ?_ fun silent => quiet.2 (silent quiet.1)
    simp [own, pauses]

def sessionJob (sessionId : String) : String := orElse ((jobIdFromSession sessionId).getD "") sessionId

/-- One agent session: the call whose interrupt is unanswered, and the calls before it. -/
structure Session where
  world : World := {}
  suspended : Option Submission := none
  finished : List Submission := []

inductive SessionStep where
  | call (agent : Agent) (call : ToolCall) (node : NodeRun)
  | resume (env : ResumeEnv) (request : JobResumeRequest) (agent : Agent) (node : NodeRun)
  | returned
  | raised

namespace Session

def conclude (s : Session) (submission : Submission) (w : World) : Except PyExc ToolMessage → Session
  | .error (.graphInterrupt _) => { s with world := w, suspended := some submission }
  | _ => { world := w, suspended := none, finished := s.finished ++ [submission] }

/-- The first run of a call has no answer for its interrupt. A resume that is accepted runs
    the suspended call again, with the resume payload as the answer, and one that rejects
    gives it up. -/
def step (sessionId : String) (s : Session) : SessionStep → Option Session
  | .call agent call node =>
    if s.suspended = none ∧ agent.middleware.sessionId = sessionId then
      some (s.conclude (.first agent call node.unanswered s.world)
        (final (agent.callTool call node.unanswered) s.world)
        (outcome (agent.callTool call node.unanswered) s.world))
    else none
  | .resume env request agent node =>
    if agent.middleware.sessionId = sessionId then
      match beginResume env (sessionJob sessionId) request s.world with
      | .error _ w => some { s with world := w }
      | .ok .rejected w =>
        some { world := w, suspended := none, finished := s.finished ++ s.suspended.toList }
      | .ok (.resumed _ payload) w =>
        match s.suspended with
        | none => some { s with world := w }
        | some submission =>
          some (s.conclude (submission.again agent (node.answered payload) w)
            (final (agent.callTool submission.call (node.answered payload)) w)
            (outcome (agent.callTool submission.call (node.answered payload)) w))
    else none
  | .returned => some { s with world := s.world.markCompleted (sessionJob sessionId) }
  | .raised => some { s with world := s.world.markFailed (sessionJob sessionId) }

/-- Each call has been submitted as often as it needs, and no call that has been decided
    keeps its job waiting. -/
structure SubmittedOnce (sessionId : String) (s : Session) : Prop where
  once : ∀ submission ∈ s.finished ++ s.suspended.toList, submission.Once
  decided : s.suspended = none → ∀ record pending,
    s.world.jobStore.get (sessionJob sessionId) = some record → ¬ record.Awaiting pending

/-- A first run that submits its call gets the event out, and a run after an accepted
    resume does not come to register a pause. -/
def SubmitsFirstOnly (sessionId : String) (s : Session) : SessionStep → Prop
  | .call agent call node => agent.Submits call node s.world → node.publishPaused = some (.ok ())
  | .resume env request agent node =>
    ∀ submission, s.suspended = some submission → request.decision ≠ "reject" →
      (∃ record pending, Accepted env s.world (sessionJob sessionId) request record pending) →
      agent.Submits submission.call node s.world → node.publishPaused = none
  | _ => True

theorem world_conclude (s : Session) (submission : Submission) (w : World) (o : Except PyExc ToolMessage) :
    (s.conclude submission w o).world = w := by
  unfold conclude
  split <;> rfl

theorem mem_conclude (s : Session) (submission : Submission) (w : World) (o : Except PyExc ToolMessage)
    (other : Submission) :
    other ∈ (s.conclude submission w o).finished ++ (s.conclude submission w o).suspended.toList ↔
      other ∈ s.finished ∨ other = submission := by
  unfold conclude
  split <;> simp

theorem submittedOnce_conclude {sessionId : String} {s : Session} {submission : Submission} {w : World}
    {o : Except PyExc ToolMessage} (held : s.SubmittedOnce sessionId) (own : submission.Once)
    (settled : (s.conclude submission w o).suspended = none → ∀ record pending,
      w.jobStore.get (sessionJob sessionId) = some record → ¬ record.Awaiting pending) :
    (s.conclude submission w o).SubmittedOnce sessionId := by
  refine ⟨fun other member => ?_, fun idle => ?_⟩
  · rcases (mem_conclude s submission w o other).mp member with member | rfl
    · exact held.once other (List.mem_append_left _ member)
    · exact own
  · rw [world_conclude]
    exact settled idle

theorem once_of_submittedOnce {sessionId : String} {s : Session} {submission : Submission} {w : World}
    {o : Except PyExc ToolMessage} (held : (s.conclude submission w o).SubmittedOnce sessionId) :
    submission.Once :=
  held.once submission ((mem_conclude s submission w o submission).mpr (.inr rfl))

theorem interrupted_outcome {agent : Agent} {call : ToolCall} {node : NodeRun} {w : World}
    (submits : agent.Submits call node w) (published : node.publishPaused = some (.ok ())) :
    ∃ value, outcome (agent.callTool call node.unanswered) w = .error (.graphInterrupt value) := by
  obtain ⟨admitted, gated, live⟩ := submits
  refine ⟨(agent.middleware.preview call node.unanswered).toDict, ?_⟩
  have still : agent.middleware.Admitted w node.unanswered := admitted
  unfold Agent.callTool outcome
  rw [SecurityMiddleware.awrapToolCall_admitted still, SecurityMiddleware.awaitHitlIfNeeded_gated gated live,
    node.unanswered_publishPaused, published]
  rfl

theorem call_exact {sessionId : String} {s t : Session} {agent : Agent} {call : ToolCall} {node : NodeRun}
    (held : s.SubmittedOnce sessionId) (taken : s.step sessionId (.call agent call node) = some t) :
    t.SubmittedOnce sessionId ↔ s.SubmitsFirstOnly sessionId (.call agent call node) := by
  simp only [step] at taken
  split at taken
  case isFalse => cases taken
  case isTrue enabled =>
    cases taken
    have exact_first := Submission.once_first agent call node.unanswered s.world
    rw [Agent.submits_unanswered, node.unanswered_publishPaused] at exact_first
    refine ⟨fun good => exact_first.mp (once_of_submittedOnce good), fun allowed => ?_⟩
    refine submittedOnce_conclude held (exact_first.mpr allowed) fun idle => ?_
    by_cases submits : agent.Submits call node s.world
    · obtain ⟨value, interrupted⟩ := interrupted_outcome submits (allowed submits)
      rw [interrupted] at idle
      cases idle
    · obtain ⟨-, -, jobs⟩ := Agent.added_quiet agent call node.unanswered s.world (.inl submits)
      rw [jobs]
      exact held.decided enabled.1

theorem not_awaiting {store : InMemoryJobStore} {jobId : String}
    (settled : ∀ record, store.get jobId = some record → record.status ≠ .awaitingApproval)
    (record : JobRecord) (pending : PendingHitlAction) (found : store.get jobId = some record) :
    ¬ record.Awaiting pending :=
  fun awaiting => settled record found awaiting.1

theorem resume_exact {sessionId : String} {s t : Session} {env : ResumeEnv} {request : JobResumeRequest}
    {agent : Agent} {node : NodeRun} (held : s.SubmittedOnce sessionId)
    (taken : s.step sessionId (.resume env request agent node) = some t) :
    t.SubmittedOnce sessionId ↔ s.SubmitsFirstOnly sessionId (.resume env request agent node) := by
  simp only [step] at taken
  split at taken
  case isFalse => cases taken
  case isTrue own =>
    rcases beginResume_cases env (sessionJob sessionId) request s.world with
      ⟨e, refused, unaccepted⟩ | ⟨record, pending, accepted, ⟨reject, done⟩ | ⟨other, done⟩⟩
    · rw [refused] at taken
      cases taken
      refine iff_of_true held fun _ _ _ accepted => ?_
      obtain ⟨record, pending, accepted⟩ := accepted
      exact absurd accepted (unaccepted record pending)
    · rw [done] at taken
      cases taken
      refine iff_of_true ⟨fun submission member => ?_, fun _ => ?_⟩ fun _ _ other => absurd reject other
      · rw [Option.toList_none, List.append_nil] at member
        exact held.once submission member
      · refine not_awaiting fun record found => ?_
        simp [InMemoryJobStore.status_of_markFailed found]
    · rw [done] at taken
      cases suspended : s.suspended with
      -- without a suspended call the job does not wait, so nothing could have been accepted
      | none => exact absurd accepted.awaiting (held.decided suspended record pending accepted.found)
      | some submission =>
        simp only [suspended] at taken
        cases taken
        have once : submission.Once := held.once submission (by simp [suspended])
        generalize resumed : (s.world.recordApproval
          (approvalOf env (sessionJob sessionId) request pending)).markRunning (sessionJob sessionId) = w
        have running : ∀ record, w.jobStore.get (sessionJob sessionId) = some record →
            record.status ≠ .awaitingApproval := by
          intro record found
          rw [← resumed] at found
          simp [InMemoryJobStore.status_of_markRunning found]
        have again := Submission.once_again once agent (node.answered (resumePayload request pending)) w
        have same : agent.Submits submission.call node w ↔ agent.Submits submission.call node s.world := by
          rw [← resumed]
          exact Iff.rfl
        rw [Agent.submits_answered, node.answered_publishPaused, same] at again
        constructor
        · intro good other' found _ _ submits
          cases suspended.symm.trans found
          exact again.mp (once_of_submittedOnce good) submits
        · intro allowed
          have silent := allowed submission suspended other ⟨record, pending, accepted⟩
          refine submittedOnce_conclude held (again.mpr silent) fun _ => ?_
          have quiet : ¬ agent.Submits submission.call node w ∨ node.publishPaused = none := by
            rw [same]
            exact imp_iff_not_or.mp silent
          rw [(Agent.added_quiet agent submission.call (node.answered (resumePayload request pending)) w quiet).2.2]
          exact not_awaiting running

theorem step_exact {sessionId : String} {s t : Session} {action : SessionStep}
    (held : s.SubmittedOnce sessionId) (taken : s.step sessionId action = some t) :
    t.SubmittedOnce sessionId ↔ s.SubmitsFirstOnly sessionId action := by
  cases action with
  | call agent call node => exact call_exact held taken
  | resume env request agent node => exact resume_exact held taken
  | returned =>
    cases taken
    refine iff_of_true ⟨held.once, fun _ => not_awaiting fun record found => ?_⟩ trivial
    simp [InMemoryJobStore.status_of_markCompleted found]
  | raised =>
    cases taken
    refine iff_of_true ⟨held.once, fun _ => not_awaiting fun record found => ?_⟩ trivial
    simp [InMemoryJobStore.status_of_markFailed found]

theorem submittedOnce_initial (sessionId : String) : SubmittedOnce sessionId {} := by
  refine ⟨by simp, fun _ record pending found => ?_⟩
  cases found

/-- Over a whole session every call is submitted once, and none after its decision, exactly
    when no run after an accepted resume comes to the gate again. -/
theorem submitted_once_iff (sessionId : String) {actions : List SessionStep} {s : Session}
    (reached : Transition.run (step sessionId) {} actions = some s) :
    Transition.Always (step sessionId) (SubmittedOnce sessionId) {} actions ↔
      Transition.Guarded (step sessionId) (SubmitsFirstOnly sessionId) {} actions :=
  Transition.always_iff_guarded (fun _ => True) (fun _ _ _ _ _ _ _ => trivial)
    (fun _ _ _ _ held taken => step_exact held taken) trivial (submittedOnce_initial sessionId) reached

def sampleSteps : List SessionStep :=
  [.call sampleAgent sampleCall sampleNode,
    .resume sampleEnv { decision := "approve" } sampleAgent { approvalId := "appr-2" }]

def sampleEnd : Session := (Transition.run (step "worker:soc:job-1") {} sampleSteps).get (by decide)

theorem submitted_once_iff_sample :
    Transition.Always (step "worker:soc:job-1") (SubmittedOnce "worker:soc:job-1") {} sampleSteps ↔
      Transition.Guarded (step "worker:soc:job-1") (SubmitsFirstOnly "worker:soc:job-1") {} sampleSteps :=
  submitted_once_iff "worker:soc:job-1"
    (show Transition.run (step "worker:soc:job-1") {} sampleSteps = some sampleEnd from (Option.some_get _).symm)

/-- The approved call has run, and yet its job awaits a second pending action for it, on which
    a second approval is accepted. -/
theorem approved_call_submitted_again :
    ¬ SubmittedOnce "worker:soc:job-1" sampleEnd ∧
      sampleEnd.finished = [{ call := sampleCall, needed := true, pauses := 2, events := 2 }] ∧
      sampleEnd.world.executedTools = [sampleAgent.execution sampleCall (.registry "shell")] ∧
      (sampleEnd.world.jobStore.get "job-1").map JobRecord.status = some .awaitingApproval ∧
      (outcome (beginResume sampleEnv "job-1" { decision := "approve" }) sampleEnd.world).isOk := by
  refine ⟨fun held => ?_, by decide, by decide, by decide, by decide⟩
  have twice : (⟨sampleCall, true, 2, 2⟩ : Submission) ∈ sampleEnd.finished ++ sampleEnd.suspended.toList := by
    decide
  exact absurd (held.once _ twice).1 (by decide)

end Session

end CysAgi
