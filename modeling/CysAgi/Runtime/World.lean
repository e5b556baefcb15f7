import CysAgi.Base.Effect
import CysAgi.Memory.InvestigationState
import CysAgi.Runtime.Tools
import CysAgi.Workers.JobBudget
import CysAgi.Workers.JobStore

namespace CysAgi

open Py

structure HitlApprovalRecord where
  approvalId : String
  actor : String
  tool : String
  persona : String
  jobId : String
  sandboxId : String := ""
  targetResource : String := ""
  paramsHash : String
  decision : String
  expiry : String := ""
  deriving DecidableEq

structure PausedRecord where
  jobId : String
  persona : String
  tool : String
  approvalId : String
  status : String
  deriving DecidableEq

structure Publication where
  channel : String
  payload : JsonDict
  message : Json
  deriving DecidableEq

structure PendingFinding where
  tenantId : String
  investigationId : String
  sourceAgent : String
  sourceJobId : String
  finding : JsonDict
  deriving DecidableEq

structure DeadLetter where
  job : WorkerJob
  error : String
  deriving DecidableEq

structure ToolExecution where
  sessionId : String
  callId : String
  tool : BoundTool
  args : JsonDict
  deriving DecidableEq

/-- The stores and logs that workers, the resume API and the tool middleware share. -/
structure World where
  jobStore : InMemoryJobStore := .empty
  investigations : InMemoryInvestigationStateStore := .empty
  queue : List WorkerJob := []
  /-- Every job that an orchestrator has handed to `RunWorkerJob.execute`. -/
  dispatched : List WorkerJob := []
  budgets : JobBudgetTracker := .empty
  /-- Every `pause_for_hitl` so far. -/
  pauses : List PendingHitlAction := []
  pausedRecords : List PausedRecord := []
  approvalRecords : List HitlApprovalRecord := []
  published : List Publication := []
  pendingFindings : List PendingFinding := []
  agentFailures : List String := []
  deadLetters : List DeadLetter := []
  destroyedSandboxes : List String := []
  executedTools : List ToolExecution := []

abbrev Effect := EStateM PyExc World

namespace World

def pauseForHitl (w : World) (pending : PendingHitlAction) (preview : JsonDict) : World :=
  { w with
    jobStore := w.jobStore.pauseForHitl pending preview
    pauses := w.pauses ++ [pending] }

def pauseAll (w : World) (pauses : List (PendingHitlAction × JsonDict)) : World :=
  pauses.foldl (fun w pause => w.pauseForHitl pause.1 pause.2) w

def markRunning (w : World) (jobId : String) : World :=
  { w with jobStore := w.jobStore.markRunning jobId }

def markCompleted (w : World) (jobId : String) : World :=
  { w with jobStore := w.jobStore.markCompleted jobId }

def markFailed (w : World) (jobId : String) : World :=
  { w with jobStore := w.jobStore.markFailed jobId }

def setBudgets (w : World) (budgets : JobBudgetTracker) : World := { w with budgets }

def completed (w : World) (tenantId investigationId : String) : List String :=
  w.investigations.completed tenantId investigationId

@[simp] theorem pauseAll_cons (w : World) (pause : PendingHitlAction × JsonDict)
    (rest : List (PendingHitlAction × JsonDict)) :
    w.pauseAll (pause :: rest) = (w.pauseForHitl pause.1 pause.2).pauseAll rest := rfl

theorem pauseAll_preserves {P : World → Prop}
    (each : ∀ w pending preview, P w → P (w.pauseForHitl pending preview))
    (pauses : List (PendingHitlAction × JsonDict)) {w : World} (start : P w) :
    P (w.pauseAll pauses) := by
  induction pauses generalizing w with
  | nil => exact start
  | cons pause rest ih => exact ih (each w pause.1 pause.2 start)

theorem get_pauseAll_of_none {jobId : String} {pauses : List (PendingHitlAction × JsonDict)}
    (others : ∀ pause ∈ pauses, pause.1.jobId ≠ jobId) (w : World) :
    (w.pauseAll pauses).jobStore.get jobId = w.jobStore.get jobId := by
  induction pauses generalizing w with
  | nil => rfl
  | cons pause rest ih =>
    have apart : jobId ≠ pause.1.jobId := Ne.symm (others pause (List.mem_cons_self ..))
    rw [pauseAll_cons, ih fun pause member => others pause (List.mem_cons_of_mem _ member)]
    exact InMemoryJobStore.get_pauseForHitl_of_ne w.jobStore pause.1 pause.2 apart

theorem get_pauseAll_of_mem {jobId : String} {pauses : List (PendingHitlAction × JsonDict)}
    (member : ∃ pause ∈ pauses, pause.1.jobId = jobId) (w : World) :
    ∃ record pending, (w.pauseAll pauses).jobStore.get jobId = some record ∧ record.Awaiting pending := by
  induction pauses generalizing w with
  | nil => simp at member
  | cons pause rest ih =>
    rw [pauseAll_cons]
    by_cases later : ∃ pause ∈ rest, pause.1.jobId = jobId
    · exact ih later _
    · have last : pause.1.jobId = jobId := by
        obtain ⟨found, held, same⟩ := member
        rcases List.mem_cons.mp held with rfl | held
        · exact same
        · exact absurd ⟨found, held, same⟩ later
      push Not at later
      rw [get_pauseAll_of_none later]
      obtain ⟨record, stored, awaiting, -⟩ :=
        InMemoryJobStore.get_pauseForHitl_self w.jobStore pause.1 pause.2
      rw [last] at stored
      exact ⟨record, pause.1, stored, awaiting⟩

end World

def World.stored (w : World) (jobId : String) : Option WorkerJobStatus :=
  (w.jobStore.get jobId).map JobRecord.status

def World.Ended (w : World) (jobId : String) : Prop :=
  ∃ record, w.jobStore.get jobId = some record ∧ record.status.Terminal

def World.Open (w : World) (jobId : String) : Prop :=
  ∃ record, w.jobStore.get jobId = some record ∧ ¬ record.status.Terminal

theorem stored_markCompleted {store : InMemoryJobStore} {w : World} {jobId : String}
    (known : ∃ record, store.get jobId = some record) (marked : w.jobStore = store.markCompleted jobId) :
    w.stored jobId = some .completed := by
  obtain ⟨record, found⟩ := known
  simp [World.stored, marked, found]

theorem stored_markFailed {store : InMemoryJobStore} {w : World} {jobId : String}
    (known : ∃ record, store.get jobId = some record) (marked : w.jobStore = store.markFailed jobId) :
    w.stored jobId = some .failed := by
  obtain ⟨record, found⟩ := known
  simp [World.stored, marked, found]

theorem World.Open.known {w : World} {jobId : String} (unended : w.Open jobId) :
    ∃ record, w.jobStore.get jobId = some record := by
  obtain ⟨record, found, -⟩ := unended
  exact ⟨record, found⟩

theorem World.Open.stored_ne {w v : World} {jobId : String} (unended : w.Open jobId)
    (same : v.jobStore = w.jobStore) : v.stored jobId ≠ some .completed ∧ v.stored jobId ≠ some .failed := by
  obtain ⟨record, found, unfinished⟩ := unended
  have status : v.stored jobId = some record.status := by
    rw [World.stored, same, found]
    rfl
  rw [status]
  constructor
  · intro ended
    exact unfinished (.inl (Option.some.inj ended))
  · intro ended
    exact unfinished (.inr (Option.some.inj ended))

theorem World.Open.pauseForHitl {w : World} {jobId : String} (unended : w.Open jobId) (pending : PendingHitlAction)
    (preview : JsonDict) : (w.pauseForHitl pending preview).Open jobId := by
  by_cases own : jobId = pending.jobId
  · obtain ⟨record, found, awaiting, -⟩ := InMemoryJobStore.get_pauseForHitl_self w.jobStore pending preview
    refine ⟨record, by rw [own]; exact found, ?_⟩
    rw [awaiting.1]
    decide
  · obtain ⟨record, found, unfinished⟩ := unended
    refine ⟨record, ?_, unfinished⟩
    rw [← found]
    exact InMemoryJobStore.get_pauseForHitl_of_ne w.jobStore pending preview own

structure AgentRun where
  pauses : List (PendingHitlAction × JsonDict) := []
  outcome : Except PyExc Json

def awaitAgent (agentRun : AgentRun) : Effect Json := do
  modify fun w => w.pauseAll agentRun.pauses
  resultOf agentRun.outcome

theorem run_awaitAgent (agentRun : AgentRun) (w : World) :
    awaitAgent agentRun w = resultOf agentRun.outcome (w.pauseAll agentRun.pauses) := rfl

@[simp] theorem final_awaitAgent (agentRun : AgentRun) (w : World) :
    final (awaitAgent agentRun) w = w.pauseAll agentRun.pauses := by
  rw [final, run_awaitAgent]
  exact final_resultOf _ _

@[simp] theorem outcome_awaitAgent (agentRun : AgentRun) (w : World) :
    outcome (awaitAgent agentRun) w = agentRun.outcome := by
  rw [outcome, run_awaitAgent]
  exact outcome_resultOf _ _

theorem awaitAgent_blind (agentRun : AgentRun) : Blind (awaitAgent agentRun) := by
  intro v w
  simp

theorem awaitAgent_preserves {P : World → Prop}
    (each : ∀ w pending preview, P w → P (w.pauseForHitl pending preview)) (agentRun : AgentRun) :
    Preserves P (awaitAgent agentRun) := by
  intro w start
  rw [final_awaitAgent]
  exact World.pauseAll_preserves each _ start

end CysAgi
