import CysAgi.Workers.Execution

namespace CysAgi

open Py

/-- What `WorkerOrchestrator` is wired with: its `RunWorkerJob`, the agent catalog and the
    token price of a profile. -/
structure WorkerOrchestrator where
  deps : WorkerDeps
  catalog : String → Option AgentCatalogEntry := fun _ => none
  costPer1kTokens : String → Rat := fun _ => 3 / 1000

/-- `resolve_profile_id` without an explicit profile. -/
def resolveProfileId (str : Json → String) (payload : JsonDict) (entry : Option AgentCatalogEntry) : String :=
  let given := JsonDict.getD payload "profile_id" .null
  if given.truthy then str given
  else
    match entry with
    | none => defaultProfileId
    | some entry => orElse entry.profileId defaultProfileId

namespace World

def dequeued (w : World) (rest : List WorkerJob) : World := { w with queue := rest }

def aenqueue (w : World) (job : WorkerJob) : World := { w with queue := w.queue ++ [job] }

/-- One job of `_persist_and_enqueue_jobs`. -/
def enqueue (w : World) (job : WorkerJob) : World :=
  { w.aenqueue job with
    jobStore := w.jobStore.upsertPending job.jobId job.persona job.correlationId job.tenantId job.eventId }

def dispatch (w : World) (job : WorkerJob) : World := { w with dispatched := w.dispatched ++ [job] }

def DependencyReady (w : World) (job : WorkerJob) : Prop :=
  job.dependsOnPersona = "" ∨ job.dependsOnPersona ∈ w.completed job.tenantId job.investigationId

instance (w : World) (job : WorkerJob) : Decidable (w.DependencyReady job) :=
  inferInstanceAs (Decidable (_ ∨ _))

end World

def WorkerJob.sessionId (job : WorkerJob) : String := workerSession job.persona job.jobId

namespace WorkerOrchestrator

def configured (o : WorkerOrchestrator) (job : WorkerJob) (budgets : JobBudgetTracker) : JobBudgetTracker :=
  let budgeted := enrichJobBudget job (o.catalog job.persona)
  let profileId := resolveProfileId o.deps.str budgeted.payload (o.catalog budgeted.persona)
  (budgets.configureJobCost (o.costPer1kTokens profileId) profileId).configure job.sessionId
    budgeted.maxTokens budgeted.maxCostUsd budgeted.maxToolCalls profileId

def runJob (o : WorkerOrchestrator) (job : WorkerJob) : Effect RunResult := do
  if ¬ (← get).DependencyReady job then
    modify fun w => w.aenqueue job
    return { jobId := job.jobId, persona := job.persona, success := false
             error := s!"dependency_not_ready:{job.dependsOnPersona}" }
  else
    modify fun w => (w.setBudgets (o.configured job w.budgets)).dispatch job
    ensuring (RunWorkerJob.execute o.deps job job.sessionId)
      (modify fun w => w.setBudgets (w.budgets.clear job.sessionId))

def processNext (o : WorkerOrchestrator) : Effect (Option RunResult) := do
  match (← get).queue with
  | [] => return none
  | job :: rest =>
    modify fun w => w.dequeued rest
    return some (← o.runJob job)

end WorkerOrchestrator

structure Routing where
  eventId : String
  playbookId : String := ""
  payload : JsonDict := []
  correlationId : String := ""
  tenantId : String := "default"
  sequential : Bool := false

namespace Routing

def jobsFrom (routing : Routing) : String → List (String × String) → List WorkerJob
  | _, [] => []
  | previousPersona, (persona, hex) :: rest =>
    { jobId := s!"{persona}-{routing.eventId}-{hex}"
      eventId := routing.eventId
      persona
      playbookId := routing.playbookId
      payload := routing.payload
      correlationId := orElse routing.correlationId routing.eventId
      tenantId := routing.tenantId
      dependsOnPersona := if routing.sequential then previousPersona else "" } ::
    routing.jobsFrom (if routing.sequential then persona else previousPersona) rest

/-- `_jobs_for_routing`. -/
def jobs (routing : Routing) (personas : List (String × String)) : List WorkerJob :=
  routing.jobsFrom "" personas

end Routing

/-- `enqueue_from_routing`, with the ids of the new jobs. -/
def enqueueFromRouting (routing : Routing) (personas : List (String × String)) : Effect (List String) := do
  modify fun w => (routing.jobs personas).foldl World.enqueue w
  return (routing.jobs personas).map WorkerJob.jobId

theorem foldl_enqueue (jobs : List WorkerJob) (w : World) :
    (jobs.foldl World.enqueue w).queue = w.queue ++ jobs ∧
      (jobs.foldl World.enqueue w).investigations = w.investigations ∧
      (jobs.foldl World.enqueue w).dispatched = w.dispatched := by
  induction jobs generalizing w with
  | nil => simp
  | cons job rest ih =>
    obtain ⟨queue, investigations, dispatched⟩ := ih (w.enqueue job)
    refine ⟨?_, investigations, dispatched⟩
    rw [List.foldl_cons, queue]
    simp [World.enqueue, World.aenqueue]

namespace WorkerOrchestrator

section

variable {o : WorkerOrchestrator} {job : WorkerJob} {w : World}

theorem final_runJob_waiting (waiting : ¬ w.DependencyReady job) :
    final (o.runJob job) w = w.aenqueue job := by
  unfold runJob
  rw [final_bind]
  simp only [outcome, final, run_get, waiting, not_false_eq_true, if_true]
  rfl

def started (o : WorkerOrchestrator) (job : WorkerJob) (w : World) : World :=
  (w.setBudgets (o.configured job w.budgets)).dispatch job

theorem final_runJob_ready (ready : w.DependencyReady job) :
    final (o.runJob job) w =
      let after := final (RunWorkerJob.execute o.deps job job.sessionId) (o.started job w)
      after.setBudgets (after.budgets.clear job.sessionId) := by
  unfold runJob
  rw [final_bind]
  simp only [outcome, final, run_get, ready, not_true_eq_false, if_false]
  change final (_ >>= _) _ = _
  rw [final_bind]
  simp only [outcome, final, run_modify]
  change final (ensuring _ _) _ = _
  rw [final_ensuring]
  rfl

theorem final_processNext (o : WorkerOrchestrator) (w : World) :
    final o.processNext w =
      match w.queue with
      | [] => w
      | job :: rest => final (o.runJob job) (w.dequeued rest) := by
  unfold processNext
  rw [final_bind]
  simp only [outcome, final, run_get]
  cases w.queue with
  | nil => rfl
  | cons job rest =>
    change final (_ >>= _) w = _
    rw [final_bind]
    simp only [outcome, final, run_modify]
    change final (_ >>= _) _ = _
    rw [final_bind]
    split <;> rfl

theorem untracked_runJob (ready : w.DependencyReady job) :
    (final (o.runJob job) w).budgets.get job.sessionId = none := by
  rw [final_runJob_ready ready]
  exact JobBudgetTracker.get_clear _ _

end

end WorkerOrchestrator

end CysAgi
