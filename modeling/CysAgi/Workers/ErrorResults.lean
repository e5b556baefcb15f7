import CysAgi.Bus.AtomicFinding

namespace CysAgi

open Py RunWorkerJob

/-- Neither the job store nor the caller of `execute` takes the job for a success. -/
def NoSuccess (deps : WorkerDeps) (job : WorkerJob) (sessionId : String) (w : World) : Prop :=
  (final (execute deps job sessionId) w).stored job.jobId ≠ some .completed ∧
    ∀ run t, execute deps job sessionId w = .ok run t → run.success = false

/-- A collaborator raises on the way of the result from the runtime to the job record. -/
def Obstructed (deps : WorkerDeps) (job : WorkerJob) (prepared : Prepared) (result : JsonDict) : Prop :=
  (∃ e, deps.schemas.get (prepared.defn.schemaName.getD "") = .error e) ∨
    (∃ recipient, (recipient ∈ prepared.defn.busRecipients ∨ recipient = "critic") ∧
      ∃ e, publishTo deps job (findingPayload deps job prepared (.obj result)) recipient = .error e) ∨
    ∃ append e, deps.appendPendingFinding = some append ∧ append (pendingFinding deps job result) = .error e

section

variable {deps : WorkerDeps} {job : WorkerJob} {prepared : Prepared}

theorem settle_raised {body : Effect RunResult} {w t : World} {e : PyExc} (raised : body w = .error e t)
    (unended : t.Open job.jobId) :
    (final (settle deps job body) w).stored job.jobId ≠ some .completed ∧
      ∀ run u, settle deps job body w = .ok run u → run.success = false := by
  constructor
  · have jobs := @jobStore_settle_raised deps job body w t e raised
    by_cases caught : e.caught = true
    · rw [if_pos caught] at jobs
      rw [stored_markFailed unended.known jobs]
      decide
    · rw [if_neg caught] at jobs
      exact (unended.stored_ne jobs).1
  · intro run u done
    obtain ⟨-, v, -, returned | ⟨other, before, -, handled⟩⟩ := settle_ok.mp done
    · rw [raised] at returned
      cases returned
    · exact (onFailure_ok handled).1

theorem outcome_findingOf_error {result : JsonDict} (marked : JsonDict.has result "error" = true) (w : World) :
    outcome (findingOf deps job prepared (.obj result)) w =
      (deps.schemas.get (prepared.defn.schemaName.getD "")).map fun _ => .obj result := by
  have unwrapped : unwrapRawResponse deps (.obj result) = .ok (.obj result) := by
    simp only [unwrapRawResponse, marked, not_true_eq_false, and_false, if_false]
    rfl
  have unrefined : maybeSelfRefine deps job prepared.sanitized (.obj result) w = .ok (.obj result) w := by
    simp only [maybeSelfRefine, marked, or_true, if_true]
    rfl
  unfold findingOf outcome
  rw [run_bind, unwrapped, run_resultOf]
  dsimp only
  rw [run_bind, unrefined]
  dsimp only
  rw [run_bind, run_resultOf]
  cases deps.schemas.get (prepared.defn.schemaName.getD "") with
  | error e => rfl
  | ok schema =>
    dsimp only
    rw [run_resultOf, validated, if_pos marked]
    rfl

theorem quiet_calls (recipient : String) (envelope : Json) :
    quietBus.calls BusListener.handle recipient envelope = [] := rfl

theorem heard_quiet (recipient : String) (envelope : Json) : heard quietBus recipient envelope = .ok () := rfl

theorem not_obstructed_iff {result : JsonDict} {schema : Option String}
    (known : deps.schemas.get (prepared.defn.schemaName.getD "") = .ok schema) :
    ¬ Obstructed deps job prepared result ↔
      (spread deps quietBus job (findingPayload deps job prepared (.obj result)) (recipients prepared.defn)).2 = .ok () ∧
        Remembers deps job result := by
  rw [spread_ok_iff]
  constructor
  · intro free
    constructor
    · intro recipient member
      cases sent : publishTo deps job (findingPayload deps job prepared (.obj result)) recipient with
      | ok envelope => exact ⟨envelope, rfl, heard_quiet recipient envelope⟩
      | error e =>
        exfalso
        apply free
        exact .inr (.inl ⟨recipient, mem_recipients.mp member, e, sent⟩)
    · intro append writer
      cases taken : append (pendingFinding deps job result) with
      | ok accepted => exact ⟨accepted, rfl⟩
      | error e =>
        exfalso
        apply free
        exact .inr (.inr ⟨append, e, writer, taken⟩)
  · intro given either
    obtain ⟨reached, remembered⟩ := given
    rcases either with ⟨e, unknown⟩ | ⟨recipient, named, e, refused⟩ | ⟨append, e, writer, refused⟩
    · rw [known] at unknown
      cases unknown
    · obtain ⟨envelope, sent, -⟩ := reached recipient (mem_recipients.mpr named)
      rw [sent] at refused
      cases refused
    · obtain ⟨accepted, taken⟩ := remembered append writer
      rw [taken] at refused
      cases refused

theorem body_unknown_schema {sessionId : String} {w w' : World} {result : JsonDict} {e : PyExc}
    (started : prepare deps job sessionId w = .ok prepared w')
    (returned : (deps.arun prepared.call).outcome = .ok (.obj result)) (marked : JsonDict.has result "error" = true)
    (unknown : deps.schemas.get (prepared.defn.schemaName.getD "") = .error e) :
    ∃ t, body deps job sessionId w = .error e t ∧ t.Open job.jobId := by
  have raised := @outcome_findingOf_error deps job prepared result marked
    (w'.pauseAll (deps.arun prepared.call).pauses)
  have unended : (final (findingOf deps job prepared (.obj result))
      (w'.pauseAll (deps.arun prepared.call).pauses)).Open job.jobId := by
    have paused : ∀ (v : World) pending preview, v.Open job.jobId → (v.pauseForHitl pending preview).Open job.jobId :=
      fun v pending preview held => World.Open.pauseForHitl held pending preview
    exact findingOf_preserves paused _ _ (World.pauseAll_preserves paused _ (open_prepared started))
  refine ⟨_, ?_, unended⟩
  unfold body finish
  rw [run_bind, started]
  dsimp only
  rw [run_bind, run_awaitAgent, returned]
  change (findingOf deps job prepared (.obj result) >>= _) _ = _
  rcases run_cases (findingOf deps job prepared (.obj result)) (w'.pauseAll (deps.arun prepared.call).pauses) with
    ⟨value, -, found⟩ | ⟨other, ran, failed⟩
  · rw [raised, unknown] at found
    cases found
  · rw [raised, unknown] at failed
    cases failed
    rw [run_bind, ran]

end

/-- An error that the agent's run returns is not reported as a success exactly when something on
    its way from the runtime to the job record raises. -/
theorem error_unreported_iff {deps : WorkerDeps} {job : WorkerJob} {prepared : Prepared} {sessionId : String}
    {w w' : World} {result : JsonDict} (started : prepare deps job sessionId w = .ok prepared w')
    (returned : (deps.arun prepared.call).outcome = .ok (.obj result)) (marked : JsonDict.has result "error" = true) :
    NoSuccess deps job sessionId w ↔ Obstructed deps job prepared result := by
  cases known : deps.schemas.get (prepared.defn.schemaName.getD "") with
  | error e =>
    obtain ⟨t, raised, unended⟩ := body_unknown_schema started returned marked known
    constructor
    · intro _
      exact .inl ⟨e, known⟩
    · intro _
      exact settle_raised raised unended
  | ok schema =>
    have made : outcome (findingOf deps job prepared (.obj result)) w' = .ok (.obj result) := by
      rw [outcome_findingOf_error marked, known]
      rfl
    have same := @executeAmong_unheard deps job (quietBus.calls BusListener.handle) quiet_calls sessionId
    obtain ⟨v, -, unended, body⟩ := bodyAmong_made (quietBus.calls BusListener.handle) started returned made
    unfold NoSuccess
    rw [← same]
    unfold executeAmong
    constructor
    · intro given
      obtain ⟨uncompleted, -⟩ := given
      by_contra free
      obtain ⟨reached, remembered⟩ := (not_obstructed_iff known).mp free
      obtain ⟨run, t, concluded, -, completed⟩ := conclude_runs (w := v) reached remembered
      apply uncompleted
      exact stored_markCompleted unended.known ((jobStore_settle_returned (body.trans concluded)).trans completed)
    · intro obstructed
      have stopped : ¬ ((spread deps quietBus job (findingPayload deps job prepared (.obj result))
          (recipients prepared.defn)).2 = .ok () ∧ Remembers deps job result) :=
        fun passed => (not_obstructed_iff known).mpr passed obstructed
      obtain ⟨e, t, concluded, -, -, sameJobs⟩ := conclude_raises (w := v) stopped
      have still : t.Open job.jobId := by
        obtain ⟨record, found, unfinished⟩ := unended
        exact ⟨record, by rw [sameJobs]; exact found, unfinished⟩
      exact settle_raised (body.trans concluded) still

def overBudget : JsonDict := [("error", .str "Job token budget exceeded (50000 max)")]

def overBudgetDeps : WorkerDeps := sampleDeps { outcome := .ok (.obj overBudget) }

def overBudgetPrepared : Prepared :=
  { creds := { sandboxId := "job-1" }, sanitized := "", defn := { name := "soc", tools := ["shell"] }
    call :=
      { name := "soc", userInput := "", sessionId := "worker:soc:job-1"
        sandboxTools := some [.gateway "shell" "job-1" "soc" "job-1" "inv-1"]
        jobId := "job-1", eventId := "evt-1", correlationId := "inv-1", investigationId := "inv-1"
        sandboxId := "job-1" } }

theorem error_unreported_iff_over_budget :
    NoSuccess overBudgetDeps sampleJob "worker:soc:job-1" {} ↔
      Obstructed overBudgetDeps sampleJob overBudgetPrepared overBudget :=
  error_unreported_iff
    (show prepare overBudgetDeps sampleJob "worker:soc:job-1" {} =
      .ok overBudgetPrepared (({} : World).upsertRunning sampleJob "worker:soc:job-1") from rfl)
    (show (overBudgetDeps.arun overBudgetPrepared.call).outcome = .ok (.obj overBudget) from rfl) (by decide)

/-- A job that the runtime stopped over its budget is completed, and `execute` reports success. -/
theorem over_budget_reported :
    (overBudgetDeps.arun overBudgetPrepared.call).outcome = .ok (.obj overBudget) ∧
      (final (execute overBudgetDeps sampleJob "worker:soc:job-1") {}).stored "job-1" = some .completed ∧
      (∃ run t, execute overBudgetDeps sampleJob "worker:soc:job-1" {} = .ok run t ∧ run.success = true) ∧
      ¬ NoSuccess overBudgetDeps sampleJob "worker:soc:job-1" {} := by
  have completed : (final (execute overBudgetDeps sampleJob "worker:soc:job-1") {}).stored "job-1" =
      some .completed := by decide +kernel
  exact ⟨rfl, completed, ⟨_, _, rfl, rfl⟩, fun kept => kept.1 completed⟩

end CysAgi
