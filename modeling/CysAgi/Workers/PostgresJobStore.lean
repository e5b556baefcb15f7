import CysAgi.Base.Listing
import CysAgi.Workers.JobStore
import Mathlib.Algebra.Order.Ring.Rat

namespace CysAgi

open Py

/-- A row of `worker_jobs` under its primary key. A pending action that is absent is the JSON
    value null, which is not the SQL null. -/
structure WorkerJobRow where
  persona : String
  eventId : String
  correlationId : String
  tenantId : String
  status : WorkerJobStatus
  sessionId : String
  hitlPreviewJson : JsonDict
  pendingHitlJson : Option PendingHitlAction
  createdAt : Rat

def rowToRecord (jobId : String) (row : WorkerJobRow) : JobRecord :=
  { jobId, sessionId := row.sessionId, persona := row.persona, status := row.status
    hitlPreview := row.hitlPreviewJson, pendingHitl := row.pendingHitlJson
    correlationId := orElse row.correlationId "", tenantId := orElse row.tenantId "default"
    eventId := orElse row.eventId "" }

structure PostgresJobStore where
  jobs : Dict String WorkerJobRow

namespace PostgresJobStore

def empty : PostgresJobStore := ⟨.empty⟩

def get (store : PostgresJobStore) (jobId : String) : Option JobRecord :=
  (store.jobs.get? jobId).map (rowToRecord jobId)

def createdAt (store : PostgresJobStore) (now : Rat) (jobId : String) : Rat :=
  (store.jobs.get? jobId).elim now WorkerJobRow.createdAt

/-- `INSERT ... ON CONFLICT (job_id) DO UPDATE`: the row keeps when it was created. -/
def upsert (store : PostgresJobStore) (now : Rat) (jobId sessionId persona : String) (status : WorkerJobStatus)
    (hitlPreview : Option JsonDict) (pendingHitl : Option PendingHitlAction)
    (correlationId tenantId eventId : String) : PostgresJobStore :=
  let existing := store.get jobId
  ⟨store.jobs.set jobId
    { persona, status, sessionId
      hitlPreviewJson := hitlPreview.getD (existing.elim [] JobRecord.hitlPreview)
      pendingHitlJson := pendingHitl
      correlationId := orElse correlationId (existing.elim "" JobRecord.correlationId)
      tenantId := orElse tenantId (existing.elim "default" JobRecord.tenantId)
      eventId := orElse eventId (existing.elim "" JobRecord.eventId)
      createdAt := store.createdAt now jobId }⟩

def upsertPending (store : PostgresJobStore) (now : Rat) (jobId persona correlationId tenantId eventId : String) :
    PostgresJobStore :=
  store.upsert now jobId "" persona .pending none none correlationId tenantId eventId

def upsertRunning (store : PostgresJobStore) (now : Rat)
    (jobId sessionId persona correlationId tenantId eventId : String) : PostgresJobStore :=
  store.upsert now jobId sessionId persona .running none none correlationId tenantId eventId

def pauseForHitl (store : PostgresJobStore) (now : Rat) (pending : PendingHitlAction) (preview : JsonDict) :
    PostgresJobStore :=
  let existing := store.get pending.jobId
  store.upsert now pending.jobId pending.sessionId pending.persona .awaitingApproval (some preview) (some pending)
    (existing.elim "" JobRecord.correlationId) (existing.elim "default" JobRecord.tenantId)
    (existing.elim "" JobRecord.eventId)

def mark (store : PostgresJobStore) (now : Rat) (jobId : String) (status : WorkerJobStatus) : PostgresJobStore :=
  match store.get jobId with
  | none => store
  | some record => store.upsert now jobId record.sessionId record.persona status (some record.hitlPreview) none
      record.correlationId record.tenantId record.eventId

def markRunning (store : PostgresJobStore) (now : Rat) (jobId : String) : PostgresJobStore :=
  store.mark now jobId .running

def markCompleted (store : PostgresJobStore) (now : Rat) (jobId : String) : PostgresJobStore :=
  store.mark now jobId .completed

def markFailed (store : PostgresJobStore) (now : Rat) (jobId : String) : PostgresJobStore :=
  store.mark now jobId .failed

/-- Every JSON value is `NOT NULL`. -/
def selectAwaiting (store : PostgresJobStore) : List (String × WorkerJobRow) :=
  store.jobs.entries.filter fun row => row.2.status = .awaitingApproval

/-- The answers of `list_pending_approvals`: its query names no order. -/
def PendingApprovals (store : PostgresJobStore) (answer : List PendingHitlAction) : Prop :=
  ∃ rows : List (String × WorkerJobRow), rows.Perm store.selectAwaiting ∧
    answer = rows.filterMap fun row => row.2.pendingHitlJson

def selectInvestigation (store : PostgresJobStore) (tenantId investigationId : String) :
    List (String × WorkerJobRow) :=
  store.jobs.entries.filter fun row => row.2.tenantId = tenantId ∧ row.2.correlationId = investigationId

def rowSummary (row : String × WorkerJobRow) : JobRecordSummary := (rowToRecord row.1 row.2).summary

/-- The answers of `list_by_investigation`: `ORDER BY created_at`. -/
def ByInvestigation (store : PostgresJobStore) (tenantId investigationId : String)
    (answer : List JobRecordSummary) : Prop :=
  ∃ rows, Listing.OrderedBy (fun row => row.2.createdAt) (store.selectInvestigation tenantId investigationId) rows ∧
    answer = rows.map rowSummary

end PostgresJobStore

end CysAgi
