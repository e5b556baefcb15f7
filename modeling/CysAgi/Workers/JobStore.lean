import CysAgi.Workers.Models
import Mathlib.Data.List.Sort
import Mathlib.Data.String.Basic

namespace CysAgi

open Py

structure JobRecord where
  jobId : String
  sessionId : String
  persona : String
  status : WorkerJobStatus := .running
  hitlPreview : JsonDict := []
  pendingHitl : Option PendingHitlAction := none
  correlationId : String := ""
  tenantId : String := "default"
  eventId : String := ""
  deriving DecidableEq

def JobRecord.Awaiting (record : JobRecord) (pending : PendingHitlAction) : Prop :=
  record.status = .awaitingApproval ∧ record.pendingHitl = some pending

instance (record : JobRecord) (pending : PendingHitlAction) : Decidable (record.Awaiting pending) :=
  inferInstanceAs (Decidable (_ ∧ _))

structure JobRecordSummary where
  jobId : String
  sessionId : String
  persona : String
  status : WorkerJobStatus
  correlationId : String := ""
  tenantId : String := "default"
  eventId : String := ""
  deriving DecidableEq

def JobRecord.summary (record : JobRecord) : JobRecordSummary :=
  { jobId := record.jobId, sessionId := record.sessionId, persona := record.persona, status := record.status
    correlationId := record.correlationId, tenantId := record.tenantId, eventId := record.eventId }

def JobRecord.approval (record : JobRecord) : Option PendingHitlAction :=
  if record.status = .awaitingApproval then record.pendingHitl else none

structure InMemoryJobStore where
  jobs : Dict String JobRecord

namespace InMemoryJobStore

def empty : InMemoryJobStore := ⟨.empty⟩

def get (store : InMemoryJobStore) (jobId : String) : Option JobRecord := store.jobs.get? jobId

def upsertPending (store : InMemoryJobStore) (jobId persona correlationId tenantId eventId : String) :
    InMemoryJobStore :=
  ⟨store.jobs.set jobId
    { jobId, sessionId := "", persona, status := .pending, correlationId, tenantId, eventId }⟩

def upsertRunning (store : InMemoryJobStore)
    (jobId sessionId persona correlationId tenantId eventId : String) : InMemoryJobStore :=
  let existing := store.get jobId
  ⟨store.jobs.set jobId
    { jobId, sessionId, persona, status := .running
      correlationId := orElse correlationId (existing.elim "" JobRecord.correlationId)
      tenantId := orElse tenantId (existing.elim "default" JobRecord.tenantId)
      eventId := orElse eventId (existing.elim "" JobRecord.eventId) }⟩

def pauseForHitl (store : InMemoryJobStore) (pending : PendingHitlAction) (preview : JsonDict) :
    InMemoryJobStore :=
  let existing := store.get pending.jobId
  ⟨store.jobs.set pending.jobId
    { jobId := pending.jobId, sessionId := pending.sessionId, persona := pending.persona
      status := .awaitingApproval, hitlPreview := preview, pendingHitl := some pending
      correlationId := existing.elim "" JobRecord.correlationId
      tenantId := existing.elim "default" JobRecord.tenantId
      eventId := existing.elim "" JobRecord.eventId }⟩

def markRunning (store : InMemoryJobStore) (jobId : String) : InMemoryJobStore :=
  ⟨store.jobs.modify jobId fun record => { record with status := .running, pendingHitl := none }⟩

def markCompleted (store : InMemoryJobStore) (jobId : String) : InMemoryJobStore :=
  ⟨store.jobs.modify jobId fun record => { record with status := .completed }⟩

def markFailed (store : InMemoryJobStore) (jobId : String) : InMemoryJobStore :=
  ⟨store.jobs.modify jobId fun record => { record with status := .failed }⟩

def records (store : InMemoryJobStore) : List JobRecord := store.jobs.entries.map Prod.snd

def listPendingApprovals (store : InMemoryJobStore) : List PendingHitlAction :=
  store.records.filterMap JobRecord.approval

def listByInvestigation (store : InMemoryJobStore) (tenantId investigationId : String) : List JobRecordSummary :=
  let found := store.records.filter fun record => record.tenantId = tenantId ∧ record.correlationId = investigationId
  (found.map JobRecord.summary).insertionSort fun a b => a.jobId ≤ b.jobId

section

variable (store : InMemoryJobStore) (pending : PendingHitlAction) (preview : JsonDict)
variable (jobId sessionId persona correlationId tenantId eventId : String)

@[simp] theorem get_upsertPending_self :
    (store.upsertPending jobId persona correlationId tenantId eventId).get jobId =
      some { jobId, sessionId := "", persona, status := .pending, correlationId, tenantId, eventId } := by
  simp [get, upsertPending]

@[simp] theorem get_upsertPending_of_ne {other : String} (ne : other ≠ jobId) :
    (store.upsertPending jobId persona correlationId tenantId eventId).get other = store.get other := by
  simp [get, upsertPending, ne]

theorem get_upsertRunning_self :
    ∃ record, (store.upsertRunning jobId sessionId persona correlationId tenantId eventId).get jobId =
      some record ∧ record.status = .running ∧ record.pendingHitl = none := by
  simp [get, upsertRunning]

@[simp] theorem get_upsertRunning_of_ne {other : String} (ne : other ≠ jobId) :
    (store.upsertRunning jobId sessionId persona correlationId tenantId eventId).get other =
      store.get other := by
  simp [get, upsertRunning, ne]

theorem get_pauseForHitl_self :
    ∃ record, (store.pauseForHitl pending preview).get pending.jobId = some record ∧
      record.Awaiting pending ∧ record.hitlPreview = preview := by
  simp [get, pauseForHitl, JobRecord.Awaiting]

@[simp] theorem get_pauseForHitl_of_ne {other : String} (ne : other ≠ pending.jobId) :
    (store.pauseForHitl pending preview).get other = store.get other := by
  simp [get, pauseForHitl, ne]

@[simp] theorem get_markRunning_self :
    (store.markRunning jobId).get jobId =
      (store.get jobId).map fun record => { record with status := .running, pendingHitl := none } := by
  simp [get, markRunning]

@[simp] theorem get_markRunning_of_ne {other : String} (ne : other ≠ jobId) :
    (store.markRunning jobId).get other = store.get other := by
  simp [get, markRunning, ne]

@[simp] theorem get_markCompleted_self :
    (store.markCompleted jobId).get jobId =
      (store.get jobId).map fun record => { record with status := .completed } := by
  simp [get, markCompleted]

@[simp] theorem get_markCompleted_of_ne {other : String} (ne : other ≠ jobId) :
    (store.markCompleted jobId).get other = store.get other := by
  simp [get, markCompleted, ne]

@[simp] theorem get_markFailed_self :
    (store.markFailed jobId).get jobId =
      (store.get jobId).map fun record => { record with status := .failed } := by
  simp [get, markFailed]

@[simp] theorem get_markFailed_of_ne {other : String} (ne : other ≠ jobId) :
    (store.markFailed jobId).get other = store.get other := by
  simp [get, markFailed, ne]

end

theorem status_of_markRunning {store : InMemoryJobStore} {jobId : String} {record : JobRecord}
    (found : (store.markRunning jobId).get jobId = some record) : record.status = .running := by
  rw [get_markRunning_self, Option.map_eq_some_iff] at found
  obtain ⟨_, -, rfl⟩ := found
  rfl

theorem status_of_markCompleted {store : InMemoryJobStore} {jobId : String} {record : JobRecord}
    (found : (store.markCompleted jobId).get jobId = some record) : record.status = .completed := by
  rw [get_markCompleted_self, Option.map_eq_some_iff] at found
  obtain ⟨_, -, rfl⟩ := found
  rfl

theorem status_of_markFailed {store : InMemoryJobStore} {jobId : String} {record : JobRecord}
    (found : (store.markFailed jobId).get jobId = some record) : record.status = .failed := by
  rw [get_markFailed_self, Option.map_eq_some_iff] at found
  obtain ⟨_, -, rfl⟩ := found
  rfl

theorem known_modify {store : InMemoryJobStore} {jobId : String} (known : ∃ record, store.get jobId = some record)
    (target : String) (f : JobRecord → JobRecord) :
    ∃ record, InMemoryJobStore.get ⟨store.jobs.modify target f⟩ jobId = some record := by
  obtain ⟨record, stored⟩ := known
  unfold InMemoryJobStore.get at stored ⊢
  rw [Dict.get?_modify, stored]
  split <;> exact ⟨_, rfl⟩

theorem known_set {store : InMemoryJobStore} {jobId : String} (known : ∃ record, store.get jobId = some record)
    (target : String) (written : JobRecord) :
    ∃ record, InMemoryJobStore.get ⟨store.jobs.set target written⟩ jobId = some record := by
  obtain ⟨record, stored⟩ := known
  unfold InMemoryJobStore.get at stored ⊢
  rw [Dict.get?_set, stored]
  split <;> exact ⟨_, rfl⟩

end InMemoryJobStore

end CysAgi
