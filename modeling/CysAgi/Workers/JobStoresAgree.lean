import CysAgi.Base.Transition
import CysAgi.Workers.PostgresJobStore

namespace CysAgi

open Py

inductive JobStoreCall where
  | upsertPending (jobId persona correlationId tenantId eventId : String)
  | upsertRunning (jobId sessionId persona correlationId tenantId eventId : String)
  | pauseForHitl (pending : PendingHitlAction) (preview : JsonDict)
  | markRunning (jobId : String)
  | markCompleted (jobId : String)
  | markFailed (jobId : String)

def JobStoreCall.onMemory (store : InMemoryJobStore) : JobStoreCall → InMemoryJobStore
  | .upsertPending jobId persona correlationId tenantId eventId =>
    store.upsertPending jobId persona correlationId tenantId eventId
  | .upsertRunning jobId sessionId persona correlationId tenantId eventId =>
    store.upsertRunning jobId sessionId persona correlationId tenantId eventId
  | .pauseForHitl pending preview => store.pauseForHitl pending preview
  | .markRunning jobId => store.markRunning jobId
  | .markCompleted jobId => store.markCompleted jobId
  | .markFailed jobId => store.markFailed jobId

def JobStoreCall.onPostgres (store : PostgresJobStore) (now : Rat) : JobStoreCall → PostgresJobStore
  | .upsertPending jobId persona correlationId tenantId eventId =>
    store.upsertPending now jobId persona correlationId tenantId eventId
  | .upsertRunning jobId sessionId persona correlationId tenantId eventId =>
    store.upsertRunning now jobId sessionId persona correlationId tenantId eventId
  | .pauseForHitl pending preview => store.pauseForHitl now pending preview
  | .markRunning jobId => store.markRunning now jobId
  | .markCompleted jobId => store.markCompleted now jobId
  | .markFailed jobId => store.markFailed now jobId

structure JobStores where
  memory : InMemoryJobStore := .empty
  postgres : PostgresJobStore := .empty

namespace JobStores

def step (s : JobStores) (call : Rat × JobStoreCall) : Option JobStores :=
  some { memory := call.2.onMemory s.memory, postgres := call.2.onPostgres s.postgres call.1 }

/-- Whatever the database answers, it is what the store in memory answers. -/
structure Agree (s : JobStores) : Prop where
  get : ∀ jobId, s.memory.get jobId = s.postgres.get jobId
  pendingApprovals : ∀ answer, s.postgres.PendingApprovals answer → answer = s.memory.listPendingApprovals
  byInvestigation : ∀ tenantId investigationId answer, s.postgres.ByInvestigation tenantId investigationId answer →
    answer = s.memory.listByInvestigation tenantId investigationId

def InOrder (s : JobStores) (jobId tenantId investigationId : String) (created : Rat) : Prop :=
  ∀ other row, other ≠ jobId → s.postgres.jobs.get? other = some row →
    row.tenantId = tenantId → row.correlationId = investigationId →
      (other < jobId ∧ row.createdAt < created) ∨ (jobId < other ∧ created < row.createdAt)

/-- What a call needs for the two stores to answer alike after it. -/
def Alike (s : JobStores) (call : Rat × JobStoreCall) : Prop :=
  match call.2 with
  | .upsertPending jobId _ correlationId tenantId eventId =>
    tenantId ≠ "" ∧
      (∀ record, s.memory.get jobId = some record → record.hitlPreview = [] ∧
        (correlationId = "" → record.correlationId = "") ∧ (eventId = "" → record.eventId = "")) ∧
      s.InOrder jobId tenantId correlationId (s.postgres.createdAt call.1 jobId)
  | .upsertRunning jobId _ _ correlationId tenantId _ =>
    (∀ record, s.memory.get jobId = some record → record.hitlPreview = []) ∧
      s.InOrder jobId (orElse tenantId ((s.memory.get jobId).elim "default" JobRecord.tenantId))
        (orElse correlationId ((s.memory.get jobId).elim "" JobRecord.correlationId))
        (s.postgres.createdAt call.1 jobId)
  | .pauseForHitl pending _ =>
    (∀ other ∈ s.memory.listPendingApprovals, other.jobId = pending.jobId) ∧
      s.InOrder pending.jobId ((s.memory.get pending.jobId).elim "default" JobRecord.tenantId)
        ((s.memory.get pending.jobId).elim "" JobRecord.correlationId) (s.postgres.createdAt call.1 pending.jobId)
  | .markRunning _ => True
  | .markCompleted jobId => ∀ record, s.memory.get jobId = some record → record.pendingHitl = none
  | .markFailed jobId => ∀ record, s.memory.get jobId = some record → record.pendingHitl = none

structure Kept (s : JobStores) : Prop where
  owned : ∀ jobId record pending, s.memory.get jobId = some record → record.pendingHitl = some pending →
    pending.jobId = jobId
  named : ∀ jobId row, s.postgres.jobs.get? jobId = some row → row.tenantId ≠ ""

section

variable {s t : JobStores}

theorem orElse_empty (text : String) : orElse text "" = text := by
  unfold orElse
  split
  · rename_i none
    exact none.symm
  · rfl

theorem orElse_ne_empty {first second : String} (given : second ≠ "") : orElse first second ≠ "" := by
  unfold orElse
  split
  · exact given
  · assumption

theorem rowToRecord_tenantId {jobId : String} {row : WorkerJobRow} (named : row.tenantId ≠ "") :
    (rowToRecord jobId row).tenantId = row.tenantId := if_neg named

def read (store : PostgresJobStore) : Dict String JobRecord :=
  ⟨store.jobs.entries.map fun row => (row.1, rowToRecord row.1 row.2), by
    rw [List.map_map]
    exact store.jobs.nodup⟩

theorem get?_read (store : PostgresJobStore) (jobId : String) : (read store).get? jobId = store.get jobId := by
  obtain ⟨⟨entries, nodup⟩⟩ := store
  unfold read PostgresJobStore.get Dict.get?
  dsimp only
  clear nodup
  induction entries with
  | nil => rfl
  | cons entry rest ih =>
    rw [List.map_cons, Assoc.lookup_cons, show entry = (entry.1, entry.2) from rfl, Assoc.lookup_cons, ih]
    by_cases here : jobId = entry.1
    · rw [if_pos here, if_pos here, here]
      rfl
    · rw [if_neg here, if_neg here]

theorem records_perm (same : ∀ jobId, s.memory.get jobId = s.postgres.get jobId) :
    s.memory.records.Perm (s.postgres.jobs.entries.map fun row => rowToRecord row.1 row.2) := by
  have entries : s.memory.jobs.entries.Perm (read s.postgres).entries := by
    apply Dict.entries_perm
    intro jobId
    rw [get?_read]
    exact same jobId
  have values := entries.map Prod.snd
  unfold read at values
  rw [List.map_map] at values
  exact values

theorem approval_some {record : JobRecord} {pending : PendingHitlAction} :
    record.approval = some pending ↔ record.status = .awaitingApproval ∧ record.pendingHitl = some pending := by
  unfold JobRecord.approval
  split <;> simp_all

theorem mem_listPendingApprovals {store : InMemoryJobStore} {pending : PendingHitlAction} :
    pending ∈ store.listPendingApprovals ↔
      ∃ jobId record, store.get jobId = some record ∧ record.approval = some pending := by
  unfold InMemoryJobStore.listPendingApprovals InMemoryJobStore.records InMemoryJobStore.get
  simp only [List.mem_filterMap, List.mem_map, ← Dict.mem_entries_iff]
  constructor
  · intro given
    obtain ⟨record, ⟨entry, member, rfl⟩, waits⟩ := given
    exact ⟨entry.1, entry.2, member, waits⟩
  · intro given
    obtain ⟨jobId, record, member, waits⟩ := given
    exact ⟨record, ⟨_, member, rfl⟩, waits⟩

theorem nodup_listPendingApprovals (kept : s.Kept) : s.memory.listPendingApprovals.Nodup := by
  have apart := List.pairwise_map.mp s.memory.jobs.nodup
  unfold InMemoryJobStore.listPendingApprovals InMemoryJobStore.records
  rw [List.filterMap_map]
  apply List.pairwise_filterMap.mpr
  refine apart.imp_of_mem fun {a b} ha hb other => ?_
  intro first waits second waiting same
  have own := kept.owned a.1 a.2 first ((Dict.mem_entries_iff _).mp ha) (approval_some.mp waits).2
  have theirs := kept.owned b.1 b.2 second ((Dict.mem_entries_iff _).mp hb) (approval_some.mp waiting).2
  exact other (own.symm.trans ((congrArg PendingHitlAction.jobId same).trans theirs))

theorem selectAwaiting_pending (store : PostgresJobStore) :
    (store.selectAwaiting.filterMap fun row => row.2.pendingHitlJson) =
      (store.jobs.entries.map fun row => rowToRecord row.1 row.2).filterMap JobRecord.approval := by
  unfold PostgresJobStore.selectAwaiting
  rw [List.filterMap_filter, List.filterMap_map]
  apply List.filterMap_congr
  intro row _
  simp [JobRecord.approval, rowToRecord]

theorem pending_unique (kept : s.Kept) {first second : PendingHitlAction} (hf : first ∈ s.memory.listPendingApprovals)
    (hs : second ∈ s.memory.listPendingApprovals) (same : first.jobId = second.jobId) : first = second := by
  obtain ⟨a, ra, fa, wa⟩ := mem_listPendingApprovals.mp hf
  obtain ⟨b, rb, fb, wb⟩ := mem_listPendingApprovals.mp hs
  have keys : a = b := by
    rw [← kept.owned a ra first fa (approval_some.mp wa).2, ← kept.owned b rb second fb (approval_some.mp wb).2, same]
  rw [keys, fb] at fa
  cases fa
  rw [wa] at wb
  exact Option.some.inj wb

theorem pendingApprovals_iff (kept : s.Kept) (same : ∀ jobId, s.memory.get jobId = s.postgres.get jobId) :
    (∀ answer, s.postgres.PendingApprovals answer → answer = s.memory.listPendingApprovals) ↔
      ∀ first ∈ s.memory.listPendingApprovals, ∀ second ∈ s.memory.listPendingApprovals,
        first.jobId = second.jobId := by
  have listed : (s.postgres.selectAwaiting.filterMap fun row => row.2.pendingHitlJson).Perm
      s.memory.listPendingApprovals := by
    rw [selectAwaiting_pending]
    exact ((records_perm same).filterMap _).symm
  have nodup := nodup_listPendingApprovals kept
  have short := Listing.unordered_eq_iff (listed.nodup_iff.mpr nodup) listed
  have answers : (∀ answer, s.postgres.PendingApprovals answer → answer = s.memory.listPendingApprovals) ↔
      ∀ rows : List (String × WorkerJobRow), rows.Perm s.postgres.selectAwaiting →
        (rows.filterMap fun row => row.2.pendingHitlJson) = s.memory.listPendingApprovals := by
    constructor
    · intro agree rows perm
      exact agree _ ⟨rows, perm, rfl⟩
    · intro agree answer given
      obtain ⟨rows, perm, rfl⟩ := given
      exact agree rows perm
  rw [answers, short, Listing.length_le_one_iff nodup]
  constructor
  · intro one first hf second hs
    rw [one first hf second hs]
  · intro one first hf second hs
    exact pending_unique kept hf hs (one first hf second hs)

theorem sorted_listByInvestigation (store : InMemoryJobStore) (tenantId investigationId : String) :
    (store.listByInvestigation tenantId investigationId).Pairwise fun a b => a.jobId ≤ b.jobId := by
  have total : Std.Total fun a b : JobRecordSummary => a.jobId ≤ b.jobId := ⟨fun a b => le_total a.jobId b.jobId⟩
  have trans : IsTrans JobRecordSummary fun a b => a.jobId ≤ b.jobId := ⟨fun _ _ _ => le_trans⟩
  exact List.pairwise_insertionSort _ _

theorem mem_selectInvestigation {store : PostgresJobStore} {tenantId investigationId : String}
    {row : String × WorkerJobRow} :
    row ∈ store.selectInvestigation tenantId investigationId ↔
      store.jobs.get? row.1 = some row.2 ∧ row.2.tenantId = tenantId ∧ row.2.correlationId = investigationId := by
  unfold PostgresJobStore.selectInvestigation
  rw [List.mem_filter, decide_eq_true_eq, ← Dict.mem_entries_iff]

theorem selectInvestigation_perm (kept : s.Kept) (same : ∀ jobId, s.memory.get jobId = s.postgres.get jobId)
    (tenantId investigationId : String) :
    ((s.postgres.selectInvestigation tenantId investigationId).map PostgresJobStore.rowSummary).Perm
      (s.memory.listByInvestigation tenantId investigationId) := by
  have found := ((records_perm same).filter fun record =>
    record.tenantId = tenantId ∧ record.correlationId = investigationId).map JobRecord.summary
  have rows : ((s.postgres.jobs.entries.map fun row => rowToRecord row.1 row.2).filter fun record =>
      record.tenantId = tenantId ∧ record.correlationId = investigationId).map JobRecord.summary =
      (s.postgres.selectInvestigation tenantId investigationId).map PostgresJobStore.rowSummary := by
    unfold PostgresJobStore.selectInvestigation
    rw [List.filter_map, List.map_map]
    congr 1
    apply List.filter_congr
    intro row member
    have named := kept.named row.1 row.2 ((Dict.mem_entries_iff _).mp member)
    change decide ((rowToRecord row.1 row.2).tenantId = tenantId ∧ orElse row.2.correlationId "" = investigationId) = _
    rw [rowToRecord_tenantId named, orElse_empty]
  rw [rows] at found
  exact (found.symm).trans (List.perm_insertionSort _ _).symm

def Sorted (s : JobStores) : Prop :=
  ∀ a b first second, a < b → s.postgres.jobs.get? a = some first → s.postgres.jobs.get? b = some second →
    first.tenantId = second.tenantId → first.correlationId = second.correlationId → first.createdAt < second.createdAt

theorem investigation_iff (kept : s.Kept) (same : ∀ jobId, s.memory.get jobId = s.postgres.get jobId)
    (tenantId investigationId : String) :
    (∀ answer, s.postgres.ByInvestigation tenantId investigationId answer →
      answer = s.memory.listByInvestigation tenantId investigationId) ↔
      ∀ a ∈ s.postgres.selectInvestigation tenantId investigationId,
        ∀ b ∈ s.postgres.selectInvestigation tenantId investigationId,
          a.1 < b.1 → a.2.createdAt < b.2.createdAt := by
  have distinct : ∀ a ∈ s.postgres.selectInvestigation tenantId investigationId,
      ∀ b ∈ s.postgres.selectInvestigation tenantId investigationId,
        (PostgresJobStore.rowSummary a).jobId = (PostgresJobStore.rowSummary b).jobId → a = b := by
    intro a ha b hb names
    have keys : a.1 = b.1 := names
    have first := (mem_selectInvestigation.mp ha).1
    have second := (mem_selectInvestigation.mp hb).1
    rw [keys, second] at first
    exact Prod.ext keys (Option.some.inj first).symm
  have rule := Listing.orderedBy_eq_iff (fun row : String × WorkerJobRow => row.2.createdAt)
    JobRecordSummary.jobId distinct (sorted_listByInvestigation s.memory tenantId investigationId)
    (selectInvestigation_perm kept same tenantId investigationId)
  constructor
  · intro agree
    apply rule.mp
    intro rows ordered
    exact agree _ ⟨rows, ordered, rfl⟩
  · intro early answer given
    obtain ⟨rows, ordered, rfl⟩ := given
    exact rule.mpr early rows ordered

theorem byInvestigation_iff (kept : s.Kept) (same : ∀ jobId, s.memory.get jobId = s.postgres.get jobId) :
    (∀ tenantId investigationId answer, s.postgres.ByInvestigation tenantId investigationId answer →
      answer = s.memory.listByInvestigation tenantId investigationId) ↔ s.Sorted := by
  have each := investigation_iff kept same
  constructor
  · intro agree a b first second before found held tenants investigations
    exact (each second.tenantId second.correlationId).mp (agree _ _) (a, first)
      (mem_selectInvestigation.mpr ⟨found, tenants, investigations⟩) (b, second)
      (mem_selectInvestigation.mpr ⟨held, rfl, rfl⟩) before
  · intro sorted tenantId investigationId
    apply (each tenantId investigationId).mpr
    intro a ha b hb before
    obtain ⟨found, ta, ia⟩ := mem_selectInvestigation.mp ha
    obtain ⟨held, tb, ib⟩ := mem_selectInvestigation.mp hb
    exact sorted a.1 b.1 a.2 b.2 before found held (ta.trans tb.symm) (ia.trans ib.symm)

theorem agree_iff (kept : s.Kept) :
    s.Agree ↔ (∀ jobId, s.memory.get jobId = s.postgres.get jobId) ∧
      (∀ first ∈ s.memory.listPendingApprovals, ∀ second ∈ s.memory.listPendingApprovals,
        first.jobId = second.jobId) ∧ s.Sorted := by
  constructor
  · intro given
    obtain ⟨same, approvals, listings⟩ := given
    exact ⟨same, (pendingApprovals_iff kept same).mp approvals, (byInvestigation_iff kept same).mp listings⟩
  · intro given
    obtain ⟨same, single, sorted⟩ := given
    exact ⟨same, (pendingApprovals_iff kept same).mpr single, (byInvestigation_iff kept same).mpr sorted⟩

structure Wrote (s t : JobStores) (jobId : String) (record : JobRecord) (row : WorkerJobRow) : Prop where
  memory : ∀ other, t.memory.get other = if other = jobId then some record else s.memory.get other
  postgres : ∀ other, t.postgres.jobs.get? other = if other = jobId then some row else s.postgres.jobs.get? other

theorem sorted_wrote {jobId : String} {record : JobRecord} {row : WorkerJobRow} (wrote : Wrote s t jobId record row)
    (sorted : s.Sorted) : t.Sorted ↔ s.InOrder jobId row.tenantId row.correlationId row.createdAt := by
  have own : t.postgres.jobs.get? jobId = some row := by rw [wrote.postgres, if_pos rfl]
  have others : ∀ other, other ≠ jobId → t.postgres.jobs.get? other = s.postgres.jobs.get? other := by
    intro other apart
    rw [wrote.postgres, if_neg apart]
  constructor
  · intro after other older apart present tenants investigations
    rw [← others other apart] at present
    rcases lt_trichotomy other jobId with before | equal | later
    · exact .inl ⟨before, after other jobId older row before present own tenants investigations⟩
    · exact absurd equal apart
    · exact .inr ⟨later, after jobId other row older later own present tenants.symm investigations.symm⟩
  · intro inOrder a b first second before found held tenants investigations
    by_cases mine : a = jobId
    · subst mine
      have apart : b ≠ a := ne_of_gt before
      rw [own] at found
      cases found
      rw [others b apart] at held
      rcases inOrder b second apart held tenants.symm investigations.symm with ⟨after, -⟩ | ⟨-, early⟩
      · exact absurd before (lt_asymm after)
      · exact early
    · rw [others a mine] at found
      by_cases theirs : b = jobId
      · subst theirs
        rw [own] at held
        cases held
        rcases inOrder a first mine found tenants investigations with ⟨-, early⟩ | ⟨after, -⟩
        · exact early
        · exact absurd before (lt_asymm after)
      · rw [others b theirs] at held
        exact sorted a b first second before found held tenants investigations

theorem single_wrote {jobId : String} {record : JobRecord} {row : WorkerJobRow} (before : s.Kept)
    (after : t.Kept) (wrote : Wrote s t jobId record row)
    (single : ∀ first ∈ s.memory.listPendingApprovals, ∀ second ∈ s.memory.listPendingApprovals,
      first.jobId = second.jobId) :
    (∀ first ∈ t.memory.listPendingApprovals, ∀ second ∈ t.memory.listPendingApprovals,
        first.jobId = second.jobId) ↔
      (record.approval.isSome → ∀ other ∈ s.memory.listPendingApprovals, other.jobId = jobId) := by
  have own : ∀ pending, record.approval = some pending →
      pending.jobId = jobId ∧ pending ∈ t.memory.listPendingApprovals := by
    intro pending waits
    have stored : t.memory.get jobId = some record := by rw [wrote.memory, if_pos rfl]
    exact ⟨after.owned jobId record pending stored (approval_some.mp waits).2,
      mem_listPendingApprovals.mpr ⟨jobId, record, stored, waits⟩⟩
  have others : ∀ pending, pending ∈ t.memory.listPendingApprovals →
      record.approval = some pending ∨ pending ∈ s.memory.listPendingApprovals := by
    intro pending member
    obtain ⟨other, held, stored, waits⟩ := mem_listPendingApprovals.mp member
    rw [wrote.memory] at stored
    by_cases here : other = jobId
    · rw [if_pos here] at stored
      cases stored
      exact .inl waits
    · rw [if_neg here] at stored
      exact .inr (mem_listPendingApprovals.mpr ⟨other, held, stored, waits⟩)
  constructor
  · intro alone waiting other member
    obtain ⟨pending, waits⟩ := Option.isSome_iff_exists.mp waiting
    obtain ⟨mine, listed⟩ := own pending waits
    obtain ⟨key, held, stored, awaits⟩ := mem_listPendingApprovals.mp member
    by_cases here : key = jobId
    · rw [before.owned key held other stored (approval_some.mp awaits).2, here]
    · have still : other ∈ t.memory.listPendingApprovals := by
        apply mem_listPendingApprovals.mpr
        refine ⟨key, held, ?_, awaits⟩
        rw [wrote.memory, if_neg here]
        exact stored
      rw [← mine]
      exact alone other still pending listed
  · intro alone first hf second hs
    rcases others first hf with waits | held <;> rcases others second hs with waiting | present
    · rw [(own first waits).1, (own second waiting).1]
    · rw [(own first waits).1, alone (by simp [waits]) second present]
    · rw [(own second waiting).1, alone (by simp [waiting]) first held]
    · exact single first held second present

theorem agree_wrote_iff {jobId : String} {record : JobRecord} {row : WorkerJobRow} (before : s.Kept) (after : t.Kept)
    (wrote : Wrote s t jobId record row) (agree : s.Agree) :
    t.Agree ↔ record = rowToRecord jobId row ∧
      (record.approval.isSome → ∀ other ∈ s.memory.listPendingApprovals, other.jobId = jobId) ∧
      s.InOrder jobId row.tenantId row.correlationId row.createdAt := by
  obtain ⟨same, single, sorted⟩ := (agree_iff before).mp agree
  have fields : (∀ other, t.memory.get other = t.postgres.get other) ↔ record = rowToRecord jobId row := by
    have others : ∀ other, other ≠ jobId → t.memory.get other = t.postgres.get other := by
      intro other apart
      rw [wrote.memory, if_neg apart, same, PostgresJobStore.get, PostgresJobStore.get, wrote.postgres, if_neg apart]
    have own : t.memory.get jobId = t.postgres.get jobId ↔ record = rowToRecord jobId row := by
      rw [wrote.memory, if_pos rfl, PostgresJobStore.get, wrote.postgres, if_pos rfl]
      simp
    constructor
    · intro all
      exact own.mp (all jobId)
    · intro equal other
      by_cases here : other = jobId
      · rw [here]
        exact own.mpr equal
      · exact others other here
  rw [agree_iff after, fields, single_wrote before after wrote single, sorted_wrote wrote sorted]

theorem inOrder_self (sorted : s.Sorted) {jobId : String} {row : WorkerJobRow}
    (held : s.postgres.jobs.get? jobId = some row) :
    s.InOrder jobId row.tenantId row.correlationId row.createdAt := by
  intro other older apart present tenants investigations
  rcases lt_trichotomy other jobId with before | equal | later
  · exact .inl ⟨before, sorted other jobId older row before present held tenants investigations⟩
  · exact absurd equal apart
  · exact .inr ⟨later, sorted jobId other row older later held present tenants.symm investigations.symm⟩

theorem wrote_set (s : JobStores) (jobId : String) (record : JobRecord) (row : WorkerJobRow) :
    Wrote s ⟨⟨s.memory.jobs.set jobId record⟩, ⟨s.postgres.jobs.set jobId row⟩⟩ jobId record row :=
  ⟨fun other => Dict.get?_set s.memory.jobs jobId other record,
    fun other => Dict.get?_set s.postgres.jobs jobId other row⟩

theorem kept_wrote {jobId : String} {record : JobRecord} {row : WorkerJobRow} (before : s.Kept)
    (wrote : Wrote s t jobId record row) (own : ∀ pending, record.pendingHitl = some pending → pending.jobId = jobId)
    (named : row.tenantId ≠ "") : t.Kept := by
  constructor
  · intro other held pending stored waits
    rw [wrote.memory] at stored
    by_cases here : other = jobId
    · rw [if_pos here] at stored
      cases stored
      rw [here]
      exact own pending waits
    · rw [if_neg here] at stored
      exact before.owned other held pending stored waits
  · intro other older present
    rw [wrote.postgres] at present
    by_cases here : other = jobId
    · rw [if_pos here] at present
      cases present
      exact named
    · rw [if_neg here] at present
      exact before.named other older present

def rowOf (record : JobRecord) (createdAt : Rat) : WorkerJobRow :=
  { persona := record.persona, eventId := record.eventId, correlationId := record.correlationId
    tenantId := record.tenantId, status := record.status, sessionId := record.sessionId
    hitlPreviewJson := record.hitlPreview, pendingHitlJson := record.pendingHitl, createdAt }

theorem orElse_of_ne {first second : String} (given : first ≠ "") : orElse first second = first := if_neg given

theorem rowToRecord_rowOf {jobId : String} {record : JobRecord} (own : record.jobId = jobId)
    (named : record.tenantId ≠ "") (created : Rat) : rowToRecord jobId (rowOf record created) = record := by
  unfold rowToRecord rowOf
  simp only [orElse_empty, orElse_of_ne named, ← own]

def upserted (existing : Option JobRecord) (jobId sessionId persona : String) (status : WorkerJobStatus)
    (hitlPreview : Option JsonDict) (pendingHitl : Option PendingHitlAction)
    (correlationId tenantId eventId : String) : JobRecord :=
  { jobId, sessionId, persona, status
    hitlPreview := hitlPreview.getD (existing.elim [] JobRecord.hitlPreview), pendingHitl
    correlationId := orElse correlationId (existing.elim "" JobRecord.correlationId)
    tenantId := orElse tenantId (existing.elim "default" JobRecord.tenantId)
    eventId := orElse eventId (existing.elim "" JobRecord.eventId) }

theorem tenantId_ne_empty (store : PostgresJobStore) (jobId : String) :
    (store.get jobId).elim "default" JobRecord.tenantId ≠ "" := by
  have default : "default" ≠ "" := by decide
  unfold PostgresJobStore.get
  cases store.jobs.get? jobId with
  | none => exact default
  | some row => exact orElse_ne_empty default

theorem agree_upsert_iff (before : s.Kept) (agree : s.Agree) (now : Rat) {record : JobRecord}
    {jobId sessionId persona : String} {status : WorkerJobStatus} {hitlPreview : Option JsonDict}
    {pendingHitl : Option PendingHitlAction} {correlationId tenantId eventId : String}
    (own : ∀ pending, record.pendingHitl = some pending → pending.jobId = jobId) {p : JobRecord}
    (made : upserted (s.memory.get jobId) jobId sessionId persona status hitlPreview pendingHitl correlationId tenantId
      eventId = p)
    (ended : JobStores.mk ⟨s.memory.jobs.set jobId record⟩ (s.postgres.upsert now jobId sessionId persona status
      hitlPreview pendingHitl correlationId tenantId eventId) = t) :
    t.Kept ∧ (t.Agree ↔ record = p ∧
      (record.approval.isSome → ∀ other ∈ s.memory.listPendingApprovals, other.jobId = jobId) ∧
      s.InOrder jobId p.tenantId p.correlationId (s.postgres.createdAt now jobId)) := by
  subst made ended
  rw [agree.get jobId]
  have named : (upserted (s.postgres.get jobId) jobId sessionId persona status hitlPreview pendingHitl correlationId
      tenantId eventId).tenantId ≠ "" := orElse_ne_empty (tenantId_ne_empty s.postgres jobId)
  have wrote := wrote_set s jobId record (rowOf (upserted (s.postgres.get jobId) jobId sessionId persona status
    hitlPreview pendingHitl correlationId tenantId eventId) (s.postgres.createdAt now jobId))
  have after := kept_wrote before wrote own named
  have rule := agree_wrote_iff before after wrote agree
  have own : (upserted (s.postgres.get jobId) jobId sessionId persona status hitlPreview pendingHitl correlationId
      tenantId eventId).jobId = jobId := rfl
  rw [rowToRecord_rowOf own named] at rule
  exact ⟨after, rule⟩

theorem upserted_self {record : JobRecord} {existing : Option JobRecord} (stored : existing = some record)
    (status : WorkerJobStatus) :
    upserted existing record.jobId record.sessionId record.persona status (some record.hitlPreview) none
      record.correlationId record.tenantId record.eventId = { record with status, pendingHitl := none } := by
  have self : ∀ text, orElse text text = text := fun text => ite_self text
  unfold upserted
  rw [stored]
  simp only [Option.elim_some, self, Option.getD_some]

theorem agree_mark_iff (before : s.Kept) (agree : s.Agree) (now : Rat) (jobId : String) (status : WorkerJobStatus)
    (f : JobRecord → JobRecord) (moved : status ≠ .awaitingApproval) (stated : ∀ record, (f record).status = status)
    (own : ∀ record pending, (f record).pendingHitl = some pending → record.pendingHitl = some pending)
    (ended : JobStores.mk ⟨s.memory.jobs.modify jobId f⟩ (s.postgres.mark now jobId status) = t) :
    t.Kept ∧ (t.Agree ↔
      ∀ record, s.memory.get jobId = some record → f record = { record with status, pendingHitl := none }) := by
  subst ended
  obtain ⟨same, -, sorted⟩ := (agree_iff before).mp agree
  unfold Dict.modify PostgresJobStore.mark
  rw [← same]
  unfold InMemoryJobStore.get at same ⊢
  cases stored : s.memory.jobs.get? jobId with
  | none =>
    refine ⟨before, ?_⟩
    constructor
    · intro _ record other
      cases other
    · intro _
      exact agree
  | some record =>
    have present := (same jobId).symm.trans stored
    unfold PostgresJobStore.get at present
    obtain ⟨row, held, made⟩ := Option.map_eq_some_iff.mp present
    have tenant : record.tenantId = row.tenantId := by
      rw [← made]
      exact rowToRecord_tenantId (before.named jobId row held)
    have investigation : record.correlationId = row.correlationId := by
      rw [← made]
      exact orElse_empty _
    have name : record.jobId = jobId := by
      rw [← made]
      rfl
    have written : upserted (s.memory.get jobId) jobId record.sessionId record.persona status (some record.hitlPreview)
        none record.correlationId record.tenantId record.eventId = { record with status, pendingHitl := none } := by
      rw [← name]
      exact upserted_self (name ▸ stored) status
    have created : s.postgres.createdAt now jobId = row.createdAt := by
      unfold PostgresJobStore.createdAt
      rw [held]
      rfl
    have quiet : (f record).approval = none := by
      unfold JobRecord.approval
      rw [stated, if_neg moved]
    have kept : ∀ pending, (f record).pendingHitl = some pending → pending.jobId = jobId :=
      fun pending waits => before.owned jobId record pending stored (own record pending waits)
    obtain ⟨after, rule⟩ := agree_upsert_iff before agree now kept written rfl
    refine ⟨after, rule.trans ?_⟩
    rw [quiet, created]
    constructor
    · intro given other same
      obtain ⟨equal, -, -⟩ := given
      cases same
      exact equal
    · intro equal
      refine ⟨equal record rfl, nofun, ?_⟩
      rw [tenant, investigation]
      exact inOrder_self sorted held

theorem eq_orElse_iff {first second : String} : first = orElse first second ↔ (first = "" → second = "") := by
  unfold orElse
  split
  · rename_i none
    simp [none, eq_comm]
  · rename_i given
    simp [given]

theorem eq_orElse_of_ne {first second : String} (given : second ≠ "") : first = orElse first second ↔ first ≠ "" := by
  rw [eq_orElse_iff]
  exact ⟨fun kept none => given (kept none), fun other none => absurd none other⟩

theorem agree_upsertPending_iff (before : s.Kept) (agree : s.Agree) (now : Rat)
    (jobId persona correlationId tenantId eventId : String)
    (taken : s.step (now, .upsertPending jobId persona correlationId tenantId eventId) = some t) :
    t.Kept ∧ (t.Agree ↔ s.Alike (now, .upsertPending jobId persona correlationId tenantId eventId)) := by
  obtain ⟨after, rule⟩ := agree_upsert_iff before agree now (fun _ none => by cases none) rfl (Option.some.inj taken)
  refine ⟨after, rule.trans ?_⟩
  have named := tenantId_ne_empty s.postgres jobId
  rw [← agree.get] at named
  unfold Alike upserted
  simp only [JobRecord.mk.injEq, Option.getD_none, true_and]
  constructor
  · intro both
    obtain ⟨⟨preview, correlation, tenant, event⟩, -, placed⟩ := both
    rw [← correlation, ← tenant] at placed
    refine ⟨(eq_orElse_of_ne named).mp tenant, ?_, placed⟩
    intro record stored
    rw [stored] at preview correlation event
    exact ⟨preview.symm, eq_orElse_iff.mp correlation, eq_orElse_iff.mp event⟩
  · intro both
    obtain ⟨given, same, placed⟩ := both
    have tenant := (eq_orElse_of_ne named).mpr given
    have fields : [] = (s.memory.get jobId).elim [] JobRecord.hitlPreview ∧
        correlationId = orElse correlationId ((s.memory.get jobId).elim "" JobRecord.correlationId) ∧
        eventId = orElse eventId ((s.memory.get jobId).elim "" JobRecord.eventId) := by
      cases stored : s.memory.get jobId with
      | none => exact ⟨rfl, eq_orElse_iff.mpr fun _ => rfl, eq_orElse_iff.mpr fun _ => rfl⟩
      | some record =>
        obtain ⟨preview, correlation, event⟩ := same record stored
        exact ⟨preview.symm, eq_orElse_iff.mpr correlation, eq_orElse_iff.mpr event⟩
    obtain ⟨preview, correlation, event⟩ := fields
    rw [← correlation, ← tenant]
    exact ⟨⟨preview, rfl, rfl, event⟩, nofun, placed⟩

theorem agree_upsertRunning_iff (before : s.Kept) (agree : s.Agree) (now : Rat)
    (jobId sessionId persona correlationId tenantId eventId : String)
    (taken : s.step (now, .upsertRunning jobId sessionId persona correlationId tenantId eventId) = some t) :
    t.Kept ∧ (t.Agree ↔ s.Alike (now, .upsertRunning jobId sessionId persona correlationId tenantId eventId)) := by
  obtain ⟨after, rule⟩ := agree_upsert_iff before agree now (fun _ none => by cases none) rfl (Option.some.inj taken)
  refine ⟨after, rule.trans ?_⟩
  unfold Alike upserted
  simp only [JobRecord.mk.injEq, Option.getD_none, true_and, and_true]
  constructor
  · intro given
    obtain ⟨preview, -, placed⟩ := given
    refine ⟨?_, placed⟩
    intro record stored
    rw [stored] at preview
    exact preview.symm
  · intro given
    obtain ⟨same, placed⟩ := given
    refine ⟨?_, nofun, placed⟩
    cases stored : s.memory.get jobId with
    | none => rfl
    | some record => exact (same record stored).symm

theorem agree_pauseForHitl_iff (before : s.Kept) (agree : s.Agree) (now : Rat) (pending : PendingHitlAction)
    (preview : JsonDict) (taken : s.step (now, .pauseForHitl pending preview) = some t) :
    t.Kept ∧ (t.Agree ↔ s.Alike (now, .pauseForHitl pending preview)) := by
  have ended := Option.some.inj taken
  unfold JobStoreCall.onPostgres PostgresJobStore.pauseForHitl at ended
  dsimp only at ended
  rw [← agree.get] at ended
  have own : ∀ other, some pending = some other → other.jobId = pending.jobId := by
    intro other same
    cases same
    rfl
  obtain ⟨after, rule⟩ := agree_upsert_iff before agree now own rfl ended
  refine ⟨after, rule.trans ?_⟩
  have self : ∀ text, orElse text text = text := fun text => ite_self text
  unfold Alike upserted
  simp only [self, Option.getD_some, true_and]
  constructor
  · intro given
    obtain ⟨alone, placed⟩ := given
    exact ⟨alone rfl, placed⟩
  · intro given
    obtain ⟨alone, placed⟩ := given
    exact ⟨fun _ => alone, placed⟩

theorem agree_step_iff (before : s.Kept) (agree : s.Agree) {call : Rat × JobStoreCall} (taken : s.step call = some t) :
    t.Kept ∧ (t.Agree ↔ s.Alike call) := by
  obtain ⟨now, call⟩ := call
  cases call with
  | upsertPending jobId persona correlationId tenantId eventId =>
    exact agree_upsertPending_iff before agree now jobId persona correlationId tenantId eventId taken
  | upsertRunning jobId sessionId persona correlationId tenantId eventId =>
    exact agree_upsertRunning_iff before agree now jobId sessionId persona correlationId tenantId eventId taken
  | pauseForHitl pending preview => exact agree_pauseForHitl_iff before agree now pending preview taken
  | markRunning jobId =>
    obtain ⟨after, rule⟩ := agree_mark_iff before agree now jobId .running
      (fun record => { record with status := .running, pendingHitl := none }) (by decide) (fun _ => rfl)
      (fun _ _ none => by cases none) (Option.some.inj taken)
    exact ⟨after, rule.trans ⟨fun _ => trivial, fun _ _ _ => rfl⟩⟩
  | markCompleted jobId =>
    obtain ⟨after, rule⟩ := agree_mark_iff before agree now jobId .completed
      (fun record => { record with status := .completed }) (by decide) (fun _ => rfl) (fun _ _ held => held)
      (Option.some.inj taken)
    refine ⟨after, rule.trans ?_⟩
    simp only [Alike, JobRecord.mk.injEq, true_and, and_true]
  | markFailed jobId =>
    obtain ⟨after, rule⟩ := agree_mark_iff before agree now jobId .failed
      (fun record => { record with status := .failed }) (by decide) (fun _ => rfl) (fun _ _ held => held)
      (Option.some.inj taken)
    refine ⟨after, rule.trans ?_⟩
    simp only [Alike, JobRecord.mk.injEq, true_and, and_true]

theorem kept_empty : ({} : JobStores).Kept := by
  constructor
  · intro jobId record pending stored
    cases stored
  · intro jobId row held
    cases held

theorem agree_empty : ({} : JobStores).Agree := by
  apply (agree_iff kept_empty).mpr
  refine ⟨fun _ => rfl, ?_, ?_⟩
  · intro first member
    cases member
  · intro a b first second _ found
    cases found

end

/-- From empty stores on, the two answer alike throughout a sequence of calls exactly when every
    call finds the stores as it needs them. -/
theorem agree_always_iff (calls : List (Rat × JobStoreCall)) :
    Transition.Always step Agree {} calls ↔ Transition.Guarded step Alike {} calls := by
  have total : ∃ t, Transition.run step {} calls = some t := by
    generalize ({} : JobStores) = s
    induction calls generalizing s with
    | nil => exact ⟨s, rfl⟩
    | cons call rest ih => exact ih _
  obtain ⟨t, reached⟩ := total
  apply Transition.always_iff_guarded Kept _ _ kept_empty agree_empty reached
  · intro s call t kept agree _ taken
    exact (agree_step_iff kept agree taken).1
  · intro s call t kept agree taken
    exact (agree_step_iff kept agree taken).2

def twoJobs : List (Rat × JobStoreCall) :=
  [(0, .upsertPending "job-b" "soc" "inv-1" "default" "evt-1"),
    (1, .upsertPending "job-a" "intel" "inv-1" "default" "evt-1")]

def summaryOf (jobId persona : String) : JobRecordSummary :=
  { jobId, sessionId := "", persona, status := .pending, correlationId := "inv-1", eventId := "evt-1" }

/-- Two jobs of one investigation are listed by name in memory and by age in the database. -/
theorem two_jobs_differ :
    (∃ t, Transition.run step {} twoJobs = some t ∧
      t.memory.listByInvestigation "default" "inv-1" = [summaryOf "job-a" "intel", summaryOf "job-b" "soc"] ∧
      t.postgres.ByInvestigation "default" "inv-1" [summaryOf "job-b" "soc", summaryOf "job-a" "intel"] ∧
      ¬ t.Agree) ∧
    ¬ ∀ calls, Transition.Always step Agree {} calls := by
  have listed : ∃ t, Transition.run step {} twoJobs = some t ∧
      t.memory.listByInvestigation "default" "inv-1" = [summaryOf "job-a" "intel", summaryOf "job-b" "soc"] ∧
      t.postgres.ByInvestigation "default" "inv-1" [summaryOf "job-b" "soc", summaryOf "job-a" "intel"] := by
    refine ⟨_, rfl, by decide +kernel, _, ⟨List.Perm.refl _, ?_⟩, rfl⟩
    apply List.pairwise_pair.mpr
    decide +kernel
  have differ : ∀ t : JobStores,
      t.memory.listByInvestigation "default" "inv-1" = [summaryOf "job-a" "intel", summaryOf "job-b" "soc"] →
      t.postgres.ByInvestigation "default" "inv-1" [summaryOf "job-b" "soc", summaryOf "job-a" "intel"] →
        ¬ t.Agree := by
    intro t memory postgres agree
    have same := (agree.byInvestigation _ _ _ postgres).trans memory
    exact absurd same (by decide)
  obtain ⟨t, reached, memory, postgres⟩ := listed
  have apart := differ t memory postgres
  refine ⟨⟨t, reached, memory, postgres, apart⟩, ?_⟩
  intro always
  exact apart ((always twoJobs).last reached)

end JobStores

end CysAgi
