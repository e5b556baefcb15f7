import CysAgi.Memory.Checksum
import CysAgi.Base.Ranking
import Mathlib.Algebra.Order.Ring.Unbundled.Rat

open Py Ranking

namespace CysAgi

structure MemoryScope where
  tenantId : String
  investigationId : String
  persona : Option String := none
  deriving DecidableEq

structure ScopedMemoryEntry extends StoredMemoryEntry where
  scope : MemoryScope

structure InMemoryEpisodicMemoryStore where
  entries : List ScopedMemoryEntry := []

namespace InMemoryEpisodicMemoryStore

def matching (store : InMemoryEpisodicMemoryStore) (scope : MemoryScope) : List ScopedMemoryEntry :=
  store.entries.filter fun entry =>
    entry.scope.tenantId = scope.tenantId ∧ entry.scope.investigationId = scope.investigationId ∧
      (scope.persona = none ∨ entry.scope.persona = none ∨ entry.scope.persona = scope.persona)

def newestFirst (store : InMemoryEpisodicMemoryStore) (scope : MemoryScope) : List ScopedMemoryEntry :=
  (store.matching scope).insertionSort fun first second => second.createdAt ≤ first.createdAt

def query (store : InMemoryEpisodicMemoryStore) (scope : MemoryScope) (limit : Int) : List ScopedMemoryEntry :=
  sliceTo (store.newestFirst scope) limit

def listed (store : InMemoryEpisodicMemoryStore) (tenantId investigationId : String) : List StoredMemoryEntry :=
  (store.newestFirst { tenantId, investigationId }).map (·.toStoredMemoryEntry)

end InMemoryEpisodicMemoryStore

namespace MemoryService

variable (service : MemoryService) (now : Rat) (store : InMemoryEpisodicMemoryStore) (tenantId investigationId : String)
  (limit : Int) (requestingTenantId : Option String)

def queryStored : List StoredMemoryEntry :=
  service.queryInvestigation now
    ((store.query { tenantId, investigationId } limit).map (·.toStoredMemoryEntry))
    tenantId investigationId limit requestingTenantId

/-- An entry that `query_investigation` does not skip. -/
def valid (entry : StoredMemoryEntry) : Bool :=
  ¬ entry.createdAt < now - memoryTtlSeconds ∧
    (entry.checksum = "" ∨ (service.validator tenantId investigationId).verifyChecksum entry.content entry.checksum)

/-- The answer is the first of all valid entries of the investigation by trust, as many as the limit allows. -/
def ReturnsBest : Prop :=
  BestOf (·.trustScore) limit.toNat
    (((store.matching { tenantId, investigationId }).map (·.toStoredMemoryEntry)).filter
      (service.valid now tenantId investigationId))
    (service.queryStored now store tenantId investigationId limit requestingTenantId)

/-- No valid entry is behind the limit of the store; or all that the store answers are valid, and no valid entry
    behind it has more trust than one of them. A negative limit takes the oldest away, and then the last by trust. -/
def Uncrowded : Prop :=
  let listed := store.listed tenantId investigationId
  let valid := service.valid now tenantId investigationId
  if 0 ≤ limit then
    (∀ entry ∈ listed.drop limit.toNat, ¬ valid entry) ∨
      ∀ entry ∈ listed.take limit.toNat, valid entry ∧
        ∀ older ∈ listed.drop limit.toNat, valid older → older.trustScore ≤ entry.trustScore
  else ((listed.take (listed.length - (-limit).toNat)).filter valid).length ≤ (-limit).toNat

def ranked (entries : List StoredMemoryEntry) : List StoredMemoryEntry :=
  (entries.filter (service.valid now tenantId investigationId)).insertionSort
    fun first second => second.trustScore ≤ first.trustScore

theorem queryStored_eq (own : ∀ tenant ∈ requestingTenantId, tenant = tenantId) :
    service.queryStored now store tenantId investigationId limit requestingTenantId =
      sliceTo (service.ranked now tenantId investigationId (sliceTo (store.listed tenantId investigationId) limit))
        limit := by
  have allowed : ¬ (requestingTenantId ≠ none ∧ requestingTenantId ≠ some tenantId) := by
    intro ⟨given, other⟩
    cases requestingTenantId with
    | none => exact given rfl
    | some tenant => exact other (congrArg some (own tenant rfl))
  unfold queryStored queryInvestigation InMemoryEpisodicMemoryStore.query
  rw [if_neg allowed, sliceTo_map]
  rfl

theorem ranked_perm (entries : List StoredMemoryEntry) :
    (service.ranked now tenantId investigationId entries).Perm
      (entries.filter (service.valid now tenantId investigationId)) :=
  List.perm_insertionSort _ _

theorem ranked_sorted (entries : List StoredMemoryEntry) :
    (service.ranked now tenantId investigationId entries).Pairwise
      fun first second => second.trustScore ≤ first.trustScore :=
  pairwise_ranking StoredMemoryEntry.trustScore _

theorem listed_perm :
    (((store.matching { tenantId, investigationId }).map (·.toStoredMemoryEntry)).filter
      (service.valid now tenantId investigationId)).Perm
      ((store.listed tenantId investigationId).filter (service.valid now tenantId investigationId)) := by
  apply List.Perm.filter
  apply List.Perm.map
  exact (List.perm_insertionSort _ _).symm

/-- The answer holds the best of the valid entries exactly when the store's limit has kept none of them out. -/
theorem returnsBest_iff (own : ∀ tenant ∈ requestingTenantId, tenant = tenantId) :
    service.ReturnsBest now store tenantId investigationId limit requestingTenantId ↔
      service.Uncrowded now store tenantId investigationId limit := by
  unfold ReturnsBest Uncrowded
  rw [bestOf_perm (service.listed_perm now store tenantId investigationId),
    service.queryStored_eq now store tenantId investigationId limit requestingTenantId own]
  generalize store.listed tenantId investigationId = listed
  by_cases nonneg : 0 ≤ limit
  · rw [if_pos nonneg, sliceTo_of_nonneg _ nonneg, sliceTo_of_nonneg _ nonneg]
    have perm := service.ranked_perm now tenantId investigationId (listed.take limit.toNat)
    have few : (service.ranked now tenantId investigationId (listed.take limit.toNat)).length ≤ limit.toNat := by
      have kept := List.length_filter_le (service.valid now tenantId investigationId) (listed.take limit.toNat)
      rw [perm.length_eq]
      rw [List.length_take] at kept
      omega
    rw [List.take_of_length_le few]
    nth_rewrite 1 [← List.take_append_drop limit.toNat listed]
    apply bestOf_window_iff perm (service.ranked_sorted now tenantId investigationId _)
    · rw [List.length_take]
      omega
    · intro older
      have more : ¬ listed.length ≤ limit.toNat := by
        intro all
        exact older (List.drop_eq_nil_of_le all)
      rw [List.length_take]
      omega
  · have zero : limit.toNat = 0 := by omega
    rw [if_neg nonneg, zero, bestOf_zero_iff, sliceTo_of_neg _ nonneg, sliceTo_of_neg _ nonneg,
      List.take_eq_nil_iff, ← List.length_eq_zero_iff, (service.ranked_perm now tenantId investigationId _).length_eq]
    omega

end MemoryService

def investigationScope : MemoryScope := { tenantId := "acme", investigationId := "inv-1" }

def trustedEntry : ScopedMemoryEntry :=
  { content := "lateral movement from host 7", trustScore := 9 / 10, createdAt := 10, scope := investigationScope }

def pendingEntry : ScopedMemoryEntry :=
  { content := "maybe a scan", trustScore := 3 / 10, createdAt := 20, scope := investigationScope }

def forgedEntry : ScopedMemoryEntry :=
  { content := "all clear", trustScore := 1, checksum := "0000000000000000", createdAt := 30
    scope := investigationScope }

namespace MemoryService

/-- A newer entry of less trust, and a forged entry that is not even answered, take the place of a trusted one. -/
theorem best_crowded_out :
    ¬ sampleMemory.ReturnsBest 60 { entries := [trustedEntry, pendingEntry] } "acme" "inv-1" 1 none ∧
    ¬ sampleMemory.ReturnsBest 60 { entries := [trustedEntry, forgedEntry] } "acme" "inv-1" 1 none := by
  constructor
  · intro given
    have answered : sampleMemory.queryStored 60 { entries := [trustedEntry, pendingEntry] } "acme" "inv-1" 1 none =
        [pendingEntry.toStoredMemoryEntry] := by decide +kernel
    obtain ⟨entry, member, above⟩ := BestOf.reaches given trustedEntry.toStoredMemoryEntry (by decide +kernel)
    rw [answered, List.mem_singleton] at member
    rw [member] at above
    exact absurd above (by decide +kernel)
  · intro given
    have answered :
        sampleMemory.queryStored 60 { entries := [trustedEntry, forgedEntry] } "acme" "inv-1" 1 none = [] := by
      decide +kernel
    obtain ⟨entry, member, above⟩ := BestOf.reaches given trustedEntry.toStoredMemoryEntry (by decide +kernel)
    rw [answered] at member
    cases member

theorem returnsBest_within_limit :
    sampleMemory.ReturnsBest 60 { entries := [trustedEntry, pendingEntry, forgedEntry] } "acme" "inv-1" 20
      (some "acme") := by
  apply (returnsBest_iff sampleMemory 60 _ "acme" "inv-1" 20 (some "acme") _).mpr
  · unfold Uncrowded
    decide +kernel
  · intro tenant given
    exact (Option.some.inj given).symm

end MemoryService

end CysAgi
