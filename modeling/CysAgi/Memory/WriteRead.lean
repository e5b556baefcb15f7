import CysAgi.Memory.QueryBest
import CysAgi.Security.InputSanitizer

open Py Ranking

namespace CysAgi

/-- The PII patterns, each with its `re.search` and its `re.sub`. -/
structure RedactionService where
  patterns : List ((String → Bool) × (String → String))

namespace RedactionService

def redactPii (redaction : RedactionService) (text : String) : String :=
  redaction.patterns.foldl (fun text pattern => pattern.2 text) text

def containsSensitiveData (redaction : RedactionService) (text : String) : Bool :=
  redaction.patterns.any fun pattern => pattern.1 text

end RedactionService

structure ValidatedMemoryContent where
  content : String
  checksum : String
  rejected : Bool := false

structure MemoryScreen where
  sanitizer : InputSanitizer
  redaction : RedactionService

namespace MemoryScreen

def maxItemLength : Nat := 5000

def screened (screen : MemoryScreen) (content : String) : String :=
  let cut := if maxItemLength < content.length then String.ofList (content.toList.take maxItemLength) else content
  let redacted := if screen.redaction.containsSensitiveData cut then screen.redaction.redactPii cut else cut
  screen.sanitizer.filterPatterns redacted

end MemoryScreen

def MemoryEntryValidator.validate (validator : MemoryEntryValidator) (screen : MemoryScreen) (content : String) :
    ValidatedMemoryContent :=
  if screen.sanitizer.classify content ≠ .none then { content := "", checksum := "", rejected := true }
  else { content := screen.screened content, checksum := validator.checksum (screen.screened content) }

structure MemoryWrite where
  scope : MemoryScope
  content : String
  trustScore : Rat := 1
  createdAt : Rat

namespace MemoryService

variable (service : MemoryService) (screen : MemoryScreen)

def appended (write : MemoryWrite) : Option ScopedMemoryEntry :=
  let validator := service.validator write.scope.tenantId write.scope.investigationId
  let validated := validator.validate screen write.content
  if validated.rejected ∨ validated.content = "" then none
  else some
    { content := validated.content, trustScore := write.trustScore, checksum := validated.checksum
      createdAt := write.createdAt, scope := write.scope }

def append (store : InMemoryEpisodicMemoryStore) (write : MemoryWrite) : InMemoryEpisodicMemoryStore :=
  ⟨store.entries ++ (service.appended screen write).toList⟩

def written (writes : List MemoryWrite) : InMemoryEpisodicMemoryStore := writes.foldl (service.append screen) {}

variable {service screen}

theorem appended_eq_some_iff {write : MemoryWrite} {entry : ScopedMemoryEntry} :
    service.appended screen write = some entry ↔
      screen.sanitizer.classify write.content = .none ∧ screen.screened write.content ≠ "" ∧
        entry =
          { content := screen.screened write.content, trustScore := write.trustScore
            checksum := (service.validator write.scope.tenantId write.scope.investigationId).checksum
              (screen.screened write.content)
            createdAt := write.createdAt, scope := write.scope } := by
  unfold appended MemoryEntryValidator.validate
  by_cases clean : screen.sanitizer.classify write.content = .none
  · by_cases empty : screen.screened write.content = ""
    · simp [clean, empty]
    · simp [clean, empty, eq_comm]
  · simp [clean]

theorem entries_append (store : InMemoryEpisodicMemoryStore) (write : MemoryWrite) :
    (service.append screen store write).entries = store.entries ++ (service.appended screen write).toList := rfl

theorem entries_foldl (writes : List MemoryWrite) (store : InMemoryEpisodicMemoryStore) :
    (writes.foldl (service.append screen) store).entries =
      store.entries ++ writes.filterMap (service.appended screen) := by
  induction writes generalizing store with
  | nil => exact (List.append_nil _).symm
  | cons write rest ih =>
    rw [List.foldl_cons, ih, entries_append, List.append_assoc]
    cases stored : service.appended screen write with
    | none => rw [List.filterMap_cons_none stored, Option.toList_none, List.nil_append]
    | some entry => rw [List.filterMap_cons_some stored, Option.toList_some, List.singleton_append]

theorem entries_written (writes : List MemoryWrite) :
    (service.written screen writes).entries = writes.filterMap (service.appended screen) := by
  rw [written, entries_foldl, List.nil_append]

end MemoryService

def MemoryWrite.Of (tenantId investigationId : String) (write : MemoryWrite) : Prop :=
  write.scope.tenantId = tenantId ∧ write.scope.investigationId = investigationId

instance (tenantId investigationId : String) : DecidablePred (MemoryWrite.Of tenantId investigationId) :=
  fun _ => inferInstanceAs (Decidable (_ ∧ _))

namespace MemoryService

variable {service : MemoryService} {screen : MemoryScreen} {tenantId investigationId : String}

theorem matching_written (writes : List MemoryWrite) (scope : MemoryScope) :
    (service.written screen writes).matching scope =
      (writes.filterMap (service.appended screen)).filter fun entry =>
        entry.scope.tenantId = scope.tenantId ∧ entry.scope.investigationId = scope.investigationId ∧
          (scope.persona = none ∨ entry.scope.persona = none ∨ entry.scope.persona = scope.persona) := by
  rw [InMemoryEpisodicMemoryStore.matching, entries_written]

theorem scope_of_appended {write : MemoryWrite} {entry : ScopedMemoryEntry}
    (stored : service.appended screen write = some entry) : entry.scope = write.scope := by
  obtain ⟨-, -, rfl⟩ := appended_eq_some_iff.mp stored
  rfl

theorem matching_own (writes : List MemoryWrite) (scope : MemoryScope) :
    (service.written screen writes).matching scope =
      (service.written screen (writes.filter (MemoryWrite.Of scope.tenantId scope.investigationId))).matching scope := by
  rw [matching_written, matching_written, List.filter_filterMap, List.filter_filterMap, List.filterMap_filter]
  apply List.filterMap_congr
  intro write _
  by_cases own : write.Of scope.tenantId scope.investigationId
  · rw [if_pos (decide_eq_true own)]
  · rw [if_neg (by simpa using own)]
    cases stored : service.appended screen write with
    | none => rfl
    | some entry =>
      have same := scope_of_appended stored
      apply Option.filter_eq_none_iff.mpr
      intro found fits
      cases fits
      simp only [decide_eq_true_eq]
      rintro ⟨tenant, investigation, -⟩
      rw [same] at tenant investigation
      exact own ⟨tenant, investigation⟩

variable (service screen tenantId investigationId) in
def kept (writes : List MemoryWrite) : List ScopedMemoryEntry :=
  (writes.filter (MemoryWrite.Of tenantId investigationId)).filterMap (service.appended screen)

variable (service screen) in
theorem matching_investigation (writes : List MemoryWrite) :
    (service.written screen writes).matching { tenantId, investigationId } =
      service.kept screen tenantId investigationId writes := by
  rw [matching_own, matching_written, kept, List.filter_eq_self]
  intro entry member
  obtain ⟨write, own, stored⟩ := List.mem_filterMap.mp member
  have of : write.Of tenantId investigationId := of_decide_eq_true (List.mem_filter.mp own).2
  rw [scope_of_appended stored]
  exact decide_eq_true ⟨of.1, of.2, .inl rfl⟩

theorem mem_kept {writes : List MemoryWrite} {entry : ScopedMemoryEntry} :
    entry ∈ service.kept screen tenantId investigationId writes ↔
      ∃ write ∈ writes, write.Of tenantId investigationId ∧ service.appended screen write = some entry := by
  simp [kept, List.mem_filterMap, List.mem_filter, and_assoc]

def Fresh (now : Rat) (entry : StoredMemoryEntry) : Prop := ¬ entry.createdAt < now - memoryTtlSeconds

instance (now : Rat) : DecidablePred (Fresh now) := fun _ => inferInstanceAs (Decidable (¬_))

theorem valid_kept {writes : List MemoryWrite} {entry : ScopedMemoryEntry} (now : Rat)
    (stored : entry ∈ service.kept screen tenantId investigationId writes) :
    service.valid now tenantId investigationId entry.toStoredMemoryEntry = decide (Fresh now entry.toStoredMemoryEntry) := by
  obtain ⟨write, -, own, made⟩ := mem_kept.mp stored
  obtain ⟨-, -, rfl⟩ := appended_eq_some_iff.mp made
  rw [MemoryWrite.Of] at own
  obtain ⟨rfl, rfl⟩ := own
  simp [valid, Fresh, MemoryEntryValidator.verifyChecksum]

theorem filter_valid_kept (now : Rat) (writes : List MemoryWrite) :
    ((service.kept screen tenantId investigationId writes).map (·.toStoredMemoryEntry)).filter
        (service.valid now tenantId investigationId) =
      ((service.kept screen tenantId investigationId writes).map (·.toStoredMemoryEntry)).filter (Fresh now) := by
  apply List.filter_congr
  intro entry member
  obtain ⟨held, stored, rfl⟩ := List.mem_map.mp member
  exact valid_kept now stored

theorem mem_of_mem_sliceTo {α : Type} {items : List α} {stop : Int} {item : α} (member : item ∈ sliceTo items stop) :
    item ∈ items := by
  by_cases nonneg : 0 ≤ stop
  · rw [sliceTo_of_nonneg items nonneg] at member
    exact List.mem_of_mem_take member
  · rw [sliceTo_of_neg items nonneg] at member
    exact List.mem_of_mem_take member

/-- A read of an investigation whose entries the limit can hold answers all that was stored for it and is not too
    old, by trust, whatever was written for others in between. -/
theorem reads_what_was_written (writes : List MemoryWrite) (now : Rat) {limit : Int} {requestingTenantId : Option String}
    (own : ∀ tenant ∈ requestingTenantId, tenant = tenantId)
    (few : (service.kept screen tenantId investigationId writes).length ≤ limit) :
    let answer := service.queryStored now (service.written screen writes) tenantId investigationId limit requestingTenantId
    answer.Perm
        (((service.kept screen tenantId investigationId writes).map (·.toStoredMemoryEntry)).filter (Fresh now)) ∧
      answer.Pairwise fun first second => second.trustScore ≤ first.trustScore := by
  intro answer
  have nonneg : 0 ≤ limit := le_trans (Int.natCast_nonneg _) few
  have perm := service.listed_perm now (service.written screen writes) tenantId investigationId
  have listed_length : ((service.written screen writes).listed tenantId investigationId).length ≤ limit.toNat := by
    rw [InMemoryEpisodicMemoryStore.listed, List.length_map, InMemoryEpisodicMemoryStore.newestFirst,
      List.length_insertionSort, matching_investigation]
    omega
  have ranked := service.ranked_perm now tenantId investigationId
    ((service.written screen writes).listed tenantId investigationId)
  have answered : answer = service.ranked now tenantId investigationId
      ((service.written screen writes).listed tenantId investigationId) := by
    show service.queryStored now _ _ _ _ _ = _
    rw [service.queryStored_eq now _ tenantId investigationId limit requestingTenantId own,
      sliceTo_of_nonneg _ nonneg, sliceTo_of_nonneg _ nonneg, List.take_of_length_le listed_length]
    apply List.take_of_length_le
    rw [ranked.length_eq]
    exact (List.length_filter_le _ _).trans listed_length
  rw [answered]
  refine ⟨?_, service.ranked_sorted now tenantId investigationId _⟩
  rw [matching_investigation, filter_valid_kept] at perm
  exact ranked.trans perm.symm

def plainScreen : MemoryScreen := { sanitizer := plainSanitizer, redaction := { patterns := [] } }

def twoTenants : List MemoryWrite :=
  [{ scope := investigationScope, content := "beacon on host 7", trustScore := 9 / 10, createdAt := 10 },
    { scope := investigationScope, content := injection, createdAt := 20 },
    { scope := { tenantId := "globex", investigationId := "inv-1" }, content := "all clear", createdAt := 30 }]

theorem reads_what_was_written_two_tenants :
    let answer := sampleMemory.queryStored 60 (sampleMemory.written plainScreen twoTenants) "acme" "inv-1" 20 (some "acme")
    answer.Perm
        (((sampleMemory.kept plainScreen "acme" "inv-1" twoTenants).map (·.toStoredMemoryEntry)).filter (Fresh 60)) ∧
      answer.Pairwise fun first second => second.trustScore ≤ first.trustScore := by
  have few : (sampleMemory.kept plainScreen "acme" "inv-1" twoTenants).length ≤ (20 : Int) := by decide +kernel
  apply reads_what_was_written twoTenants 60 _ few
  intro tenant given
  exact (Option.mem_some.mp given).symm

/-- What a read answers is as if nothing had been written for others, and each entry of it is the screened content of
    a clean call for the investigation. -/
theorem reads_only_own (writes : List MemoryWrite) (now : Rat) (limit : Int) (requestingTenantId : Option String) :
    let answer := service.queryStored now (service.written screen writes) tenantId investigationId limit requestingTenantId
    answer = service.queryStored now
        (service.written screen (writes.filter (MemoryWrite.Of tenantId investigationId)))
        tenantId investigationId limit requestingTenantId ∧
      ∀ entry ∈ answer, ∃ write ∈ writes, write.Of tenantId investigationId ∧
        screen.sanitizer.classify write.content = .none ∧ entry.content = screen.screened write.content ∧
        entry.trustScore = write.trustScore ∧ entry.createdAt = write.createdAt ∧ Fresh now entry := by
  intro answer
  constructor
  · show service.queryStored now _ _ _ _ _ = _
    rw [queryStored, queryStored, InMemoryEpisodicMemoryStore.query, InMemoryEpisodicMemoryStore.query,
      InMemoryEpisodicMemoryStore.newestFirst, InMemoryEpisodicMemoryStore.newestFirst, matching_own]
  · intro entry member
    have answered : entry ∈ service.queryInvestigation now _ tenantId investigationId limit requestingTenantId := member
    rw [queryInvestigation] at answered
    split at answered
    · cases answered
    · have listed := (List.perm_insertionSort _ _).mem_iff.mp (mem_of_mem_sliceTo answered)
      obtain ⟨queried, valid⟩ := List.mem_filter.mp listed
      obtain ⟨held, found, rfl⟩ := List.mem_map.mp queried
      have matched := (List.perm_insertionSort _ _).mem_iff.mp (mem_of_mem_sliceTo found)
      rw [matching_investigation] at matched
      have fresh : Fresh now held.toStoredMemoryEntry := (of_decide_eq_true valid).1
      obtain ⟨write, called, own, made⟩ := mem_kept.mp matched
      obtain ⟨clean, -, rfl⟩ := appended_eq_some_iff.mp made
      exact ⟨write, called, own, clean, rfl, rfl, rfl, fresh⟩

end MemoryService

end CysAgi
