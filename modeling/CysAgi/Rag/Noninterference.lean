import CysAgi.Base.Ranking
import CysAgi.Rag.Retrieve

open Py

namespace CysAgi

structure TextMatch where
  lower : String → String
  partialRatio : String → String → Rat

def TextMatch.score (text : TextMatch) (query : String) (chunk : RagChunk) : Rat :=
  text.partialRatio (text.lower query) (text.lower chunk.text)

/-- `sort(key=score, reverse=True)`, which leaves chunks of one score in their order. -/
def Ahead (first second : Rat × RagChunk) : Prop := second.1 ≤ first.1

instance : DecidableRel Ahead := fun first second => inferInstanceAs (Decidable (second.1 ≤ first.1))

instance : Std.Total Ahead := ⟨fun _ _ => Rat.le_total.symm⟩

instance : IsTrans (Rat × RagChunk) Ahead := ⟨fun _ _ _ before after => Rat.le_trans after before⟩

structure MemoryVectorStore where
  chunks : List RagChunk

namespace MemoryVectorStore

variable (text : TextMatch) (store : MemoryVectorStore) (query : String)

def scored : List (Rat × RagChunk) := store.chunks.map fun chunk => (text.score query chunk, chunk)

def ranked : List (Rat × RagChunk) := (store.scored text query).insertionSort Ahead

def search (limit : Int) : List RagChunk :=
  ((sliceTo (store.ranked text query) limit).filter fun item => 0 < item.1).map Prod.snd

def matching : List RagChunk := ((store.ranked text query).filter fun item => 0 < item.1).map Prod.snd

theorem search_prefix (limit : Int) : store.search text query limit <+: store.matching text query := by
  have cut : sliceTo (store.ranked text query) limit <+: store.ranked text query := List.take_prefix _ _
  exact (cut.filter _).map Prod.snd

theorem matching_filter (authorised : RagChunk → Bool) :
    (store.matching text query).filter authorised =
      (MemoryVectorStore.mk (store.chunks.filter authorised)).matching text query := by
  have selected : (store.scored text query).filter (fun item => authorised item.2) =
      (MemoryVectorStore.mk (store.chunks.filter authorised)).scored text query := by
    unfold scored
    rw [List.filter_map]
    rfl
  unfold matching ranked
  rw [← selected, ← Ranking.filter_insertionSort, List.filter_map, List.filter_filter, List.filter_filter]
  congr 2
  funext item
  exact Bool.and_comm _ _

end MemoryVectorStore

theorem delivered_prefix {limit : Int} {authorised : RagChunk → Bool} {candidates whole : List RagChunk}
    (start : candidates <+: whole) : delivered limit authorised candidates <+: whole.filter authorised := by
  have within : examined limit candidates <+: whole := by
    unfold examined
    by_cases room : 1 ≤ limit
    · rw [if_pos room]
      exact start
    · rw [if_neg room]
      exact (List.take_prefix 1 candidates).trans start
  exact (List.take_prefix _ _).trans (within.filter authorised)

theorem length_delivered (limit : Int) (authorised : RagChunk → Bool) (candidates : List RagChunk) :
    (delivered limit authorised candidates).length =
      min (capacity limit) ((examined limit candidates).countP authorised) := by
  unfold delivered
  rw [List.length_take, ← List.countP_eq_length_filter]

section

variable (settings : RagSettings) (text : TextMatch) (query persona tenant : String) (roles : Option (List String))
  (maxChunks : Option Int)

/-- The candidates that the loop looks at: of the first `3 * limit` chunks of the ranking those that match. -/
def window (store : MemoryVectorStore) : List RagChunk :=
  examined (settings.limit maxChunks) (store.search text query (settings.limit maxChunks * 3))

def readable (clearance : DataClassification) (store : MemoryVectorStore) : List RagChunk :=
  store.chunks.filter ((askedBy persona tenant roles).authorises clearance)

/-- The windows on the two rankings hold equally many authorised chunks, up to the limit. For a persona whose
    clearance cannot be read, both or neither hold a chunk of a tenant that the caller sees. -/
def SameReach (first second : MemoryVectorStore) : Prop :=
  strip query = "" ∨
  match personaClearanceFor settings.catalog persona with
  | .ok clearance =>
    min (capacity (settings.limit maxChunks)) ((window settings text query maxChunks first).countP
        ((askedBy persona tenant roles).authorises clearance)) =
      min (capacity (settings.limit maxChunks)) ((window settings text query maxChunks second).countP
        ((askedBy persona tenant roles).authorises clearance))
  | .error _ => (window settings text query maxChunks first).any (askedBy persona tenant roles).sees =
      (window settings text query maxChunks second).any (askedBy persona tenant roles).sees

def answer (store : MemoryVectorStore) : Except PyExc (List RagChunk) :=
  RetrievalResult.chunks <$>
    ragQuery settings (fun query limit => .ok (store.search text query limit)) query persona tenant roles maxChunks

variable {settings text query persona tenant roles maxChunks} {first second : MemoryVectorStore}

theorem answer_eq_iff_known {clearance : DataClassification} (asked : strip query ≠ "")
    (known : personaClearanceFor settings.catalog persona = .ok clearance)
    (same : readable persona tenant roles clearance first = readable persona tenant roles clearance second) :
    answer settings text query persona tenant roles maxChunks first =
        answer settings text query persona tenant roles maxChunks second ↔
      min (capacity (settings.limit maxChunks)) ((window settings text query maxChunks first).countP
          ((askedBy persona tenant roles).authorises clearance)) =
        min (capacity (settings.limit maxChunks)) ((window settings text query maxChunks second).countP
          ((askedBy persona tenant roles).authorises clearance)) := by
  have begins : ∀ store : MemoryVectorStore,
      delivered (settings.limit maxChunks) ((askedBy persona tenant roles).authorises clearance)
        (store.search text query (settings.limit maxChunks * 3)) <+:
      (MemoryVectorStore.mk (readable persona tenant roles clearance store)).matching text query := by
    intro store
    unfold readable
    rw [← store.matching_filter text query]
    exact delivered_prefix (store.search_prefix text query _)
  have before := begins first
  rw [same] at before
  unfold answer
  rw [ragQuery_chunks_known asked rfl known, ragQuery_chunks_known asked rfl known, Except.ok.injEq,
    Ranking.prefixes_eq_iff before (begins second), length_delivered, length_delivered]
  rfl

theorem answer_eq_iff_unknown {raised : PyExc} (asked : strip query ≠ "")
    (unknown : personaClearanceFor settings.catalog persona = .error raised) :
    answer settings text query persona tenant roles maxChunks first =
        answer settings text query persona tenant roles maxChunks second ↔
      (window settings text query maxChunks first).any (askedBy persona tenant roles).sees =
        (window settings text query maxChunks second).any (askedBy persona tenant roles).sees := by
  have answers : ∀ store : MemoryVectorStore, answer settings text query persona tenant roles maxChunks store =
      if (window settings text query maxChunks store).any (askedBy persona tenant roles).sees then .error raised
      else .ok [] := fun store => ragQuery_chunks_unknown asked rfl unknown
  rw [answers, answers]
  cases (window settings text query maxChunks first).any (askedBy persona tenant roles).sees <;>
    cases (window settings text query maxChunks second).any (askedBy persona tenant roles).sees <;> simp

end

/-- Two stores with the same readable chunks answer alike exactly where the other chunks leave as many of the
    readable ones within the windows. -/
theorem ragQuery_noninterference_iff (settings : RagSettings) (text : TextMatch) (query persona tenant : String)
    (roles : Option (List String)) (maxChunks : Option Int) (first second : MemoryVectorStore)
    (same : ∀ clearance, personaClearanceFor settings.catalog persona = .ok clearance →
      readable persona tenant roles clearance first = readable persona tenant roles clearance second) :
    answer settings text query persona tenant roles maxChunks first =
        answer settings text query persona tenant roles maxChunks second ↔
      SameReach settings text query persona tenant roles maxChunks first second := by
  unfold SameReach
  by_cases blank : strip query = ""
  · have answers : ∀ store : MemoryVectorStore,
        answer settings text query persona tenant roles maxChunks store = .ok [] :=
      fun store => ragQuery_chunks_blank blank
    rw [answers, answers]
    exact ⟨fun _ => .inl blank, fun _ => rfl⟩
  · cases cleared : personaClearanceFor settings.catalog persona with
    | ok clearance =>
      rw [answer_eq_iff_known blank cleared (same clearance cleared)]
      exact ⟨.inr, fun reach => reach.resolve_left blank⟩
    | error raised =>
      rw [answer_eq_iff_unknown blank cleared]
      exact ⟨.inr, fun reach => reach.resolve_left blank⟩

def exactMatch : TextMatch where
  lower text := text
  partialRatio first second := if first = second then 100 else 0

def acmeChunk : RagChunk := { chunkId := "own", text := "playbook", acl := { tenant := "acme" } }

def rivalChunk : RagChunk := { chunkId := "rival", text := "playbook", acl := { tenant := "globex" } }

/-- Three chunks of another tenant push the caller's own out of the window. -/
theorem ragQuery_interferes :
    readable "soc" "acme" none .confidential ⟨[acmeChunk]⟩ =
      readable "soc" "acme" none .confidential ⟨[rivalChunk, rivalChunk, rivalChunk, acmeChunk]⟩ ∧
    answer plainSettings exactMatch "playbook" "soc" "acme" none (some 1) ⟨[acmeChunk]⟩ = .ok [acmeChunk] ∧
    answer plainSettings exactMatch "playbook" "soc" "acme" none (some 1)
      ⟨[rivalChunk, rivalChunk, rivalChunk, acmeChunk]⟩ = .ok [] := by
  decide +kernel

theorem ragQuery_noninterference_iff_acme :
    (∀ clearance, personaClearanceFor plainSettings.catalog "soc" = .ok clearance →
      readable "soc" "acme" none clearance ⟨[acmeChunk]⟩ =
        readable "soc" "acme" none clearance ⟨[rivalChunk, acmeChunk]⟩) ∧
    (answer plainSettings exactMatch "playbook" "soc" "acme" none (some 1) ⟨[acmeChunk]⟩ =
        answer plainSettings exactMatch "playbook" "soc" "acme" none (some 1) ⟨[rivalChunk, acmeChunk]⟩ ↔
      SameReach plainSettings exactMatch "playbook" "soc" "acme" none (some 1) ⟨[acmeChunk]⟩
        ⟨[rivalChunk, acmeChunk]⟩) := by
  have same : ∀ clearance, personaClearanceFor plainSettings.catalog "soc" = .ok clearance →
      readable "soc" "acme" none clearance ⟨[acmeChunk]⟩ =
        readable "soc" "acme" none clearance ⟨[rivalChunk, acmeChunk]⟩ := by
    intro clearance _
    cases clearance <;> decide +kernel
  exact ⟨same, ragQuery_noninterference_iff _ _ _ _ _ _ _ _ _ same⟩

end CysAgi
