import Mathlib.Order.MinMax
import CysAgi.Base.Json
import CysAgi.Base.Padding
import CysAgi.Base.Ranking

namespace CysAgi

open Py

inductive StatusKind where
  | event
  | finding
  | critic
  | narrative
  | awaitingApproval
  | escalation
  | investigation
  deriving DecidableEq

inductive StatusRecord where
  | event (event : JsonDict)
  | finding (envelope : JsonDict)
  | critic (feedback : JsonDict)
  | narrative (text : String)
  | awaitingApproval (record : JsonDict)
  | escalation (record : JsonDict)
  | investigationUpdate (payload : JsonDict)

structure StatusSnapshot where
  eventsCount : Nat
  findingsCount : Nat
  latestNarrative : Json
  events : List JsonDict
  findings : List JsonDict
  criticFeedback : List JsonDict
  narratives : List Json
  awaitingApproval : List JsonDict
  escalations : List JsonDict

structure MemoryStatusStore where
  events : List JsonDict := []
  findings : List JsonDict := []
  criticFeedback : List JsonDict := []
  coordinatorNarratives : List String := []
  awaitingApproval : List JsonDict := []
  escalations : List JsonDict := []

namespace MemoryStatusStore

def record (store : MemoryStatusStore) : StatusRecord → MemoryStatusStore
  | .event event => { store with events := store.events ++ [event] }
  | .finding envelope => { store with findings := store.findings ++ [envelope] }
  | .critic feedback => { store with criticFeedback := store.criticFeedback ++ [feedback] }
  | .narrative text => { store with coordinatorNarratives := store.coordinatorNarratives ++ [text] }
  | .awaitingApproval record => { store with awaitingApproval := store.awaitingApproval ++ [record] }
  | .escalation record => { store with escalations := store.escalations ++ [record] }
  -- an update is told to the subscribers only
  | .investigationUpdate _ => store

/-- `items[-n:]` is `rtake n`. -/
def snapshot (store : MemoryStatusStore) : StatusSnapshot where
  eventsCount := store.events.length
  findingsCount := store.findings.length
  latestNarrative := .str (store.coordinatorNarratives.getLastD "")
  events := store.events.rtake 20
  findings := store.findings.rtake 20
  criticFeedback := store.criticFeedback.rtake 20
  narratives := (store.coordinatorNarratives.rtake 10).map .str
  awaitingApproval := store.awaitingApproval.rtake 20
  escalations := store.escalations.rtake 20

end MemoryStatusStore

structure StatusRow where
  kind : StatusKind
  payload : JsonDict
  createdAt : Nat

/-- `NOW()` of the transactions that insert the rows, one after the other. -/
structure InsertClock where
  now : Nat → Nat
  later : StrictMono now

structure PostgresStatusStore where
  rows : List StatusRow := []

namespace PostgresStatusStore

def insert (clock : InsertClock) (store : PostgresStatusStore) (kind : StatusKind) (payload : JsonDict) :
    PostgresStatusStore :=
  { store with rows := store.rows ++ [{ kind, payload, createdAt := clock.now store.rows.length }] }

def record (clock : InsertClock) (store : PostgresStatusStore) : StatusRecord → PostgresStatusStore
  | .event event => store.insert clock .event event
  | .finding envelope => store.insert clock .finding envelope
  | .critic feedback => store.insert clock .critic feedback
  | .narrative text => store.insert clock .narrative [("text", .str text)]
  | .awaitingApproval record => store.insert clock .awaitingApproval record
  | .escalation record => store.insert clock .escalation record
  | .investigationUpdate payload => store.insert clock .investigation payload

/-- `WHERE kind = .. ORDER BY created_at DESC LIMIT ..`. -/
def fetchRecent (store : PostgresStatusStore) (kind : StatusKind) (limit : Nat) : List JsonDict :=
  (((store.rows.filter fun row => row.kind = kind).insertionSort fun a b => b.createdAt ≤ a.createdAt).take limit).map
    StatusRow.payload

def snapshot (store : PostgresStatusStore) : StatusSnapshot :=
  let events := store.fetchRecent .event 20
  let findings := store.fetchRecent .finding 20
  let criticFeedback := store.fetchRecent .critic 20
  let narratives := (store.fetchRecent .narrative 10).map fun item => JsonDict.getD item "text" (.str "")
  { eventsCount := events.length
    findingsCount := findings.length
    latestNarrative := narratives.headD (.str "")
    events, findings, criticFeedback, narratives
    awaitingApproval := store.fetchRecent .awaitingApproval 20
    escalations := store.fetchRecent .escalation 20 }

end PostgresStatusStore

namespace StatusRecord

def kind : StatusRecord → StatusKind
  | .event _ => .event
  | .finding _ => .finding
  | .critic _ => .critic
  | .narrative _ => .narrative
  | .awaitingApproval _ => .awaitingApproval
  | .escalation _ => .escalation
  | .investigationUpdate _ => .investigation

def payload : StatusRecord → JsonDict
  | .event payload | .finding payload | .critic payload | .awaitingApproval payload | .escalation payload
  | .investigationUpdate payload => payload
  | .narrative text => [("text", .str text)]

def payloads (records : List StatusRecord) (kind : StatusKind) : List JsonDict :=
  (records.filter fun record => record.kind = kind).map payload

def shown : StatusKind → Nat
  | .narrative => 10
  | _ => 20

structure ReadsBothWays (records : List StatusRecord) : Prop where
  events : (payloads records .event).length ≤ 20
  findings : (payloads records .finding).length ≤ 20
  windows : ∀ kind, kind ≠ .investigation →
    ((payloads records kind).rtake (shown kind)).reverse = (payloads records kind).rtake (shown kind)

theorem payloads_concat (records : List StatusRecord) (record : StatusRecord) (kind : StatusKind) :
    payloads (records ++ [record]) kind =
      payloads records kind ++ if record.kind = kind then [record.payload] else [] := by
  unfold payloads
  rw [List.filter_append, List.map_append, List.filter_singleton]
  by_cases same : record.kind = kind <;> simp [same]

end StatusRecord

open StatusRecord

def MemoryStatusStore.run (records : List StatusRecord) : MemoryStatusStore :=
  records.foldl MemoryStatusStore.record {}

def PostgresStatusStore.run (clock : InsertClock) (records : List StatusRecord) : PostgresStatusStore :=
  records.foldl (PostgresStatusStore.record clock) {}

namespace MemoryStatusStore

/-- What the store keeps of a kind, as the rows of a table hold it. -/
def kept (store : MemoryStatusStore) : StatusKind → List JsonDict
  | .event => store.events
  | .finding => store.findings
  | .critic => store.criticFeedback
  | .narrative => store.coordinatorNarratives.map fun text => [("text", .str text)]
  | .awaitingApproval => store.awaitingApproval
  | .escalation => store.escalations
  | .investigation => []

theorem kept_record (store : MemoryStatusStore) (record : StatusRecord) {kind : StatusKind}
    (keeps : kind ≠ .investigation) :
    (store.record record).kept kind = store.kept kind ++ if record.kind = kind then [record.payload] else [] := by
  cases record <;> cases kind <;> simp_all [kept, MemoryStatusStore.record, StatusRecord.kind, payload]

theorem kept_run (records : List StatusRecord) {kind : StatusKind} (keeps : kind ≠ .investigation) :
    (run records).kept kind = payloads records kind := by
  induction records using List.reverseRecOn with
  | nil => cases kind <;> rfl
  | append_singleton records record ih =>
    have step : run (records ++ [record]) = (run records).record record := by
      unfold run
      rw [List.foldl_append]
      rfl
    rw [step, kept_record _ _ keeps, ih, payloads_concat]

end MemoryStatusStore

namespace PostgresStatusStore

variable {clock : InsertClock}

theorem record_eq_insert (store : PostgresStatusStore) (record : StatusRecord) :
    store.record clock record = store.insert clock record.kind record.payload := by
  cases record <;> rfl

theorem rows_run (records : List StatusRecord) :
    (run clock records).rows =
      records.mapIdx fun index record =>
        { kind := record.kind, payload := record.payload, createdAt := clock.now index } := by
  induction records using List.reverseRecOn with
  | nil => rfl
  | append_singleton records record ih =>
    have step : run clock (records ++ [record]) = (run clock records).record clock record := by
      unfold run
      rw [List.foldl_append]
      rfl
    rw [step, record_eq_insert, List.mapIdx_append]
    simp [insert, ih]

theorem ascending_run (clock : InsertClock) (records : List StatusRecord) :
    (run clock records).rows.Pairwise fun a b => a.createdAt < b.createdAt := by
  rw [rows_run, List.pairwise_iff_getElem]
  intro i j first second before
  simp only [List.getElem_mapIdx]
  exact clock.later before

theorem payloads_run (records : List StatusRecord) (kind : StatusKind) :
    ((run clock records).rows.filter fun row => row.kind = kind).map StatusRow.payload = payloads records kind := by
  rw [rows_run]
  induction records using List.reverseRecOn with
  | nil => rfl
  | append_singleton records record ih =>
    rw [List.mapIdx_append, List.filter_append, List.map_append, ih, payloads_concat]
    by_cases same : record.kind = kind <;> simp [same]

theorem fetchRecent_run (records : List StatusRecord) (kind : StatusKind) (limit : Nat) :
    (run clock records).fetchRecent kind limit = ((payloads records kind).rtake limit).reverse := by
  have latest := Ranking.insertionSort_latest ((ascending_run clock records).filter fun row => row.kind = kind)
  unfold fetchRecent
  rw [latest, List.map_take, List.map_reverse, payloads_run, List.rtake_eq_reverse_take_reverse, List.reverse_reverse]

end PostgresStatusStore

namespace StatusSnapshot

def textOf (item : JsonDict) : Json := JsonDict.getD item "text" (.str "")

def showing (events findings : Nat) (latest : Json) (view : StatusKind → List JsonDict) : StatusSnapshot where
  eventsCount := events
  findingsCount := findings
  latestNarrative := latest
  events := view .event
  findings := view .finding
  criticFeedback := view .critic
  narratives := (view .narrative).map textOf
  awaitingApproval := view .awaitingApproval
  escalations := view .escalation

def window (records : List StatusRecord) (kind : StatusKind) : List JsonDict :=
  (payloads records kind).rtake (shown kind)

def latest (records : List StatusRecord) : Json := ((payloads records .narrative).map textOf).getLastD (.str "")

theorem showing_congr {view other : StatusKind → List JsonDict}
    (same : ∀ kind, kind ≠ .investigation → view kind = other kind) (events findings : Nat) (latest : Json) :
    showing events findings latest view = showing events findings latest other := by
  unfold showing
  rw [same .event (by decide), same .finding (by decide), same .critic (by decide), same .narrative (by decide),
    same .awaitingApproval (by decide), same .escalation (by decide)]

theorem snapshot_eq_showing (store : MemoryStatusStore) :
    store.snapshot =
      showing (store.kept .event).length (store.kept .finding).length
        (((store.kept .narrative).map textOf).getLastD (.str "")) fun kind => (store.kept kind).rtake (shown kind) := by
  have texts : ∀ items : List String,
      (items.map fun text => [("text", Json.str text)]).map textOf = items.map Json.str := fun items => List.map_map
  unfold showing MemoryStatusStore.snapshot
  simp only [MemoryStatusStore.kept, map_rtake, texts, shown]
  congr 1
  generalize store.coordinatorNarratives = narratives
  cases narratives using List.reverseRecOn with
  | nil => rfl
  | append_singleton items item => simp

theorem memory_snapshot (records : List StatusRecord) :
    (MemoryStatusStore.run records).snapshot =
      showing (payloads records .event).length (payloads records .finding).length (latest records)
        (window records) := by
  have event := MemoryStatusStore.kept_run records (show StatusKind.event ≠ .investigation by decide)
  have finding := MemoryStatusStore.kept_run records (show StatusKind.finding ≠ .investigation by decide)
  have narrative := MemoryStatusStore.kept_run records (show StatusKind.narrative ≠ .investigation by decide)
  rw [snapshot_eq_showing, event, finding, narrative]
  apply showing_congr
  intro kind keeps
  rw [MemoryStatusStore.kept_run records keeps]
  rfl

theorem postgres_snapshot (clock : InsertClock) (records : List StatusRecord) :
    (PostgresStatusStore.run clock records).snapshot =
      showing (window records .event).length (window records .finding).length (latest records)
        fun kind => (window records kind).reverse := by
  unfold PostgresStatusStore.snapshot
  simp only [PostgresStatusStore.fetchRecent_run, List.length_reverse]
  unfold latest window showing
  congr 1
  rw [List.map_reverse, map_rtake]
  exact headD_reverse_rtake _ 9 _

theorem reverse_texts_iff (records : List StatusRecord) :
    (window records .narrative).reverse.map textOf = (window records .narrative).map textOf ↔
      (window records .narrative).reverse = window records .narrative := by
  have kept := MemoryStatusStore.kept_run records (show StatusKind.narrative ≠ .investigation by decide)
  have texts : ∃ texts : List String, window records .narrative = texts.map fun text => [("text", Json.str text)] := by
    unfold window
    rw [← kept]
    exact ⟨_, (map_rtake _ _ _).symm⟩
  obtain ⟨texts, same⟩ := texts
  have read : Function.Injective fun text => textOf [("text", Json.str text)] := fun _ _ same => Json.str.inj same
  have row : Function.Injective fun text => [("text", Json.str text)] := fun _ _ same => by simpa using same
  rw [same, ← List.map_reverse, List.map_map, List.map_map]
  exact (List.map_injective_iff.mpr read).eq_iff.trans (List.map_injective_iff.mpr row).eq_iff.symm

theorem showing_reverse_iff (records : List StatusRecord) (said : Json) :
    showing (window records .event).length (window records .finding).length said
          (fun kind => (window records kind).reverse) =
        showing (payloads records .event).length (payloads records .finding).length said (window records) ↔
      ReadsBothWays records := by
  have count (kind : StatusKind) : (window records kind).length = min (shown kind) (payloads records kind).length :=
    length_rtake _ _
  unfold showing
  rw [StatusSnapshot.mk.injEq, reverse_texts_iff, count, count]
  constructor
  · rintro ⟨events, findings, -, event, finding, critic, narrative, awaiting, escalation⟩
    refine ⟨min_eq_right_iff.mp events, min_eq_right_iff.mp findings, ?_⟩
    intro kind keeps
    cases kind with
    | event => exact event
    | finding => exact finding
    | critic => exact critic
    | narrative => exact narrative
    | awaitingApproval => exact awaiting
    | escalation => exact escalation
    | investigation => exact absurd rfl keeps
  · rintro ⟨events, findings, windows⟩
    exact ⟨min_eq_right events, min_eq_right findings, rfl, windows .event (by decide), windows .finding (by decide),
      windows .critic (by decide), windows .narrative (by decide), windows .awaitingApproval (by decide),
      windows .escalation (by decide)⟩

end StatusSnapshot

/-- The snapshots are the same just when neither the order nor the counts show the difference. -/
theorem snapshots_agree_iff (clock : InsertClock) (records : List StatusRecord) :
    (MemoryStatusStore.run records).snapshot = (PostgresStatusStore.run clock records).snapshot ↔
      ReadsBothWays records := by
  rw [StatusSnapshot.memory_snapshot, StatusSnapshot.postgres_snapshot, eq_comm]
  exact StatusSnapshot.showing_reverse_iff records _

def secondClock : InsertClock where
  now index := index
  later := strictMono_id

def twoEvents : List StatusRecord := [.event [("id", .str "evt-1")], .event [("id", .str "evt-2")]]

def twentyOneEvents : List StatusRecord := List.replicate 21 (.event [])

/-- Two events are listed in opposite orders, and the table counts twenty of twenty-one equal ones. -/
theorem snapshots_differ :
    (MemoryStatusStore.run twoEvents).snapshot ≠ (PostgresStatusStore.run secondClock twoEvents).snapshot ∧
      (MemoryStatusStore.run twentyOneEvents).snapshot ≠
        (PostgresStatusStore.run secondClock twentyOneEvents).snapshot := by
  constructor
  · intro same
    have events := congrArg StatusSnapshot.events same
    revert events
    decide
  · intro same
    have counts := congrArg StatusSnapshot.eventsCount same
    revert counts
    decide

end CysAgi
