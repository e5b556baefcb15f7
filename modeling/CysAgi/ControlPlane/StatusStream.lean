import CysAgi.Base.Cursor
import CysAgi.Base.EventStream
import CysAgi.Base.JsonRoundTrip
import CysAgi.ControlPlane.StatusStores

namespace CysAgi

open Py

def StatusKind.text : StatusKind → String
  | .event => "event"
  | .finding => "finding"
  | .critic => "critic"
  | .narrative => "narrative"
  | .awaitingApproval => "awaiting_approval"
  | .escalation => "escalation"
  | .investigation => "investigation"

abbrev FeedRow := StatusKind × JsonDict

/-- What the generator of `/status/stream` yields. -/
inductive StatusFrame where
  | event (row : Nat × FeedRow) (ts : String)
  | heartbeat (ts : String)

namespace StatusFrame

def json : StatusFrame → Json
  | .event row ts => .obj [("kind", .str row.2.1.text), ("payload", .obj row.2.2), ("ts", .str ts)]
  | .heartbeat ts => .obj [("kind", .str "heartbeat"), ("ts", .str ts)]

/-- An event is dumped with `ensure_ascii=False`, a heartbeat without it. -/
def escaping : StatusFrame → Escaping
  | .event _ _ => controlEscaping
  | .heartbeat _ => asciiEscaping

def data (floats : FloatRepr) (frame : StatusFrame) : List Char := frame.escaping.text floats frame.json

/-- `f"data: {json.dumps(event)}\n\n"`. -/
def text (floats : FloatRepr) (frame : StatusFrame) : List Char :=
  "data: ".toList ++ frame.data floats ++ "\n\n".toList

def row? : StatusFrame → Option (Nat × FeedRow)
  | .event row _ => some row
  | .heartbeat _ => none

end StatusFrame

/-- The generator of one client: `last_id`, the rest of `rows`, and what it yielded. -/
structure StreamState where
  lastId : Nat := 0
  rows : List (Nat × FeedRow) := []
  sent : List StatusFrame := []

structure StatusFeed where
  table : Cursor.Table FeedRow := {}
  streams : Nat → StreamState := fun _ => {}

def fetchSince (table : Cursor.Table FeedRow) (lastId : Nat) : List (Nat × FeedRow) :=
  Cursor.page table.committed lastId 50

namespace StreamState

/-- A round of `while True` up to its first event, or the whole of it where there is none. -/
def poll (stream : StreamState) (table : Cursor.Table FeedRow) (ts : String) : Option StreamState :=
  match stream.rows with
  | _ :: _ => none
  | [] =>
    match fetchSince table stream.lastId with
    | [] => some { stream with sent := stream.sent ++ [.heartbeat ts] }
    | rows => some { stream with rows }

/-- A round of `for row_id, kind, payload in rows`. -/
def send (stream : StreamState) (ts : String) : Option StreamState :=
  match stream.rows with
  | [] => none
  | row :: rest => some { lastId := row.1, rows := rest, sent := stream.sent ++ [.event row ts] }

end StreamState

/-- `_insert` in one transaction of many: the row gets its id, and is seen from the commit on. -/
inductive FeedAction where
  | insert (record : StatusRecord)
  | commit (id : Nat)
  | rollback (id : Nat)
  | poll (stream : Nat) (ts : String)
  | send (stream : Nat) (ts : String)

namespace StatusFeed

def move (feed : StatusFeed) (stream : Nat) (state : StreamState) : StatusFeed :=
  { feed with streams := Function.update feed.streams stream state }

def step (feed : StatusFeed) : FeedAction → Option StatusFeed
  | .insert record => some { feed with table := feed.table.insert (record.kind, record.payload) }
  | .commit id => (feed.table.commit id).map fun table => { feed with table }
  | .rollback id => (feed.table.rollback id).map fun table => { feed with table }
  | .poll stream ts => ((feed.streams stream).poll feed.table ts).map (feed.move stream)
  | .send stream ts => ((feed.streams stream).send ts).map (feed.move stream)

def delivered (feed : StatusFeed) (stream : Nat) : List (Nat × FeedRow) :=
  (feed.streams stream).sent.filterMap StatusFrame.row?

def fetched (feed : StatusFeed) (stream : Nat) : List (Nat × FeedRow) :=
  feed.delivered stream ++ (feed.streams stream).rows

def NothingMissed (stream : Nat) (feed : StatusFeed) : Prop :=
  ∀ row ∈ feed.table.committed, row.1 ≤ Cursor.horizon (feed.fetched stream) → row ∈ feed.fetched stream

/-- A transaction that commits has a higher id than the rows the client's generator fetched. -/
def CommitsAhead (stream : Nat) (feed : StatusFeed) : FeedAction → Prop
  | .commit id => Cursor.horizon (feed.fetched stream) < id
  | _ => True

instance (stream : Nat) (feed : StatusFeed) : DecidablePred (CommitsAhead stream feed)
  | .commit id => inferInstanceAs (Decidable (Cursor.horizon (feed.fetched stream) < id))
  | .insert _ | .rollback _ | .poll _ _ | .send _ _ => isTrue trivial

end StatusFeed

def FeedAction.cursorAction : FeedAction → Cursor.Action FeedRow Nat
  | .insert record => .insert (record.kind, record.payload)
  | .commit id => .commit id
  | .rollback id => .rollback id
  | .poll stream _ => .fetch stream
  | .send stream _ => .give stream

def StreamState.place (stream : StreamState) : Cursor.Place FeedRow where
  last := stream.lastId
  fetched := stream.rows
  given := stream.sent.filterMap StatusFrame.row?

namespace StatusFeed

def cursorState (feed : StatusFeed) : Cursor.State FeedRow Nat where
  table := feed.table
  places stream := (feed.streams stream).place

theorem cursorState_move (feed : StatusFeed) (stream : Nat) (state : StreamState) :
    (feed.move stream state).cursorState = feed.cursorState.move stream state.place := by
  have places : (fun other => (Function.update feed.streams stream state other).place) =
      Function.update (fun other => (feed.streams other).place) stream state.place := by
    funext other
    exact Function.apply_update (fun _ => StreamState.place) feed.streams stream state other
  exact congrArg (fun places => ({ table := feed.table, places } : Cursor.State FeedRow Nat)) places

theorem step_cursor (feed : StatusFeed) (action : FeedAction) :
    Cursor.step 50 feed.cursorState action.cursorAction = (feed.step action).map cursorState := by
  cases action with
  | insert record => rfl
  | commit id =>
    simp only [FeedAction.cursorAction, Cursor.step, step, cursorState]
    cases feed.table.commit id <;> rfl
  | rollback id =>
    simp only [FeedAction.cursorAction, Cursor.step, step, cursorState]
    cases feed.table.rollback id <;> rfl
  | poll stream ts =>
    simp only [FeedAction.cursorAction, Cursor.step, step, StreamState.poll]
    have rows : (feed.cursorState.places stream).fetched = (feed.streams stream).rows := rfl
    cases held : (feed.streams stream).rows with
    | cons row rest =>
      rw [rows, held]
      rfl
    | nil =>
      rw [rows, held]
      dsimp only
      have page : Cursor.page feed.cursorState.table.committed (feed.cursorState.places stream).last 50 =
          fetchSince feed.table (feed.streams stream).lastId := rfl
      rw [page]
      cases fetched : fetchSince feed.table (feed.streams stream).lastId with
      | nil =>
        -- a heartbeat is none of the rows
        simp only [Option.map_some, cursorState_move]
        congr 2
        simp [StreamState.place, cursorState, StatusFrame.row?, held]
      | cons row rest =>
        simp only [Option.map_some, cursorState_move]
        rfl
  | send stream ts =>
    simp only [FeedAction.cursorAction, Cursor.step, step, StreamState.send]
    have rows : (feed.cursorState.places stream).fetched = (feed.streams stream).rows := rfl
    cases held : (feed.streams stream).rows with
    | nil =>
      rw [rows, held]
      rfl
    | cons row rest =>
      rw [rows, held]
      simp only [Option.map_some, cursorState_move]
      congr 2
      simp [StreamState.place, cursorState, StatusFrame.row?]

def cursors : Transition.Embedding step
    (Cursor.step 50 : Cursor.State FeedRow Nat → Cursor.Action FeedRow Nat → Option (Cursor.State FeedRow Nat)) where
  state := cursorState
  action := FeedAction.cursorAction
  Inv _ := True
  invariant _ _ _ _ _ := trivial
  commutes feed action _ := feed.step_cursor action

theorem run_cursors {start feed : StatusFeed} {actions : List FeedAction}
    (reached : Transition.run step start actions = some feed) :
    Transition.run (Cursor.step 50) start.cursorState (actions.map FeedAction.cursorAction) =
      some feed.cursorState := by
  have moved := cursors.run_map (s := start) trivial actions
  rwa [reached] at moved

theorem consistent_run {actions : List FeedAction} {feed : StatusFeed}
    (reached : Transition.run step {} actions = some feed) : Cursor.Consistent feed.cursorState := by
  exact Cursor.consistent_run Cursor.consistent_initial (run_cursors reached)

theorem commitsAhead_cursor (stream : Nat) (feed : StatusFeed) (action : FeedAction) :
    Cursor.CommitsAhead stream feed.cursorState action.cursorAction ↔ feed.CommitsAhead stream action := by
  cases action <;> exact Iff.rfl

theorem nothingMissed_iff_ahead {actions : List FeedAction} {feed : StatusFeed}
    (reached : Transition.run step {} actions = some feed) (stream : Nat) :
    Transition.Always step (NothingMissed stream) {} actions ↔
      Transition.Guarded step (CommitsAhead stream) {} actions := by
  have same : ∀ feed, True → (Cursor.NothingSkipped stream (cursorState feed) ↔ NothingMissed stream feed) :=
    fun _ _ => Iff.rfl
  apply cursors.always_iff_guarded same (fun feed action _ => feed.commitsAhead_cursor stream action) trivial reached
  intro state moved
  exact Cursor.nothingSkipped_iff_ahead stream Cursor.consistent_initial nofun moved

/-- In every run the events of a client are those of visible rows, each once and in the order of their ids, and it
    misses none it is past exactly when each transaction commits ahead of it. -/
theorem delivered_in_order {actions : List FeedAction} {feed : StatusFeed}
    (reached : Transition.run step {} actions = some feed) (stream : Nat) :
    ((feed.delivered stream).Pairwise fun a b => a.1 < b.1) ∧
      (∀ row ∈ feed.delivered stream, row ∈ feed.table.committed) ∧
        (Transition.Always step (NothingMissed stream) {} actions ↔
          Transition.Guarded step (CommitsAhead stream) {} actions) := by
  have reads := (consistent_run reached).places stream
  have ordered := (List.pairwise_append.mp reads.ascending).1
  have shown : ∀ row ∈ feed.delivered stream, row ∈ feed.table.committed :=
    fun row member => reads.shown row (List.mem_append_left _ member)
  exact ⟨ordered, shown, nothingMissed_iff_ahead reached stream⟩

def oneSent : List FeedAction :=
  [.insert (.narrative "opened"), .insert (.narrative "closed"), .commit 1, .poll 7 "t1", .send 7 "t2", .commit 2]

theorem delivered_in_order_oneSent : ∃ feed, Transition.run step {} oneSent = some feed ∧
    (feed.delivered 7).map Prod.fst = [1] ∧ ((feed.delivered 7).Pairwise fun a b => a.1 < b.1) ∧
      (∀ row ∈ feed.delivered 7, row ∈ feed.table.committed) ∧
        (Transition.Always step (NothingMissed 7) {} oneSent ↔
          Transition.Guarded step (CommitsAhead 7) {} oneSent) :=
  ⟨_, rfl, rfl, delivered_in_order rfl 7⟩

/-- Of two transactions the one with the higher id commits first, and a client polls in between. -/
example : (Transition.run step {}
    [.insert (.narrative "opened"), .insert (.narrative "closed"), .commit 2, .poll 7 "t1", .send 7 "t2", .commit 1,
      .poll 7 "t3"]).map (fun feed => (feed.delivered 7).map Prod.fst) = some [2] := by decide

theorem length_polls (actions : List FeedAction) (stream : Nat) :
    (actions.map FeedAction.cursorAction).countP (Cursor.Action.isOf stream) =
      actions.countP fun action => action.cursorAction.isOf stream := by
  rw [List.countP_map]
  rfl

/-- After a run in which each transaction commits ahead of a client, and with no more of them, two steps of the
    generator for a row that is left make its events those of the whole table. -/
theorem delivered_whole {actions rest : List FeedAction} {feed later : StatusFeed}
    (reached : Transition.run step {} actions = some feed) (stream : Nat)
    (ahead : Transition.Guarded step (CommitsAhead stream) {} actions) (quiet : ∀ id, .commit id ∉ rest)
    (enough : 2 * (Cursor.since feed.table.committed (feed.streams stream).lastId).length ≤
      rest.countP fun action => action.cursorAction.isOf stream)
    (went : Transition.run step feed rest = some later) :
    later.delivered stream = Cursor.since later.table.committed 0 := by
  have missed := ((nothingMissed_iff_ahead reached stream).mpr ahead).last reached
  have silent : ∀ id, .commit id ∉ rest.map FeedAction.cursorAction := by
    intro id member
    obtain ⟨action, inside, same⟩ := List.mem_map.mp member
    cases action with
    | commit other =>
      cases same
      exact quiet id inside
    | _ => cases same
  rw [← length_polls] at enough
  exact Cursor.given_of_quiet (by decide) (consistent_run reached) missed silent enough (run_cursors went)

def oneMore : List FeedAction := [.poll 7 "t3", .send 7 "t4"]

theorem delivered_whole_oneSent : ∃ feed later, Transition.run step {} oneSent = some feed ∧
    Transition.run step feed oneMore = some later ∧
      later.delivered 7 = Cursor.since later.table.committed 0 := by
  have ahead : Transition.Guarded step (CommitsAhead 7) {} oneSent := by decide
  have quiet : ∀ id, .commit id ∉ oneMore := by simp [oneMore]
  have caughtUp : ∀ feed later, Transition.run step {} oneSent = some feed →
      Transition.run step feed oneMore = some later →
        2 * (Cursor.since feed.table.committed (feed.streams 7).lastId).length ≤ 2 →
          later.delivered 7 = Cursor.since later.table.committed 0 :=
    fun _ _ reached went few => delivered_whole reached 7 ahead quiet few went
  exact ⟨_, _, rfl, rfl, caughtUp _ _ rfl rfl (by decide)⟩

def output (floats : FloatRepr) (feed : StatusFeed) (stream : Nat) : List Char :=
  (feed.streams stream).sent.flatMap (StatusFrame.text floats)

theorem rows_step {P : FeedRow → Prop} {feed next : StatusFeed} {action : FeedAction}
    (inserted : ∀ record, action = .insert record → P (record.kind, record.payload))
    (held : ∀ row ∈ feed.table.committed ++ feed.table.pending, P row.2) (taken : feed.step action = some next) :
    ∀ row ∈ next.table.committed ++ next.table.pending, P row.2 := by
  have closed : ∀ id, ∀ row ∈ (feed.table.close id).pending, P row.2 :=
    fun id row member => held row (List.mem_append_right _ (List.mem_of_mem_filter member))
  cases action with
  | insert record =>
    cases taken
    simp only [Cursor.Table.insert, ← List.append_assoc]
    exact List.forall_mem_append.mpr ⟨held, List.forall_mem_singleton.mpr (inserted record rfl)⟩
  | commit id =>
    obtain ⟨table, done, rfl⟩ := Option.map_eq_some_iff.mp taken
    obtain ⟨row, open', -, rfl⟩ := Cursor.Table.commit_eq done
    refine List.forall_mem_append.mpr ⟨List.forall_mem_append.mpr ⟨?_, ?_⟩, closed id⟩
    · exact fun other member => held other (List.mem_append_left _ member)
    · exact List.forall_mem_singleton.mpr (held row (List.mem_append_right _ open'))
  | rollback id =>
    obtain ⟨table, done, rfl⟩ := Option.map_eq_some_iff.mp taken
    obtain ⟨row, -, rfl⟩ := Option.map_eq_some_iff.mp done
    exact List.forall_mem_append.mpr ⟨fun other member => held other (List.mem_append_left _ member), closed id⟩
  | poll stream ts =>
    obtain ⟨state, -, rfl⟩ := Option.map_eq_some_iff.mp taken
    exact held
  | send stream ts =>
    obtain ⟨state, -, rfl⟩ := Option.map_eq_some_iff.mp taken
    exact held

theorem rows_run {P : FeedRow → Prop} {actions : List FeedAction}
    (inserted : ∀ record, .insert record ∈ actions → P (record.kind, record.payload)) {feed next : StatusFeed}
    (held : ∀ row ∈ feed.table.committed ++ feed.table.pending, P row.2)
    (reached : Transition.run step feed actions = some next) :
    ∀ row ∈ next.table.committed ++ next.table.pending, P row.2 := by
  induction actions generalizing feed with
  | nil =>
    cases reached
    exact held
  | cons action rest ih =>
    simp only [Transition.run, Option.bind_eq_some_iff] at reached
    obtain ⟨middle, taken, reached⟩ := reached
    have first := rows_step (fun record same => inserted record (same ▸ List.mem_cons_self)) held taken
    exact ih (fun record member => inserted record (List.mem_cons_of_mem _ member)) first reached

end StatusFeed

namespace StatusFrame

theorem oneLine_data (floats : FloatRepr) (frame : StatusFrame) : EventStream.OneLine (frame.data floats) := by
  have visible : ∀ c ∈ frame.data floats, 32 ≤ c.toNat := by
    cases frame with
    | event row ts => exact text_visible _ escapeControl_visible floats _
    | heartbeat ts => exact text_visible _ escape_visible floats _
  intro c member
  have high := visible c member
  constructor
  · rintro rfl
    exact absurd high (by decide)
  · rintro rfl
    exact absurd high (by decide)

theorem keyed_json {frame : StatusFrame} (keyed : ∀ row ∈ frame.row?, (Json.obj row.2.2).Keyed) :
    frame.json.Keyed := by
  cases frame with
  | event row ts =>
    refine ⟨by simp, trivial, ?_, trivial, trivial⟩
    exact keyed row rfl
  | heartbeat ts => exact ⟨by simp, trivial, trivial, trivial⟩

end StatusFrame

namespace StatusFeed

/-- Wherever the connection breaks off, the client was handed the first of the frames, each whole, and each message
    loads as the event the server dumped. -/
theorem messages_loaded (floats : FloatCodec) {actions : List FeedAction} {feed : StatusFeed}
    (reached : Transition.run step {} actions = some feed)
    (keyed : ∀ record, .insert record ∈ actions → (Json.obj record.payload).Keyed) (stream : Nat) {cut : List Char}
    (before : cut <+: feed.output floats.toFloatRepr stream) :
    (EventStream.messages cut).map (fun data => loads floats (String.ofList data)) =
      ((feed.streams stream).sent.take (EventStream.messages cut).length).map fun frame => some frame.json := by
  have rows : ∀ row ∈ feed.table.committed ++ feed.table.pending, (Json.obj row.2.2).Keyed :=
    rows_run (P := fun row => (Json.obj row.2).Keyed) keyed (List.forall_mem_nil _) reached
  have whole : EventStream.messages (feed.output floats.toFloatRepr stream) =
      (feed.streams stream).sent.map (StatusFrame.data floats.toFloatRepr) := by
    have framed : feed.output floats.toFloatRepr stream =
        ((feed.streams stream).sent.map (StatusFrame.data floats.toFloatRepr)).flatMap EventStream.frame := by
      rw [List.flatMap_map]
      rfl
    rw [framed]
    apply EventStream.messages_frames
    intro text member
    obtain ⟨frame, -, rfl⟩ := List.mem_map.mp member
    exact frame.oneLine_data _
  have first := EventStream.messages_prefix before
  rw [whole] at first
  have read := List.prefix_iff_eq_take.mp first
  rw [← List.map_take] at read
  generalize (EventStream.messages cut).length = count at read ⊢
  rw [read, List.map_map]
  apply List.map_congr_left
  intro frame sent
  have events : ∀ row ∈ frame.row?, (Json.obj row.2.2).Keyed := by
    intro row made
    have delivered : row ∈ feed.delivered stream := List.mem_filterMap.mpr ⟨frame, List.mem_of_mem_take sent, made⟩
    have visible := ((consistent_run reached).places stream).shown row (List.mem_append_left _ delivered)
    exact rows row (List.mem_append_left _ visible)
  exact loads_dumps floats frame.escaping (StatusFrame.keyed_json events)

theorem messages_loaded_oneSent : ∃ feed, Transition.run step {} oneSent = some feed ∧
    (EventStream.messages (feed.output fractions 7)).map (fun data => loads fractionCodec (String.ofList data)) =
      ((feed.streams 7).sent.take (EventStream.messages (feed.output fractions 7)).length).map fun frame =>
        some frame.json := by
  have keyed : ∀ record, .insert record ∈ oneSent → (Json.obj record.payload).Keyed := by
    intro record member
    simp only [oneSent, List.mem_cons, FeedAction.insert.injEq, reduceCtorEq, List.not_mem_nil, or_false]
      at member
    rcases member with rfl | rfl
    · exact ⟨by simp [StatusRecord.payload], trivial, trivial⟩
    · exact ⟨by simp [StatusRecord.payload], trivial, trivial⟩
  exact ⟨_, rfl, messages_loaded fractionCodec rfl keyed 7 (List.prefix_refl _)⟩

end StatusFeed

end CysAgi
