import Mathlib.Data.List.Nodup
import CysAgi.Base.Broadcast
import CysAgi.ControlPlane.StatusStream

namespace CysAgi

open Py

/-- The dict that `_notify` hands to the subscribers. -/
structure LiveEvent where
  kind : StatusKind
  payload : JsonDict
  ts : String

/-- What the generator of `/status/stream` yields with the store in memory. -/
inductive LiveFrame where
  | event (event : LiveEvent)
  | heartbeat (ts : String)

def LiveFrame.event? : LiveFrame → Option LiveEvent
  | .event told => some told
  | .heartbeat _ => none

/-- The store with its subscribers, the notifications with the callbacks they have still to call, and for each client
    its queue and what its generator yielded. A client that comes back is another client. -/
structure LiveFeed where
  store : MemoryStatusStore := {}
  opened : List Nat := []
  subscribers : List Nat := []
  notifying : List (LiveEvent × List Nat) := []
  queues : Nat → List LiveEvent := fun _ => []
  sent : Nat → List LiveFrame := fun _ => []

inductive LiveAction where
  -- a `record_` method up to the copy of the subscribers, which `_notify` makes under the lock
  | record (record : StatusRecord) (ts : String)
  | callback (notification : Nat)
  | connect (client : Nat)
  | get (client : Nat)
  | timeout (client : Nat) (ts : String)
  | disconnect (client : Nat)

namespace LiveFeed

def callback (feed : LiveFeed) (notification : Nat) : Option LiveFeed :=
  match feed.notifying[notification]? with
  | some (event, client :: rest) => some
    { feed with
      notifying := feed.notifying.set notification (event, rest)
      queues := Function.update feed.queues client (feed.queues client ++ [event]) }
  | _ => none

def get (feed : LiveFeed) (client : Nat) : Option LiveFeed :=
  match feed.queues client with
  | event :: rest => some
    { feed with
      queues := Function.update feed.queues client rest
      sent := Function.update feed.sent client (feed.sent client ++ [.event event]) }
  | [] => none

def step (feed : LiveFeed) : LiveAction → Option LiveFeed
  | .record record ts => some
    { feed with
      store := feed.store.record record
      notifying := feed.notifying ++ [({ kind := record.kind, payload := record.payload, ts }, feed.subscribers)] }
  | .callback notification => feed.callback notification
  | .connect client =>
    if client ∈ feed.opened then none
    else some { feed with opened := feed.opened ++ [client], subscribers := feed.subscribers ++ [client] }
  | .get client => if client ∈ feed.subscribers then feed.get client else none
  | .timeout client ts =>
    if client ∈ feed.subscribers ∧ (feed.queues client).isEmpty then
      some { feed with sent := Function.update feed.sent client (feed.sent client ++ [.heartbeat ts]) }
    else none
  | .disconnect client => some { feed with subscribers := feed.subscribers.erase client }

def events (feed : LiveFeed) (client : Nat) : List LiveEvent := (feed.sent client).filterMap LiveFrame.event?

def hub (feed : LiveFeed) : Broadcast.Hub LiveEvent Nat where
  subscribers := feed.subscribers
  calling := feed.notifying
  handed client := feed.events client ++ feed.queues client

def hubAction : LiveAction → Option (Broadcast.Action LiveEvent Nat)
  | .record record ts => some (.publish { kind := record.kind, payload := record.payload, ts })
  | .callback notification => some (.call notification)
  | .connect client => some (.subscribe client)
  | .get _ | .timeout _ _ => none
  | .disconnect client => some (.unsubscribe client)

structure Distinct (feed : LiveFeed) : Prop where
  nodup : feed.subscribers.Nodup
  opened : ∀ client ∈ feed.subscribers, client ∈ feed.opened

theorem get_eq {feed next : LiveFeed} {client : Nat} (got : feed.get client = some next) :
    ∃ event rest, feed.queues client = event :: rest ∧
      next =
        { feed with
          queues := Function.update feed.queues client rest
          sent := Function.update feed.sent client (feed.sent client ++ [.event event]) } := by
  unfold get at got
  split at got
  · next event rest queued =>
    cases got
    exact ⟨event, rest, queued, rfl⟩
  · cases got

theorem callback_eq {feed next : LiveFeed} {notification : Nat} (called : feed.callback notification = some next) :
    ∃ event client rest, feed.notifying[notification]? = some (event, client :: rest) ∧
      next =
        { feed with
          notifying := feed.notifying.set notification (event, rest)
          queues := Function.update feed.queues client (feed.queues client ++ [event]) } := by
  unfold callback at called
  split at called
  · next event client rest here =>
    cases called
    exact ⟨event, client, rest, here, rfl⟩
  · cases called

theorem Distinct.step {feed next : LiveFeed} {action : LiveAction} (distinct : feed.Distinct)
    (taken : feed.step action = some next) : next.Distinct := by
  cases action with
  | record record ts =>
    cases taken
    exact ⟨distinct.nodup, distinct.opened⟩
  | callback notification =>
    obtain ⟨event, client, rest, -, rfl⟩ := callback_eq taken
    exact ⟨distinct.nodup, distinct.opened⟩
  | connect client =>
    simp only [LiveFeed.step] at taken
    split at taken
    · cases taken
    · next new =>
      cases taken
      constructor
      · apply List.Nodup.append distinct.nodup (List.nodup_singleton _)
        intro other present same
        rw [List.mem_singleton.mp same] at present
        exact new (distinct.opened _ present)
      · intro other member
        rcases List.mem_append.mp member with member | member
        · exact List.mem_append_left _ (distinct.opened other member)
        · exact List.mem_append_right _ member
  | get client =>
    simp only [LiveFeed.step] at taken
    split at taken
    · obtain ⟨event, rest, -, rfl⟩ := get_eq taken
      exact ⟨distinct.nodup, distinct.opened⟩
    · cases taken
  | timeout client ts =>
    simp only [LiveFeed.step] at taken
    split at taken
    · cases taken
      exact ⟨distinct.nodup, distinct.opened⟩
    · cases taken
  | disconnect client =>
    cases taken
    exact ⟨distinct.nodup.erase client, fun other member => distinct.opened other (List.mem_of_mem_erase member)⟩

theorem events_sent (feed : LiveFeed) (client other : Nat) (frame : LiveFrame) :
    (Function.update feed.sent client (feed.sent client ++ [frame]) other).filterMap LiveFrame.event? =
      feed.events other ++ if other = client then frame.event?.toList else [] := by
  by_cases same : other = client
  · rw [same, Function.update_self, List.filterMap_append, if_pos rfl]
    cases frame <;> rfl
  · rw [Function.update_of_ne same, if_neg same, List.append_nil]
    rfl

theorem hub_get {feed next : LiveFeed} {client : Nat} (got : feed.get client = some next) : next.hub = feed.hub := by
  obtain ⟨event, rest, queued, rfl⟩ := get_eq got
  have handed : ∀ other, (Function.update feed.sent client (feed.sent client ++ [.event event]) other).filterMap
      LiveFrame.event? ++ Function.update feed.queues client rest other = feed.events other ++ feed.queues other := by
    intro other
    rw [events_sent]
    by_cases same : other = client
    · rw [same, if_pos rfl, Function.update_self, queued, List.append_assoc]
      rfl
    · rw [if_neg same, List.append_nil, Function.update_of_ne same]
  exact congrArg (fun handed => ({ feed.hub with handed } : Broadcast.Hub LiveEvent Nat)) (funext handed)

theorem hub_callback {feed next : LiveFeed} {notification : Nat} (called : feed.callback notification = some next) :
    feed.hub.call notification = some next.hub := by
  obtain ⟨event, client, rest, here, rfl⟩ := callback_eq called
  have handed : ∀ other, feed.events other ++ Function.update feed.queues client (feed.queues client ++ [event]) other =
      Function.update feed.hub.handed client (feed.hub.handed client ++ [event]) other := by
    intro other
    by_cases same : other = client
    · rw [same, Function.update_self, Function.update_self, ← List.append_assoc]
      rfl
    · rw [Function.update_of_ne same, Function.update_of_ne same]
      rfl
  have calling : feed.hub.calling[notification]? = some (event, client :: rest) := here
  rw [Broadcast.Hub.call, calling]
  exact congrArg (fun handed => some ({ feed.hub with
    calling := feed.notifying.set notification (event, rest), handed } : Broadcast.Hub LiveEvent Nat))
    (funext handed).symm

def onHub : Transition.Simulation step
    (Broadcast.Hub.step : Broadcast.Hub LiveEvent Nat → Broadcast.Action LiveEvent Nat → _) where
  state := hub
  action := hubAction
  Inv _ := True
  invariant _ _ _ _ _ := trivial
  unseen feed action next _ unseen taken := by
    cases action with
    | get client =>
      simp only [step] at taken
      split at taken
      · exact hub_get taken
      · cases taken
    | timeout client ts =>
      simp only [step] at taken
      split at taken
      · cases taken
        have handed : ∀ other, (Function.update feed.sent client (feed.sent client ++ [.heartbeat ts]) other).filterMap
            LiveFrame.event? ++ feed.queues other = feed.events other ++ feed.queues other := by
          intro other
          have silent : (LiveFrame.heartbeat ts).event?.toList = [] := rfl
          rw [events_sent, silent, ite_self, List.append_nil]
        exact congrArg (fun handed => ({ feed.hub with handed } : Broadcast.Hub LiveEvent Nat)) (funext handed)
      · cases taken
    | _ => cases unseen
  follows feed action seen next _ same taken := by
    cases action with
    | record record ts =>
      cases taken
      cases same
      rfl
    | callback notification =>
      cases same
      exact hub_callback taken
    | connect client =>
      simp only [step] at taken
      split at taken
      · cases taken
      · cases taken
        cases same
        rfl
    | disconnect client =>
      cases taken
      cases same
      rfl
    | _ => cases same

def recordedWhile (client : Nat) : Bool → List LiveAction → List LiveEvent
  | _, [] => []
  | connected, .record record ts :: rest =>
    (if connected then [{ kind := record.kind, payload := record.payload, ts }] else []) ++
      recordedWhile client connected rest
  | connected, .connect other :: rest => recordedWhile client (connected || other = client) rest
  | connected, .disconnect other :: rest => recordedWhile client (connected && other ≠ client) rest
  | connected, .callback _ :: rest => recordedWhile client connected rest
  | connected, .get _ :: rest => recordedWhile client connected rest
  | connected, .timeout _ _ :: rest => recordedWhile client connected rest

theorem owed_eq {actions : List LiveAction} {feed last : LiveFeed} (distinct : feed.Distinct)
    (reached : Transition.run step feed actions = some last) (client : Nat) :
    Broadcast.Hub.owed client feed.subscribers (actions.filterMap hubAction) =
      recordedWhile client (client ∈ feed.subscribers) actions := by
  induction actions generalizing feed with
  | nil => rfl
  | cons action rest ih =>
    obtain ⟨next, taken, reached⟩ := Option.bind_eq_some_iff.mp reached
    have later := ih (distinct.step taken) reached
    cases action with
    | record record ts =>
      cases taken
      simp only [List.filterMap_cons, hubAction, Broadcast.Hub.owed, recordedWhile, later]
      congr 1
      by_cases present : client ∈ feed.subscribers
      · rw [List.count_eq_one_of_mem distinct.nodup present, decide_eq_true present]
        rfl
      · rw [List.count_eq_zero_of_not_mem present, decide_eq_false present]
        rfl
    | callback notification =>
      obtain ⟨event, other, left, -, rfl⟩ := callback_eq taken
      exact later
    | connect other =>
      simp only [step] at taken
      split at taken
      · cases taken
      · cases taken
        simp only [List.filterMap_cons, hubAction, Broadcast.Hub.owed, recordedWhile, later]
        congr 1
        simp [eq_comm]
    | get other =>
      simp only [step] at taken
      split at taken
      · obtain ⟨event, left, -, rfl⟩ := get_eq taken
        exact later
      · cases taken
    | timeout other ts =>
      simp only [step] at taken
      split at taken
      · cases taken
        exact later
      · cases taken
    | disconnect other =>
      cases taken
      simp only [List.filterMap_cons, hubAction, Broadcast.Hub.owed, recordedWhile, later]
      congr 1
      have left : client ∈ feed.subscribers.erase other ↔ client ∈ feed.subscribers ∧ other ≠ client := by
        rw [distinct.nodup.mem_erase_iff, and_comm, ne_comm]
      rw [decide_eq_decide.mpr left, Bool.decide_and]

def coming (feed : LiveFeed) (client : Nat) : List LiveEvent := feed.hub.waiting client

/-- A notification starts when the one before it has called all of its subscribers, as on one event loop. -/
def Alone (feed : LiveFeed) : LiveAction → Prop
  | .record _ _ => ∀ notification ∈ feed.notifying, notification.2 = []
  | _ => True

instance (feed : LiveFeed) : DecidablePred feed.Alone
  | .record _ _ => inferInstanceAs (Decidable (∀ notification ∈ feed.notifying, notification.2 = []))
  | .callback _ | .connect _ | .get _ | .timeout _ _ | .disconnect _ => isTrue trivial

/-- In every run a client is sent, or has coming, what is recorded while it is connected and nothing else, each once;
    and in the order in which it is recorded when the notifications do not overlap. -/
theorem told_while_connected {actions : List LiveAction} {feed : LiveFeed}
    (reached : Transition.run step {} actions = some feed) (client : Nat) :
    (feed.events client ++ feed.queues client ++ feed.coming client).Perm (recordedWhile client false actions) ∧
      (Transition.Guarded step Alone {} actions →
        feed.events client ++ feed.queues client ++ feed.coming client = recordedWhile client false actions) := by
  have moved := onHub.run_filterMap trivial reached
  have distinct : Distinct {} := ⟨List.nodup_nil, List.forall_mem_nil _⟩
  have owed := owed_eq distinct reached client
  have perm := Broadcast.Hub.perm_run moved client
  constructor
  · exact owed ▸ perm
  · intro alone
    have implied : ∀ feed action seen, onHub.Inv feed → onHub.action action = some seen → Alone feed action →
        (onHub.state feed).Alone seen := by
      intro feed action seen _ same alone
      cases action with
      | record record ts =>
        cases same
        exact alone
      | _ => cases same <;> trivial
    have apart := onHub.guarded_filterMap implied trivial reached alone
    have one : Broadcast.Hub.OneAtATime (hub {}) := List.forall_mem_nil _
    have whole := Broadcast.Hub.run_in_order one apart moved client
    exact owed ▸ whole

def oneListener : List LiveAction :=
  [.connect 1, .record (.narrative "opened") "t1", .callback 0, .get 1, .disconnect 1, .record (.narrative "closed") "t2"]

theorem told_while_connected_one_listener : ∃ feed, Transition.run step {} oneListener = some feed ∧
    (feed.events 1).length = 1 ∧
    (feed.events 1 ++ feed.queues 1 ++ feed.coming 1).Perm (recordedWhile 1 false oneListener) ∧
      (Transition.Guarded step Alone {} oneListener →
        feed.events 1 ++ feed.queues 1 ++ feed.coming 1 = recordedWhile 1 false oneListener) :=
  ⟨_, rfl, rfl, told_while_connected rfl 1⟩

end LiveFeed

end CysAgi
