import CysAgi.Base.Transition
import CysAgi.Bus.OnceInProcess
import CysAgi.Bus.SecureAgentBus

open Py

namespace CysAgi

def matchesChannel (channel : String) (envelope : JsonDict) : Bool :=
  JsonDict.get? envelope "channel" = some (.str channel) || JsonDict.get? envelope "recipient" = some (.str channel)

/-- The control-plane handlers, each named by the recipient it is registered for, the consumers of
    the findings topic, what `receive_message` has accepted, what was published on which channel, and
    what handlers have been passed. -/
structure ControlPlane where
  transport : BusTransport String
  consumers : List String := []
  accepted : List (String × JsonDict) := []
  published : List (String × JsonDict) := []
  handled : List (String × Json) := []

/-- `published` tells whether the wire has taken the message, `failing` is the position of the
    first handler that raises. -/
inductive ControlStep where
  | register (recipient : String)
  | startSubscriberLoop (channels : Option (List String))
  | listen (channel : String)
  | loopEnds
  | startConsumer (recipient : String)
  | receive (now : Rat) (recipient : String) (message : JsonDict)
  | publish (channel : String) (message : JsonDict) (published : Bool) (failing : Option Nat)
  | redisMessage (channel : String) (message : Json) (failing : Option Nat)
  | kafkaRecord (consumer : Nat) (envelope : Json)

namespace ControlPlane

def onRedis (s : ControlPlane)
    (call : RedisBusTransport String → Option (RedisBusTransport String)) : Option ControlPlane :=
  match s.transport with
  | .redis transport => (call transport).map fun transport => { s with transport := .redis transport }
  | _ => none

def pass (s : ControlPlane) (handlers : List String) (message : Json) : ControlPlane :=
  { s with handled := s.handled ++ handlers.map fun handler => (handler, message) }

def redisMessage (s : ControlPlane) (channel : String) (message : Json) (failing : Option Nat) :
    Option ControlPlane :=
  match s.transport with
  | .redis transport =>
    if transport.listening channel then
      let handlers := transport.dispatchMessage channel
      let t := s.pass (called handlers failing) message
      some (if failing.any fun position => position < handlers.length then
        { t with transport := .redis transport.loopEnds } else t)
    else none
  | _ => none

def kafkaRecord (s : ControlPlane) (consumer : Nat) (envelope : Json) : Option ControlPlane :=
  s.consumers[consumer]?.map fun channel =>
    match envelope with
    | .obj fields => if matchesChannel channel fields then s.pass [channel] envelope else s
    | _ => s

def step (library : BusLibrary) (s : ControlPlane) : ControlStep → Option ControlPlane
  | .register recipient => some { s with transport := s.transport.subscribe recipient recipient }
  | .startSubscriberLoop channels => s.onRedis fun transport => some (transport.startSubscriberLoop channels)
  | .listen channel => s.onRedis fun transport => transport.listen channel
  | .loopEnds => s.onRedis fun transport => some transport.loopEnds
  | .startConsumer recipient => some { s with consumers := s.consumers ++ [recipient] }
  | .receive now recipient message =>
    match SecureAgentBus.receiveMessage library now recipient message with
    | .ok _ => some { s with accepted := s.accepted ++ [(recipient, message)] }
    | .error _ => some s
  | .publish channel message published failing =>
    if published then
      some ({ s with published := s.published ++ [(channel, message)] }.pass
        (called (s.transport.publish channel) failing) (.obj (s.transport.handedOver channel message)))
    else some s
  | .redisMessage channel message failing => s.redisMessage channel message failing
  | .kafkaRecord consumer envelope => s.kafkaRecord consumer envelope

/-- The message without the field that the Kafka transport adds and `receive_message` never reads. -/
def unrouted (message : JsonDict) : JsonDict := message.filter fun field => field.1 ≠ "channel"

def Vouched (s : ControlPlane) (recipient : String) (message : Json) : Prop :=
  ∃ fields, message = .obj fields ∧ ∃ first ∈ s.accepted, first.1 = recipient ∧ unrouted first.2 = unrouted fields

def Verified (s : ControlPlane) : Prop := ∀ delivery ∈ s.handled, s.Vouched delivery.1 delivery.2

/-- What is published was received and accepted as the channel's recipient before, as a worker does it,
    and the brokers deliver what was so published and nothing else. -/
def ReceivedFirst (s : ControlPlane) : ControlStep → Prop
  | .publish channel message published _ => published = true → (channel, message) ∈ s.accepted
  | .redisMessage channel message _ => ∃ sent ∈ s.published, sent.1 = channel ∧ message = .obj sent.2
  | .kafkaRecord _ envelope => ∃ sent ∈ s.published, envelope = .obj (KafkaBusTransport.enriched sent.1 sent.2)
  | _ => True

instance (s : ControlPlane) : (action : ControlStep) → Decidable (s.ReceivedFirst action)
  | .publish .. => inferInstanceAs (Decidable (_ → _))
  | .redisMessage channel message _ =>
    inferInstanceAs (Decidable (∃ sent ∈ s.published, sent.1 = channel ∧ message = .obj sent.2))
  | .kafkaRecord _ envelope =>
    inferInstanceAs (Decidable (∃ sent ∈ s.published, envelope = .obj (KafkaBusTransport.enriched sent.1 sent.2)))
  | .register _ => isTrue trivial
  | .startSubscriberLoop _ => isTrue trivial
  | .listen _ => isTrue trivial
  | .loopEnds => isTrue trivial
  | .startConsumer _ => isTrue trivial
  | .receive .. => isTrue trivial

def OwnChannels (handlers : BusHandlers String) : Prop := ∀ channel, ∀ handler ∈ handlers.on channel, handler = channel

def Own (transport : BusTransport String) : Prop :=
  match transport with
  | .memory transport => OwnChannels transport.handlers
  | .redis transport => OwnChannels transport.handlers ∧ OwnChannels transport.fallback.handlers
  | .kafka transport => OwnChannels transport.fallback.handlers

theorem OwnChannels.add {handlers : BusHandlers String} (own : OwnChannels handlers) (recipient : String) :
    OwnChannels (handlers.add recipient recipient) := by
  intro channel handler member
  rw [BusHandlers.on_add] at member
  split_ifs at member with same
  · rcases List.mem_append.mp member with old | new
    · exact own channel handler old
    · rw [List.mem_singleton.mp new, same]
  · exact own channel handler member

theorem own_initial (connector : BusConnector) : Own (.initial connector) := by
  have none : OwnChannels .empty := fun channel handler member => by cases member
  cases connector with
  | memory => exact none
  | redis reachable => exact ⟨none, none⟩
  | kafka => exact none

section

variable {transport : BusTransport String}

theorem Own.subscribe (own : Own transport) (recipient : String) : Own (transport.subscribe recipient recipient) := by
  cases transport with
  | memory transport => exact own.add recipient
  | redis transport =>
    refine ⟨own.1.add recipient, ?_⟩
    simp only [RedisBusTransport.subscribe]
    split_ifs
    · exact own.2.add recipient
    · exact own.2
  | kafka transport => exact own.add recipient

theorem Own.publish (own : Own transport) (channel : String) :
    ∀ handler ∈ transport.publish channel, handler = channel := by
  cases transport with
  | memory transport => exact own channel
  | redis transport => exact own.2 channel
  | kafka transport => exact own channel

end

section

variable {s t : ControlPlane}

theorem startSubscriberLoop_kept {channels : Option (List String)} (transport after : RedisBusTransport String)
    (started : some (transport.startSubscriberLoop channels) = some after) :
    ∃ subscriber, after = { transport with subscriber } := by
  cases started
  exact transport.startSubscriberLoop_eq channels

theorem loopEnds_kept (transport after : RedisBusTransport String) (ended : some transport.loopEnds = some after) :
    ∃ subscriber, after = { transport with subscriber } := by
  cases ended
  exact ⟨_, rfl⟩

theorem Vouched.mono {recipient : String} {message : Json} (vouched : s.Vouched recipient message)
    (grown : ∀ first ∈ s.accepted, first ∈ t.accepted) : t.Vouched recipient message := by
  obtain ⟨fields, rfl, first, member, same, equal⟩ := vouched
  exact ⟨fields, rfl, first, grown first member, same, equal⟩

theorem Vouched.pass {recipient : String} {message : Json} (vouched : s.Vouched recipient message)
    (handlers : List String) (other : Json) : (s.pass handlers other).Vouched recipient message :=
  vouched.mono fun _ member => member

theorem Verified.pass {handlers : List String} {message : Json} (verified : s.Verified)
    (vouched : ∀ handler ∈ handlers, s.Vouched handler message) : (s.pass handlers message).Verified := by
  intro delivery member
  rcases List.mem_append.mp member with old | new
  · exact (verified delivery old).pass handlers message
  · obtain ⟨handler, passed, rfl⟩ := List.mem_map.mp new
    exact (vouched handler passed).pass handlers message

theorem vouched_called {handlers : List String} {channel : String} (own : ∀ handler ∈ handlers, handler = channel)
    (failing : Option Nat) {message : Json} (vouched : s.Vouched channel message) :
    ∀ handler ∈ called handlers failing, s.Vouched handler message := by
  intro handler member
  rw [own handler ((called_sublist handlers failing).subset member)]
  exact vouched

theorem unrouted_set (message : JsonDict) (value : Json) :
    unrouted (JsonDict.set message "channel" value) = unrouted message := by
  unfold unrouted JsonDict.set
  induction message with
  | nil => rfl
  | cons field rest ih =>
    obtain ⟨key, old⟩ := field
    unfold Assoc.set
    split_ifs with same
    · simp [same]
    · rw [List.filter_cons, List.filter_cons, ih]

theorem unrouted_handedOver (transport : BusTransport String) (channel : String) (message : JsonDict) :
    unrouted (transport.handedOver channel message) = unrouted message := by
  cases transport with
  | kafka => exact unrouted_set message _
  | _ => rfl

theorem vouched_of_accepted {recipient : String} {message fields : JsonDict} (accepted : (recipient, message) ∈ s.accepted)
    (same : unrouted fields = unrouted message) : s.Vouched recipient (.obj fields) :=
  ⟨fields, rfl, (recipient, message), accepted, rfl, same.symm⟩

structure Kept (s : ControlPlane) : Prop where
  own : Own s.transport
  received : ∀ sent ∈ s.published, sent ∈ s.accepted
  addressed : ∀ first ∈ s.accepted, JsonDict.get? first.2 "recipient" = some (.str first.1)
  verified : s.Verified

theorem recipient_of_received {library : BusLibrary} {now : Rat} {recipient : String} {message : JsonDict} {answer : Json}
    (accepted : SecureAgentBus.receiveMessage library now recipient message = .ok answer) :
    JsonDict.get? message "recipient" = some (.str recipient) := by
  unfold SecureAgentBus.receiveMessage at accepted
  split at accepted
  · cases accepted
  · split at accepted
    · cases accepted
    · next same => exact not_not.mp same

theorem Kept.receive {library : BusLibrary} (kept : s.Kept) {now : Rat} {recipient : String} {message : JsonDict}
    (taken : step library s (.receive now recipient message) = some t) : t.Kept := by
  unfold step at taken
  dsimp only at taken
  split at taken
  · next answer accepted =>
    cases taken
    have grown : ∀ first ∈ s.accepted, first ∈ s.accepted ++ [(recipient, message)] :=
      fun first member => List.mem_append_left _ member
    refine ⟨kept.own, fun sent member => grown sent (kept.received sent member), ?_, ?_⟩
    · intro first member
      rcases List.mem_append.mp member with old | new
      · exact kept.addressed first old
      · rw [List.mem_singleton.mp new]
        exact recipient_of_received accepted
    · exact fun delivery member => (kept.verified delivery member).mono grown
  · cases taken
    exact kept

theorem Kept.publish {library : BusLibrary} (kept : s.Kept) {channel : String} {message : JsonDict} {published : Bool}
    {failing : Option Nat} (received : s.ReceivedFirst (.publish channel message published failing))
    (taken : step library s (.publish channel message published failing) = some t) : t.Kept := by
  simp only [step] at taken
  split_ifs at taken with sent
  · cases taken
    have first : (channel, message) ∈ s.accepted := received sent
    refine ⟨kept.own, ?_, kept.addressed, ?_⟩
    · intro before member
      rcases List.mem_append.mp member with old | new
      · exact kept.received before old
      · rwa [List.mem_singleton.mp new]
    · refine Verified.pass kept.verified (vouched_called (kept.own.publish channel) failing ?_)
      exact vouched_of_accepted first (unrouted_handedOver s.transport channel message)
  · cases taken
    exact kept

theorem Kept.redisMessage (kept : s.Kept) {channel : String} {message : Json} {failing : Option Nat}
    (received : s.ReceivedFirst (.redisMessage channel message failing))
    (taken : s.redisMessage channel message failing = some t) : t.Kept := by
  obtain ⟨⟨recipient, fields⟩, sent, rfl, rfl⟩ := received
  have vouched : s.Vouched recipient (.obj fields) := vouched_of_accepted (kept.received _ sent) rfl
  have own := kept.own
  unfold ControlPlane.redisMessage at taken
  cases transport : s.transport with
  | redis transport' =>
    rw [transport] at taken own
    dsimp only at taken
    have passed : (s.pass (called (transport'.dispatchMessage recipient) failing) (.obj fields)).Verified :=
      kept.verified.pass (vouched_called (own.1 recipient) failing vouched)
    split_ifs at taken <;> cases taken
    · exact ⟨own, kept.received, kept.addressed, passed⟩
    · exact ⟨kept.own, kept.received, kept.addressed, passed⟩
  | _ =>
    rw [transport] at taken
    cases taken

theorem vouched_record {recipient channel : String} {message : JsonDict} (kept : s.Kept)
    (sent : (channel, message) ∈ s.published)
    (named : matchesChannel recipient (KafkaBusTransport.enriched channel message) = true) :
    s.Vouched recipient (.obj (KafkaBusTransport.enriched channel message)) := by
  have accepted := kept.received _ sent
  have addressed : JsonDict.get? message "recipient" = some (.str channel) := kept.addressed _ accepted
  have route : JsonDict.get? (KafkaBusTransport.enriched channel message) "channel" = some (.str channel) := by
    rw [KafkaBusTransport.enriched, JsonDict.get?, JsonDict.set, Assoc.lookup_set, if_pos rfl]
  have address : JsonDict.get? (KafkaBusTransport.enriched channel message) "recipient" = some (.str channel) := by
    rw [KafkaBusTransport.enriched, JsonDict.get?, JsonDict.set, Assoc.lookup_set, if_neg (by decide)]
    exact addressed
  have same : channel = recipient := by
    rw [matchesChannel, route, address] at named
    simpa using named
  rw [← same]
  exact vouched_of_accepted accepted (unrouted_set message _)

theorem Kept.kafkaRecord (kept : s.Kept) {consumer : Nat} {envelope : Json}
    (received : s.ReceivedFirst (.kafkaRecord consumer envelope))
    (taken : s.kafkaRecord consumer envelope = some t) : t.Kept := by
  obtain ⟨⟨channel, message⟩, sent, rfl⟩ := received
  obtain ⟨recipient, -, rfl⟩ := Option.map_eq_some_iff.mp taken
  dsimp only
  split
  · next named =>
    refine ⟨kept.own, kept.received, kept.addressed, kept.verified.pass ?_⟩
    intro handler member
    rw [List.mem_singleton.mp member]
    exact vouched_record kept sent named
  · exact kept

theorem Kept.onRedis {call : RedisBusTransport String → Option (RedisBusTransport String)} (kept : s.Kept)
    (same : ∀ transport after, call transport = some after → ∃ subscriber, after = { transport with subscriber })
    (taken : s.onRedis call = some t) : t.Kept := by
  have own := kept.own
  unfold ControlPlane.onRedis at taken
  cases transport : s.transport with
  | redis transport' =>
    rw [transport] at taken own
    obtain ⟨after, called, rfl⟩ := Option.map_eq_some_iff.mp taken
    obtain ⟨subscriber, rfl⟩ := same transport' after called
    exact ⟨own, kept.received, kept.addressed, kept.verified⟩
  | _ =>
    rw [transport] at taken
    cases taken

theorem Kept.step {library : BusLibrary} {action : ControlStep} (kept : s.Kept) (received : s.ReceivedFirst action)
    (taken : step library s action = some t) : t.Kept := by
  cases action with
  | register recipient =>
    cases taken
    exact ⟨kept.own.subscribe recipient, kept.received, kept.addressed, kept.verified⟩
  | startSubscriberLoop channels => exact kept.onRedis startSubscriberLoop_kept taken
  | listen channel => exact kept.onRedis (fun _ _ => RedisBusTransport.listen_eq) taken
  | loopEnds => exact kept.onRedis loopEnds_kept taken
  | startConsumer recipient =>
    cases taken
    exact ⟨kept.own, kept.received, kept.addressed, kept.verified⟩
  | receive now recipient message => exact kept.receive taken
  | publish channel message published failing => exact kept.publish received taken
  | redisMessage channel message failing => exact kept.redisMessage received taken
  | kafkaRecord consumer envelope => exact kept.kafkaRecord received taken

theorem kept_initial (connector : BusConnector) : Kept { transport := .initial connector } :=
  ⟨own_initial connector, List.forall_mem_nil _, List.forall_mem_nil _, List.forall_mem_nil _⟩

/-- Where everybody publishes only what was received first and the brokers deliver only what was published, no
    unverified message reaches a handler, whatever the transport. -/
theorem verified_of_receivedFirst (library : BusLibrary) {connector : BusConnector} {actions : List ControlStep}
    (received : Transition.Guarded (step library) ReceivedFirst { transport := .initial connector } actions) :
    Transition.Always (step library) Verified { transport := .initial connector } actions :=
  Transition.always_of_guarded Kept (fun _ kept => kept.verified)
    (fun _ _ _ kept received taken => kept.step received taken) (kept_initial connector) received

end

def sentToCritic : JsonDict :=
  SecureAgentBus.envelope plainLibrary 0
    { trustLevel := .internal, allowedRecipients := ["critic"], allowedMessageTypes := ["finding"] } "soc" "critic"
    "finding" []

theorem verified_of_receivedFirst_worker :
    Transition.Always (step plainLibrary) Verified { transport := .initial .kafka }
      [.register "critic", .startConsumer "critic", .receive 0 "critic" sentToCritic,
        .publish "critic" sentToCritic true none,
        .kafkaRecord 0 (.obj (KafkaBusTransport.enriched "critic" sentToCritic))] :=
  verified_of_receivedFirst plainLibrary (by decide +kernel)

def forged : JsonDict := [("channel", .str "critic")]

/-- A dict without a signature is handled by the critic, which no bus would have accepted. -/
theorem forged_record_handled :
    (∃ s, Transition.run (step plainLibrary) { transport := .initial .kafka }
        [.startConsumer "critic", .kafkaRecord 0 (.obj forged)] = some s ∧
      s.handled = [("critic", .obj forged)] ∧ ¬ s.Verified) ∧
    ∀ library now recipient, SecureAgentBus.receiveMessage library now recipient forged =
      .error (.securityViolation "Unsupported A2A protocol version") := by
  refine ⟨⟨_, rfl, rfl, ?_⟩, fun _ _ _ => rfl⟩
  intro verified
  obtain ⟨fields, -, first, member, -⟩ := verified ("critic", .obj forged) (List.mem_singleton_self _)
  cases member

end ControlPlane

end CysAgi
