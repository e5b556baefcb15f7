import CysAgi.Base.Json

open Py

namespace CysAgi

abbrev BusHandlers (Handler : Type) := Dict String (List Handler)

namespace BusHandlers

variable {Handler : Type}

def on (handlers : BusHandlers Handler) (channel : String) : List Handler := (handlers.get? channel).getD []

def add (handlers : BusHandlers Handler) (channel : String) (handler : Handler) : BusHandlers Handler :=
  Dict.set handlers channel (on handlers channel ++ [handler])

@[simp] theorem on_empty (channel : String) : on (.empty : BusHandlers Handler) channel = [] := rfl

theorem on_add (handlers : BusHandlers Handler) (channel other : String) (handler : Handler) :
    on (add handlers channel handler) other =
      if other = channel then on handlers other ++ [handler] else on handlers other := by
  unfold on add
  rw [Dict.get?_set]
  split_ifs with same
  · rw [same]
    rfl
  · rfl

end BusHandlers

def called {Handler : Type} (handlers : List Handler) (failing : Option Nat) : List Handler :=
  match failing with
  | none => handlers
  | some position => handlers.take (position + 1)

theorem called_sublist {Handler : Type} (handlers : List Handler) (failing : Option Nat) :
    (called handlers failing).Sublist handlers := by
  cases failing with
  | none => exact List.Sublist.refl _
  | some position => exact List.take_sublist _ _

theorem mem_called_first {Handler : Type} (first : Handler) (rest : List Handler) (failing : Option Nat) :
    first ∈ called (first :: rest) failing := by
  cases failing <;> exact List.mem_cons_self

structure InMemoryBusTransport (Handler : Type) where
  handlers : BusHandlers Handler := .empty
  messages : List JsonDict := []

namespace InMemoryBusTransport

variable {Handler : Type}

def send (transport : InMemoryBusTransport Handler) (message : JsonDict) : InMemoryBusTransport Handler :=
  { transport with messages := transport.messages ++ [message] }

def subscribe (transport : InMemoryBusTransport Handler) (channel : String) (handler : Handler) :
    InMemoryBusTransport Handler :=
  { transport with handlers := transport.handlers.add channel handler }

/-- The handlers that `publish` calls with the message, one after the other. -/
def publish (transport : InMemoryBusTransport Handler) (channel : String) : List Handler :=
  transport.handlers.on channel

end InMemoryBusTransport

structure Subscriber where
  wanted : List String
  subscribed : List String := []
  alive : Bool := true

structure RedisBusTransport (Handler : Type) where
  redis : Bool
  fallback : InMemoryBusTransport Handler := {}
  handlers : BusHandlers Handler := .empty
  subscriber : Option Subscriber := none

namespace RedisBusTransport

variable {Handler : Type}

def subscribe (transport : RedisBusTransport Handler) (channel : String) (handler : Handler) :
    RedisBusTransport Handler :=
  { transport with
    handlers := transport.handlers.add channel handler
    fallback := if transport.redis then transport.fallback.subscribe channel handler else transport.fallback }

def startSubscriberLoop (transport : RedisBusTransport Handler) (channels : Option (List String)) :
    RedisBusTransport Handler :=
  if transport.redis = false ∨ transport.subscriber.isSome then transport
  else
    let wanted :=
      match channels with
      | some (first :: rest) => first :: rest
      | _ => transport.handlers.entries.map Prod.fst
    if wanted = [] then transport else { transport with subscriber := some { wanted } }

theorem startSubscriberLoop_eq (transport : RedisBusTransport Handler) (channels : Option (List String)) :
    ∃ subscriber, transport.startSubscriberLoop channels = { transport with subscriber } := by
  unfold startSubscriberLoop
  dsimp only
  split_ifs <;> exact ⟨_, rfl⟩

def listen (transport : RedisBusTransport Handler) (channel : String) : Option (RedisBusTransport Handler) :=
  transport.subscriber.bind fun subscriber =>
    if subscriber.alive = true ∧ channel ∈ subscriber.wanted then
      some { transport with subscriber := some { subscriber with subscribed := subscriber.subscribed ++ [channel] } }
    else none

def loopEnds (transport : RedisBusTransport Handler) : RedisBusTransport Handler :=
  { transport with subscriber := transport.subscriber.map fun subscriber => { subscriber with alive := false } }

theorem listen_eq {transport after : RedisBusTransport Handler} {channel : String}
    (listened : transport.listen channel = some after) :
    ∃ subscriber, after = { transport with subscriber } := by
  obtain ⟨subscriber, -, listened⟩ := Option.bind_eq_some_iff.mp listened
  split_ifs at listened
  cases listened
  exact ⟨_, rfl⟩

def listening (transport : RedisBusTransport Handler) (channel : String) : Bool :=
  transport.subscriber.any fun subscriber => subscriber.alive && subscriber.subscribed.contains channel

def dispatchMessage (transport : RedisBusTransport Handler) (channel : String) : List Handler :=
  transport.handlers.on channel

end RedisBusTransport

structure KafkaBusTransport (Handler : Type) where
  fallback : InMemoryBusTransport Handler := {}
  handlers : BusHandlers Handler := .empty

namespace KafkaBusTransport

variable {Handler : Type}

def subscribe (transport : KafkaBusTransport Handler) (channel : String) (handler : Handler) :
    KafkaBusTransport Handler :=
  { handlers := transport.handlers.add channel handler
    fallback := transport.fallback.subscribe channel handler }

def enriched (channel : String) (message : JsonDict) : JsonDict := JsonDict.set message "channel" (.str channel)

end KafkaBusTransport

/-- What `get_bus_transport` returns, and the transport of a single node. -/
inductive BusTransport (Handler : Type) where
  | memory (transport : InMemoryBusTransport Handler)
  | redis (transport : RedisBusTransport Handler)
  | kafka (transport : KafkaBusTransport Handler)

inductive BusConnector where
  | memory
  | redis (reachable : Bool)
  | kafka

namespace BusTransport

variable {Handler : Type}

def initial : BusConnector → BusTransport Handler
  | .memory => memory {}
  | .redis reachable => redis { redis := reachable }
  | .kafka => kafka {}

def subscribe (transport : BusTransport Handler) (channel : String) (handler : Handler) : BusTransport Handler :=
  match transport with
  | memory transport => memory (transport.subscribe channel handler)
  | redis transport => redis (transport.subscribe channel handler)
  | kafka transport => kafka (transport.subscribe channel handler)

/-- The handlers that `publish` calls, unless the wire fails first. -/
def publish (transport : BusTransport Handler) (channel : String) : List Handler :=
  match transport with
  | memory transport => transport.publish channel
  | redis transport => transport.fallback.publish channel
  | kafka transport => transport.fallback.publish channel

def handedOver (transport : BusTransport Handler) (channel : String) (message : JsonDict) : JsonDict :=
  match transport with
  | kafka _ => KafkaBusTransport.enriched channel message
  | _ => message

end BusTransport

end CysAgi
