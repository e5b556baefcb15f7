import Mathlib.Data.List.Induction
import Mathlib.Tactic.Linarith
import CysAgi.Bus.SecureAgentBus

open Py

namespace CysAgi

inductive BusCall where
  | registerAgent (agentId : String) (trustLevel : AgentTrustLevel) (allowedRecipients : List String)
  | recordAgentFailure (agentId : String)
  | sendMessage (sender recipient type : String) (payload : JsonDict)

abbrev BusHistory := List (Rat × BusCall)

def BusPolicy.freshBus (policy : BusPolicy) : SecureAgentBus :=
  { breakerThreshold := policy.breakerFailureThreshold, breakerReset := policy.breakerResetSeconds
    escalationPaths := policy.paths }

namespace SecureAgentBus

def call (library : BusLibrary) (bus : SecureAgentBus) (entry : Rat × BusCall) : SecureAgentBus :=
  match entry.2 with
  | .registerAgent agentId trustLevel allowedRecipients => bus.registerAgent agentId trustLevel allowedRecipients
  | .recordAgentFailure agentId => bus.recordAgentFailure entry.1 agentId
  | .sendMessage sender recipient type payload => (sendMessage library entry.1 bus sender recipient type payload).1

end SecureAgentBus

def BusPolicy.busAfter (policy : BusPolicy) (library : BusLibrary) (history : BusHistory) : SecureAgentBus :=
  history.foldl (SecureAgentBus.call library) policy.freshBus

structure Registration where
  trustLevel : AgentTrustLevel
  allowedRecipients : List String

namespace BusHistory

def latestRegistration (history : BusHistory) (agentId : String) : Option Registration :=
  history.foldl
    (fun latest entry =>
      match entry.2 with
      | .registerAgent registered trustLevel allowedRecipients =>
        if registered = agentId then some { trustLevel, allowedRecipients } else latest
      | _ => latest)
    none

def failuresSince (history : BusHistory) (agentId : String) : List Rat :=
  history.foldl
    (fun times entry =>
      match entry.2 with
      | .registerAgent registered .. => if registered = agentId then [] else times
      | .recordAgentFailure failed => if failed = agentId then times ++ [entry.1] else times
      | .sendMessage .. => times)
    []

def OrderedUntil (history : BusHistory) (now : Rat) : Prop :=
  (history.map Prod.fst).Pairwise (· ≤ ·) ∧ ∀ entry ∈ history, entry.1 ≤ now

end BusHistory

open BusHistory

/-- What a message that the bus lets through owes to the calls before it. -/
structure Authorized (policy : BusPolicy) (history : BusHistory) (now : Rat) (sender recipient type : String)
    (payload : JsonDict) (registration : Registration) : Prop where
  latest : latestRegistration history sender = some registration
  listed : recipient ∈ registration.allowedRecipients
  permitted : type ∈ SecureAgentBus.allowedTypes registration.trustLevel
  healthy : (((failuresSince history sender).filter
    fun failed => now - failed < policy.breakerResetSeconds).length : Int) < policy.breakerFailureThreshold
  escalated : (sender, recipient) ∈ policy.paths → type = "escalation" ∧
    (JsonDict.getD payload "critic_approved" .null).truthy = true ∧ registration.trustLevel ≠ .untrusted

structure Tracks (reset : Int) (clock : Rat) (times : List Rat) (breaker : CircuitBreaker) : Prop where
  counted : ∃ dropped kept, times = dropped ++ kept ∧ (kept.length : Int) = breaker.failures ∧
    ∀ failed ∈ dropped, (reset : Rat) ≤ clock - failed
  latest : breaker.failureThreshold ≤ breaker.failures → ∀ failed ∈ times, failed ≤ breaker.openedAt
  past : ∀ failed ∈ times, failed ≤ clock

namespace Tracks

variable {reset : Int} {clock now : Rat} {times : List Rat} {breaker : CircuitBreaker}

theorem later (tracks : Tracks reset clock times breaker) (passed : clock ≤ now) : Tracks reset now times breaker := by
  obtain ⟨dropped, kept, split, count, past⟩ := tracks.counted
  refine ⟨⟨dropped, kept, split, count, ?_⟩, tracks.latest, ?_⟩
  · intro failed member
    have before := past failed member
    linarith
  · intro failed member
    exact le_trans (tracks.past failed member) passed

theorem fresh (none : breaker.failures = 0) : Tracks reset clock [] breaker := by
  refine ⟨⟨[], [], rfl, ?_, ?_⟩, ?_, ?_⟩
  · rw [none]
    rfl
  · intro failed member
    cases member
  · intro _ failed member
    cases member
  · intro failed member
    cases member

theorem recordFailure (tracks : Tracks reset now times breaker) :
    Tracks reset now (times ++ [now]) (breaker.recordFailure now) := by
  obtain ⟨dropped, kept, split, count, past⟩ := tracks.counted
  have all : ∀ failed ∈ times ++ [now], failed ≤ now := by
    intro failed member
    rcases List.mem_append.mp member with earlier | last
    · exact tracks.past failed earlier
    · exact le_of_eq (List.mem_singleton.mp last)
  have grown : (breaker.recordFailure now).failures = breaker.failures + 1 := by
    unfold CircuitBreaker.recordFailure
    split <;> rfl
  refine ⟨⟨dropped, kept ++ [now], ?_, ?_, past⟩, ?_, all⟩
  · rw [split, List.append_assoc]
  · rw [grown, List.length_append, List.length_singleton]
    omega
  · intro reached failed member
    have opened : (breaker.recordFailure now).openedAt = now := by
      rw [grown] at reached
      unfold CircuitBreaker.recordFailure at reached ⊢
      split
      · rfl
      · rename_i below
        rw [if_neg below] at reached
        exact absurd reached below
    rw [opened]
    exact all failed member

theorem isOpen (tracks : Tracks reset now times breaker) (positive : 1 ≤ breaker.failureThreshold)
    (timeout : breaker.recoveryTimeout = reset) : Tracks reset now times (breaker.isOpen now).1 := by
  unfold CircuitBreaker.isOpen
  by_cases below : breaker.failures < breaker.failureThreshold
  · rw [if_pos below]
    exact tracks
  · rw [if_neg below]
    by_cases past : (breaker.recoveryTimeout : Rat) ≤ now - breaker.openedAt
    · rw [if_pos past]
      refine ⟨⟨times, [], (List.append_nil times).symm, rfl, ?_⟩, ?_, tracks.past⟩
      · intro failed member
        have opened := tracks.latest (by omega) failed member
        rw [timeout] at past
        linarith
      · intro reached
        exact absurd (show breaker.failureThreshold ≤ 0 from reached) (by omega)
    · rw [if_neg past]
      exact tracks

theorem few (tracks : Tracks reset now times breaker) (closed : breaker.failures < breaker.failureThreshold) :
    ((times.filter fun failed => now - failed < reset).length : Int) < breaker.failureThreshold := by
  obtain ⟨dropped, kept, rfl, count, past⟩ := tracks.counted
  have gone : dropped.filter (fun failed => now - failed < reset) = [] := by
    rw [List.filter_eq_nil_iff]
    intro failed member recent
    have before := past failed member
    have after := of_decide_eq_true recent
    linarith
  have fewer := List.length_filter_le (fun failed : Rat => decide (now - failed < reset)) kept
  rw [List.filter_append, gone, List.nil_append]
  omega

end Tracks

structure Follows (policy : BusPolicy) (history : BusHistory) (clock : Rat) (agentId : String)
    (bus : SecureAgentBus) : Prop where
  registered : bus.agentRegistry.get? agentId = (history.latestRegistration agentId).map fun registration =>
    { trustLevel := registration.trustLevel, allowedRecipients := registration.allowedRecipients
      allowedMessageTypes := SecureAgentBus.allowedTypes registration.trustLevel }
  unknown : history.latestRegistration agentId = none → bus.circuitBreakers.get? agentId = none
  tracked : ∀ registration, history.latestRegistration agentId = some registration → ∃ breaker,
    bus.circuitBreakers.get? agentId = some breaker ∧ breaker.failureThreshold = policy.breakerFailureThreshold ∧
    breaker.recoveryTimeout = policy.breakerResetSeconds ∧
    Tracks policy.breakerResetSeconds clock (history.failuresSince agentId) breaker

structure SameSettings (policy : BusPolicy) (bus : SecureAgentBus) : Prop where
  threshold : bus.breakerThreshold = policy.breakerFailureThreshold
  reset : bus.breakerReset = policy.breakerResetSeconds
  paths : bus.escalationPaths = policy.paths

section

variable {library : BusLibrary} {policy : BusPolicy} {history : BusHistory} {bus : SecureAgentBus}
variable {now clock : Rat} {agentId : String}

theorem CircuitBreaker.isOpen_settings (now : Rat) (breaker : CircuitBreaker) :
    (breaker.isOpen now).1.failureThreshold = breaker.failureThreshold ∧
      (breaker.isOpen now).1.recoveryTimeout = breaker.recoveryTimeout := by
  unfold CircuitBreaker.isOpen
  split_ifs <;> exact ⟨rfl, rfl⟩

theorem CircuitBreaker.recordFailure_settings (now : Rat) (breaker : CircuitBreaker) :
    (breaker.recordFailure now).failureThreshold = breaker.failureThreshold ∧
      (breaker.recordFailure now).recoveryTimeout = breaker.recoveryTimeout := by
  unfold CircuitBreaker.recordFailure
  split_ifs <;> exact ⟨rfl, rfl⟩

theorem breakerOpen_fields (bus : SecureAgentBus) (now : Rat) (asked : String) :
    (bus.breakerOpen now asked).1.agentRegistry = bus.agentRegistry ∧
      ((bus.breakerOpen now asked).1.breakerThreshold = bus.breakerThreshold ∧
        (bus.breakerOpen now asked).1.breakerReset = bus.breakerReset ∧
        (bus.breakerOpen now asked).1.escalationPaths = bus.escalationPaths) ∧
      ∀ agentId, (bus.breakerOpen now asked).1.circuitBreakers.get? agentId =
        if agentId = asked then (bus.circuitBreakers.get? agentId).map fun breaker => (breaker.isOpen now).1
        else bus.circuitBreakers.get? agentId := by
  unfold SecureAgentBus.breakerOpen
  cases found : bus.circuitBreakers.get? asked with
  | none =>
    refine ⟨rfl, ⟨rfl, rfl, rfl⟩, ?_⟩
    intro agentId
    by_cases same : agentId = asked
    · rw [if_pos same, same, found]
      rfl
    · rw [if_neg same]
  | some breaker =>
    refine ⟨rfl, ⟨rfl, rfl, rfl⟩, ?_⟩
    intro agentId
    dsimp only
    rw [Dict.get?_set]
    by_cases same : agentId = asked
    · rw [if_pos same, if_pos same, same, found]
      rfl
    · rw [if_neg same, if_neg same]

theorem sendMessage_bus (library : BusLibrary) (now : Rat) (bus : SecureAgentBus) (sender recipient type : String)
    (payload : JsonDict) : ∃ events,
    (SecureAgentBus.sendMessage library now bus sender recipient type payload).1 =
      match bus.agentRegistry.get? sender with
      | none => bus
      | some _ => { (bus.breakerOpen now sender).1 with securityEvents := events } := by
  unfold SecureAgentBus.sendMessage
  cases bus.agentRegistry.get? sender with
  | none => exact ⟨[], rfl⟩
  | some info =>
    dsimp only
    split_ifs <;> exact ⟨_, rfl⟩

namespace Follows

theorem later (follows : Follows policy history clock agentId bus) (passed : clock ≤ now) :
    Follows policy history now agentId bus := by
  refine ⟨follows.registered, follows.unknown, ?_⟩
  intro registration latest
  obtain ⟨breaker, found, threshold, timeout, tracks⟩ := follows.tracked registration latest
  exact ⟨breaker, found, threshold, timeout, tracks.later passed⟩

theorem unrelated {entry : Rat × BusCall} {after : SecureAgentBus} (follows : Follows policy history now agentId bus)
    (latest : latestRegistration (history ++ [entry]) agentId = latestRegistration history agentId)
    (failures : failuresSince (history ++ [entry]) agentId = failuresSince history agentId)
    (registry : after.agentRegistry.get? agentId = bus.agentRegistry.get? agentId)
    (breakers : after.circuitBreakers.get? agentId = bus.circuitBreakers.get? agentId) :
    Follows policy (history ++ [entry]) now agentId after := by
  constructor
  · rw [registry, latest]
    exact follows.registered
  · rw [breakers, latest]
    exact follows.unknown
  · rw [breakers, latest, failures]
    exact follows.tracked

theorem moved {entry : Rat × BusCall} {after : SecureAgentBus} (follows : Follows policy history now agentId bus)
    (latest : latestRegistration (history ++ [entry]) agentId = latestRegistration history agentId)
    (registry : after.agentRegistry.get? agentId = bus.agentRegistry.get? agentId) (f : CircuitBreaker → CircuitBreaker)
    (breakers : after.circuitBreakers.get? agentId = (bus.circuitBreakers.get? agentId).map f)
    (settings : ∀ breaker, (f breaker).failureThreshold = breaker.failureThreshold ∧
      (f breaker).recoveryTimeout = breaker.recoveryTimeout)
    (tracks : ∀ breaker, breaker.failureThreshold = policy.breakerFailureThreshold →
      breaker.recoveryTimeout = policy.breakerResetSeconds →
      Tracks policy.breakerResetSeconds now (failuresSince history agentId) breaker →
      Tracks policy.breakerResetSeconds now (failuresSince (history ++ [entry]) agentId) (f breaker)) :
    Follows policy (history ++ [entry]) now agentId after := by
  constructor
  · rw [registry, latest]
    exact follows.registered
  · intro none
    rw [latest] at none
    rw [breakers, follows.unknown none]
    rfl
  · intro registration same
    rw [latest] at same
    obtain ⟨breaker, found, threshold, timeout, tracked⟩ := follows.tracked registration same
    refine ⟨f breaker, ?_, (settings breaker).1.trans threshold, (settings breaker).2.trans timeout, ?_⟩
    · rw [breakers, found]
      rfl
    · exact tracks breaker threshold timeout tracked

theorem registerAgent (settings : SameSettings policy bus) (follows : Follows policy history now agentId bus)
    (registered : String) (trustLevel : AgentTrustLevel) (allowedRecipients : List String) :
    Follows policy (history ++ [(now, .registerAgent registered trustLevel allowedRecipients)]) now agentId
      (bus.registerAgent registered trustLevel allowedRecipients) := by
  by_cases own : registered = agentId
  · have latest : latestRegistration (history ++ [(now, .registerAgent registered trustLevel allowedRecipients)])
        agentId = some { trustLevel, allowedRecipients } := by
      unfold latestRegistration
      rw [List.foldl_append]
      exact if_pos own
    have failures : failuresSince (history ++ [(now, .registerAgent registered trustLevel allowedRecipients)])
        agentId = [] := by
      unfold failuresSince
      rw [List.foldl_append]
      exact if_pos own
    subst own
    constructor
    · rw [latest]
      exact Dict.get?_set_self _ _ _
    · rw [latest]
      intro none
      cases none
    · intro registration same
      refine ⟨_, Dict.get?_set_self _ _ _, settings.threshold, settings.reset, ?_⟩
      rw [failures]
      exact Tracks.fresh rfl
  · apply follows.unrelated
    · unfold latestRegistration
      rw [List.foldl_append]
      exact if_neg own
    · unfold failuresSince
      rw [List.foldl_append]
      exact if_neg own
    · exact Dict.get?_set_of_ne _ _ (Ne.symm own)
    · exact Dict.get?_set_of_ne _ _ (Ne.symm own)

theorem recordAgentFailure (follows : Follows policy history now agentId bus) (failed : String) :
    Follows policy (history ++ [(now, .recordAgentFailure failed)]) now agentId
      (bus.recordAgentFailure now failed) := by
  have latest : latestRegistration (history ++ [(now, .recordAgentFailure failed)]) agentId =
      latestRegistration history agentId := by
    unfold latestRegistration
    rw [List.foldl_append]
    rfl
  by_cases own : failed = agentId
  · have failures : failuresSince (history ++ [(now, .recordAgentFailure failed)]) agentId =
        failuresSince history agentId ++ [now] := by
      unfold failuresSince
      rw [List.foldl_append]
      exact if_pos own
    subst own
    refine follows.moved latest rfl (fun breaker => breaker.recordFailure now) ?_
      (CircuitBreaker.recordFailure_settings now) ?_
    · show (bus.circuitBreakers.modify failed _).get? failed = _
      rw [Dict.get?_modify, if_pos rfl]
    · intro breaker _ _ tracks
      rw [failures]
      exact tracks.recordFailure
  · apply follows.unrelated latest
    · unfold failuresSince
      rw [List.foldl_append]
      exact if_neg own
    · rfl
    · show (bus.circuitBreakers.modify failed _).get? agentId = _
      rw [Dict.get?_modify, if_neg (Ne.symm own)]

theorem sendMessage (positive : 1 ≤ policy.breakerFailureThreshold) (follows : Follows policy history now agentId bus)
    (library : BusLibrary) (sender recipient type : String) (payload : JsonDict) :
    Follows policy (history ++ [(now, .sendMessage sender recipient type payload)]) now agentId
      (SecureAgentBus.sendMessage library now bus sender recipient type payload).1 := by
  have latest : latestRegistration (history ++ [(now, .sendMessage sender recipient type payload)]) agentId =
      latestRegistration history agentId := by
    unfold latestRegistration
    rw [List.foldl_append]
    rfl
  have failures : failuresSince (history ++ [(now, .sendMessage sender recipient type payload)]) agentId =
      failuresSince history agentId := by
    unfold failuresSince
    rw [List.foldl_append]
    rfl
  obtain ⟨events, changed⟩ := sendMessage_bus library now bus sender recipient type payload
  rw [changed]
  cases known : bus.agentRegistry.get? sender with
  | none => exact follows.unrelated latest failures rfl rfl
  | some info =>
    obtain ⟨registry, -, breakers⟩ := breakerOpen_fields bus now sender
    have kept := congrArg (Dict.get? · agentId) registry
    by_cases own : agentId = sender
    · have asked := breakers agentId
      rw [if_pos own] at asked
      refine follows.moved latest kept (fun breaker => (breaker.isOpen now).1) asked
        (CircuitBreaker.isOpen_settings now) ?_
      intro breaker threshold timeout tracks
      rw [failures]
      exact tracks.isOpen (by omega) timeout
    · have other := breakers agentId
      rw [if_neg own] at other
      exact follows.unrelated latest failures kept other

end Follows

theorem sameSettings_call (settings : SameSettings policy bus) (library : BusLibrary) (entry : Rat × BusCall) :
    SameSettings policy (bus.call library entry) := by
  unfold SecureAgentBus.call
  cases entry.2 with
  | registerAgent agentId trustLevel allowedRecipients => exact ⟨settings.threshold, settings.reset, settings.paths⟩
  | recordAgentFailure agentId => exact ⟨settings.threshold, settings.reset, settings.paths⟩
  | sendMessage sender recipient type payload =>
    obtain ⟨events, changed⟩ := sendMessage_bus library entry.1 bus sender recipient type payload
    dsimp only
    rw [changed]
    cases bus.agentRegistry.get? sender with
    | none => exact settings
    | some info =>
      obtain ⟨-, ⟨threshold, reset, paths⟩, -⟩ := breakerOpen_fields bus entry.1 sender
      exact ⟨threshold.trans settings.threshold, reset.trans settings.reset, paths.trans settings.paths⟩

theorem follows_call (positive : 1 ≤ policy.breakerFailureThreshold) (settings : SameSettings policy bus)
    (library : BusLibrary) (call : BusCall) (follows : Follows policy history now agentId bus) :
    Follows policy (history ++ [(now, call)]) now agentId (bus.call library (now, call)) := by
  cases call with
  | registerAgent registered trustLevel allowedRecipients =>
    exact follows.registerAgent settings registered trustLevel allowedRecipients
  | recordAgentFailure failed => exact follows.recordAgentFailure failed
  | sendMessage sender recipient type payload =>
    exact follows.sendMessage positive library sender recipient type payload

theorem follows_history (positive : 1 ≤ policy.breakerFailureThreshold) (library : BusLibrary)
    (ordered : history.OrderedUntil now) (agentId : String) :
    SameSettings policy (policy.busAfter library history) ∧
      Follows policy history now agentId (policy.busAfter library history) := by
  induction history using List.reverseRecOn generalizing now with
  | nil =>
    refine ⟨⟨rfl, rfl, rfl⟩, rfl, fun _ => rfl, ?_⟩
    intro registration none
    cases none
  | append_singleton history entry ih =>
    obtain ⟨times, last⟩ := ordered
    rw [List.map_append, List.pairwise_append] at times
    have earlier : OrderedUntil history entry.1 := by
      refine ⟨times.1, ?_⟩
      intro other member
      exact times.2.2 other.1 (List.mem_map_of_mem member) entry.1 (List.mem_singleton_self _)
    obtain ⟨settings, follows⟩ := ih earlier
    have reached : policy.busAfter library (history ++ [entry]) =
        (policy.busAfter library history).call library entry :=
      List.foldl_concat ..
    rw [reached]
    refine ⟨sameSettings_call settings library entry, ?_⟩
    exact (follows_call positive settings library entry.2 follows).later (last entry (by simp))

theorem sendMessage_agentRegistry (library : BusLibrary) (now : Rat) (bus : SecureAgentBus)
    (sender recipient type : String) (payload : JsonDict) :
    (SecureAgentBus.sendMessage library now bus sender recipient type payload).1.agentRegistry =
      bus.agentRegistry := by
  obtain ⟨events, changed⟩ := sendMessage_bus library now bus sender recipient type payload
  rw [changed]
  cases bus.agentRegistry.get? sender with
  | none => rfl
  | some info => exact (breakerOpen_fields bus now sender).1

theorem healthy_of_closed {registration : Registration} (positive : 1 ≤ policy.breakerFailureThreshold)
    (follows : Follows policy history now agentId bus)
    (latest : history.latestRegistration agentId = some registration)
    (closed : (bus.breakerOpen now agentId).2 = false) :
    (((history.failuresSince agentId).filter
      fun failed => now - failed < policy.breakerResetSeconds).length : Int) < policy.breakerFailureThreshold := by
  obtain ⟨breaker, found, threshold, timeout, tracks⟩ := follows.tracked registration latest
  unfold SecureAgentBus.breakerOpen at closed
  rw [found] at closed
  have answer : (breaker.isOpen now).2 = false := closed
  have asked := tracks.isOpen (by omega) timeout
  have below : (breaker.isOpen now).1.failures < (breaker.isOpen now).1.failureThreshold ∧
      (breaker.isOpen now).1.failureThreshold = policy.breakerFailureThreshold := by
    unfold CircuitBreaker.isOpen at answer ⊢
    split_ifs at answer ⊢ with few past
    · exact ⟨few, threshold⟩
    · refine ⟨?_, threshold⟩
      show 0 < breaker.failureThreshold
      omega
  have few := asked.few below.1
  rw [below.2] at few
  exact few

end

/-- Whatever the bus lets through is authorized by the calls before it, and no send changes the
    registry. -/
theorem sent_authorized (library : BusLibrary) (policy : BusPolicy) (positive : 1 ≤ policy.breakerFailureThreshold)
    (history : BusHistory) (now : Rat) (ordered : history.OrderedUntil now) (sender recipient type : String)
    (payload : JsonDict) :
    ((policy.busAfter library history).sendMessage library now sender recipient type payload).1.agentRegistry =
        (policy.busAfter library history).agentRegistry ∧
      ∀ message,
        ((policy.busAfter library history).sendMessage library now sender recipient type payload).2 = .ok message →
        (JsonDict.get? message "sender" = some (.str sender) ∧
          JsonDict.get? message "recipient" = some (.str recipient) ∧
          JsonDict.get? message "type" = some (.str type)) ∧
        ∃ registration, Authorized policy history now sender recipient type payload registration := by
  refine ⟨sendMessage_agentRegistry library now _ sender recipient type payload, ?_⟩
  intro message sent
  obtain ⟨settings, follows⟩ := follows_history positive library ordered sender
  obtain ⟨info, ⟨registered, closed, listed, permitted, approved⟩, rfl⟩ :=
    SecureAgentBus.sendMessage_ok_iff.mp sent
  refine ⟨⟨rfl, rfl, rfl⟩, ?_⟩
  rw [follows.registered] at registered
  obtain ⟨registration, latest, rfl⟩ := Option.map_eq_some_iff.mp registered
  refine ⟨registration, latest, listed, permitted, healthy_of_closed positive follows latest closed, ?_⟩
  intro path
  rw [← settings.paths] at path
  obtain ⟨escalates, trusted⟩ := approved path
  refine ⟨escalates, trusted, ?_⟩
  intro untrusted
  rw [escalates, untrusted] at permitted
  have finding : "escalation" ∈ ["finding"] := permitted
  exact absurd finding (by decide)

def sampleHistory : BusHistory :=
  [(0, .registerAgent "soc" .internal ["redteam"]), (10, .recordAgentFailure "soc"),
    (20, .sendMessage "soc" "redteam" "finding" [])]

def approvedPayload : JsonDict := [("critic_approved", .bool true)]

theorem sampleHistory_ordered : OrderedUntil sampleHistory 30 := by
  constructor
  · decide +kernel
  · decide +kernel

def approvedMessage : JsonDict :=
  SecureAgentBus.envelope plainLibrary 30
    { trustLevel := .internal, allowedRecipients := ["redteam"], allowedMessageTypes := ["finding", "escalation"] }
    "soc" "redteam" "escalation" approvedPayload

theorem approved_sent : ((BusPolicy.busAfter {} plainLibrary sampleHistory).sendMessage plainLibrary 30 "soc" "redteam"
    "escalation" approvedPayload).2 = .ok approvedMessage := by
  decide +kernel

theorem approved_authorized :
    ∃ registration, Authorized {} sampleHistory 30 "soc" "redteam" "escalation" approvedPayload registration :=
  ((sent_authorized plainLibrary {} (by decide) sampleHistory 30 sampleHistory_ordered "soc" "redteam" "escalation"
    approvedPayload).2 approvedMessage approved_sent).2

end CysAgi
