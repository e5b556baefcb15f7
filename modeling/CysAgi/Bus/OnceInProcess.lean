import Mathlib.Data.List.Count
import Mathlib.Data.List.Perm.Subperm
import CysAgi.Base.Transition
import CysAgi.Bus.Transport

open Py

namespace CysAgi

structure Broadcast where
  channel : String
  message : JsonDict
  before : List Nat

/-- A transport whose handlers are numbered in the order of their subscriptions, the messages
    that the loop has still to dispatch, and which handlers have been called with which. -/
structure BusSystem where
  transport : RedisBusTransport Nat
  up : Bool := true
  subscriptions : Nat := 0
  published : List Broadcast := []
  inbox : List Nat := []
  delivered : List (Nat × Nat) := []

inductive BusStep where
  | subscribe (channel : String)
  | publish (channel : String) (message : JsonDict) (failing : Option Nat)
  | startSubscriberLoop (channels : Option (List String))
  | listen (channel : String)
  | dispatch (failing : Option Nat)
  | loopEnds
  | server (up : Bool)

namespace BusSystem

def publish (s : BusSystem) (channel : String) (message : JsonDict) (failing : Option Nat) : BusSystem :=
  if s.transport.redis = true ∧ s.up = false then s
  else
    { s with
      published := s.published ++ [⟨channel, message, s.transport.handlers.on channel⟩]
      inbox := if s.transport.redis && s.transport.listening channel then s.inbox ++ [s.published.length] else s.inbox
      delivered := s.delivered ++
        (called (s.transport.fallback.publish channel) failing).map fun handler => (s.published.length, handler) }

def loopEnds (s : BusSystem) : BusSystem := { s with transport := s.transport.loopEnds, inbox := [] }

def dispatch (s : BusSystem) (failing : Option Nat) : Option BusSystem :=
  match s.inbox with
  | [] => none
  | n :: rest =>
    s.published[n]?.map fun broadcast =>
      let handlers := s.transport.dispatchMessage broadcast.channel
      let t := { s with
        inbox := rest
        delivered := s.delivered ++ (called handlers failing).map fun handler => (n, handler) }
      if failing.any fun position => position < handlers.length then t.loopEnds else t

def step (s : BusSystem) : BusStep → Option BusSystem
  | .subscribe channel => some
    { s with
      transport := s.transport.subscribe channel s.subscriptions
      subscriptions := s.subscriptions + 1 }
  | .publish channel message failing => some (s.publish channel message failing)
  | .startSubscriberLoop channels => some
    { s with transport := s.transport.startSubscriberLoop channels }
  | .listen channel => (s.transport.listen channel).map fun transport => { s with transport }
  | .dispatch failing => s.dispatch failing
  | .loopEnds => some s.loopEnds
  | .server up => some { s with up }

def DeliveredOnce (s : BusSystem) : Prop :=
  ∀ n broadcast, s.published[n]? = some broadcast → ∀ handler ∈ broadcast.before,
    s.delivered.count (n, handler) + s.inbox.count n = 1

/-- A message for somebody is published through Redis with no loop listening, and no handler
    raises before the last one. -/
def SingleRoute (s : BusSystem) : BusStep → Prop
  | .publish channel _ failing =>
    (s.transport.redis = true ∧ s.up = false) ∨ s.transport.handlers.on channel = [] ∨
      (s.transport.redis = true ∧ s.transport.listening channel = false ∧
        ∀ position, failing = some position → (s.transport.handlers.on channel).length ≤ position + 1)
  | _ => True

structure Numbered (s : BusSystem) : Prop where
  subscribed : ∀ channel, ∀ handler ∈ s.transport.handlers.on channel, handler < s.subscriptions
  nodup : ∀ channel, (s.transport.handlers.on channel).Nodup
  fallback : ∀ channel, s.transport.fallback.publish channel =
    if s.transport.redis then s.transport.handlers.on channel else []
  delivered : ∀ delivery ∈ s.delivered, delivery.1 < s.published.length
  unheard : ∀ n ∈ s.inbox, ∃ broadcast, s.published[n]? = some broadcast ∧ broadcast.before = []

section

variable {s : BusSystem}

theorem Numbered.subscribe (numbered : s.Numbered) (channel : String) :
    Numbered { s with
      transport := s.transport.subscribe channel s.subscriptions
      subscriptions := s.subscriptions + 1 } := by
  have on : ∀ other, (s.transport.subscribe channel s.subscriptions).handlers.on other =
      if other = channel then s.transport.handlers.on other ++ [s.subscriptions]
      else s.transport.handlers.on other := fun other => BusHandlers.on_add ..
  constructor
  · intro other handler member
    dsimp only at member ⊢
    rw [on] at member
    split_ifs at member
    · rcases List.mem_append.mp member with old | new
      · exact Nat.lt_succ_of_lt (numbered.subscribed other handler old)
      · rw [List.mem_singleton.mp new]
        exact Nat.lt_succ_self _
    · exact Nat.lt_succ_of_lt (numbered.subscribed other handler member)
  · intro other
    dsimp only
    rw [on]
    split_ifs
    · rw [← List.concat_eq_append, List.nodup_concat]
      refine ⟨fun member => ?_, numbered.nodup other⟩
      exact absurd (numbered.subscribed other _ member) (lt_irrefl _)
    · exact numbered.nodup other
  · intro other
    have before := numbered.fallback other
    dsimp only
    rw [on]
    cases connected : s.transport.redis with
    | true =>
      rw [connected] at before
      simp only [if_true, InMemoryBusTransport.publish] at before
      simp only [RedisBusTransport.subscribe, connected, if_true, InMemoryBusTransport.publish,
        InMemoryBusTransport.subscribe, BusHandlers.on_add, before]
    | false =>
      rw [connected] at before
      simpa [RedisBusTransport.subscribe, connected] using before
  · exact numbered.delivered
  · exact numbered.unheard

theorem Numbered.loopEnds (numbered : s.Numbered) : s.loopEnds.Numbered :=
  ⟨numbered.subscribed, numbered.nodup, numbered.fallback, numbered.delivered, by simp [BusSystem.loopEnds]⟩

theorem getElem?_snoc {α : Type} {items : List α} {new item : α} {n : Nat} :
    (items ++ [new])[n]? = some item ↔ items[n]? = some item ∨ n = items.length ∧ item = new := by
  rcases Nat.lt_trichotomy n items.length with before | rfl | after
  · rw [List.getElem?_append_left before]
    exact ⟨.inl, fun found => found.resolve_right fun last => before.ne last.1⟩
  · simp [eq_comm]
  · have outside : (items ++ [new])[n]? = none := List.getElem?_eq_none (by simpa using Nat.succ_le_of_lt after)
    rw [outside, List.getElem?_eq_none after.le]
    constructor
    · nofun
    · intro either
      rcases either with found | ⟨same, -⟩
      · cases found
      · exact absurd same after.ne'

theorem Numbered.publish {channel : String} {message : JsonDict} {failing : Option Nat} (numbered : s.Numbered)
    (single : s.SingleRoute (.publish channel message failing)) : (s.publish channel message failing).Numbered := by
  unfold BusSystem.publish
  by_cases raises : s.transport.redis = true ∧ s.up = false
  · rw [if_pos raises]
    exact numbered
  · rw [if_neg raises]
    refine { numbered with delivered := ?_, unheard := ?_ }
    · intro delivery member
      rw [List.length_append, List.length_singleton]
      rcases List.mem_append.mp member with old | new
      · exact Nat.lt_succ_of_lt (numbered.delivered delivery old)
      · obtain ⟨handler, -, rfl⟩ := List.mem_map.mp new
        exact Nat.lt_succ_self _
    · intro n member
      have old : n ∈ s.inbox → ∃ broadcast,
          (s.published ++ [⟨channel, message, s.transport.handlers.on channel⟩])[n]? = some broadcast ∧
            broadcast.before = [] := by
        intro pending
        obtain ⟨broadcast, found, nobody⟩ := numbered.unheard n pending
        exact ⟨broadcast, getElem?_snoc.mpr (.inl found), nobody⟩
      dsimp only at member ⊢
      by_cases listening : (s.transport.redis && s.transport.listening channel) = true
      · rw [if_pos listening] at member
        rcases List.mem_append.mp member with pending | new
        · exact old pending
        · rw [Bool.and_eq_true] at listening
          refine ⟨_, getElem?_snoc.mpr (.inr ⟨List.mem_singleton.mp new, rfl⟩), ?_⟩
          rcases single with down | nobody | ⟨-, deaf, -⟩
          · exact absurd down raises
          · exact nobody
          · rw [listening.2] at deaf
            cases deaf
      · rw [if_neg listening] at member
        exact old member

theorem all_called_iff {Handler : Type} {handlers : List Handler} (nodup : handlers.Nodup) (failing : Option Nat) :
    (∀ handler ∈ handlers, handler ∈ called handlers failing) ↔
      ∀ position, failing = some position → handlers.length ≤ position + 1 := by
  cases failing with
  | none => simp [called]
  | some position =>
    constructor
    · intro all position' same
      cases same
      have within := (List.subperm_of_subset nodup all).length_le
      exact within.trans (List.length_take_le _ _)
    · intro short handler member
      rwa [called, List.take_of_length_le (short position rfl)]

theorem count_deliveries (n m handler : Nat) (handlers : List Nat) :
    (handlers.map fun handler => (n, handler)).count (m, handler) =
      if m = n then handlers.count handler else 0 := by
  split_ifs with same
  · subst same
    exact List.count_map_of_injective handlers _ (fun _ _ equal => (Prod.mk.inj equal).2) handler
  · rw [List.count_eq_zero]
    intro member
    obtain ⟨other, -, equal⟩ := List.mem_map.mp member
    exact same (Prod.mk.inj equal).1.symm

theorem deliveredOnce_published_iff {channel : String} {message : JsonDict} {failing : Option Nat}
    (numbered : s.Numbered) (once : s.DeliveredOnce) (sent : ¬ (s.transport.redis = true ∧ s.up = false)) :
    (s.publish channel message failing).DeliveredOnce ↔ ∀ handler ∈ s.transport.handlers.on channel,
      (called (s.transport.fallback.publish channel) failing).count handler +
        (if s.transport.redis && s.transport.listening channel then 1 else 0) = 1 := by
  have before : ∀ n broadcast, s.published[n]? = some broadcast → n < s.published.length := fun n broadcast found =>
    (List.getElem?_eq_some_iff.mp found).1
  have undelivered : ∀ handler, s.delivered.count (s.published.length, handler) = 0 := by
    intro handler
    rw [List.count_eq_zero]
    intro member
    exact absurd (numbered.delivered _ member) (lt_irrefl _)
  have unsent : s.inbox.count s.published.length = 0 := by
    rw [List.count_eq_zero]
    intro member
    obtain ⟨broadcast, found, -⟩ := numbered.unheard _ member
    exact absurd (before _ _ found) (lt_irrefl _)
  have inbox : ∀ n, (if s.transport.redis && s.transport.listening channel then s.inbox ++ [s.published.length]
      else s.inbox).count n = s.inbox.count n +
        if n = s.published.length ∧ (s.transport.redis && s.transport.listening channel) = true then 1 else 0 := by
    intro n
    by_cases listening : (s.transport.redis && s.transport.listening channel) = true
    · rw [if_pos listening, List.count_append]
      by_cases same : n = s.published.length
      · subst same
        simp [listening]
      · have other : ¬ (s.published.length == n) = true := by simpa using Ne.symm same
        rw [List.count_singleton, if_neg other]
        simp [same]
    · rw [if_neg listening]
      simp [listening]
  unfold BusSystem.publish DeliveredOnce
  rw [if_neg sent]
  simp only [List.count_append, count_deliveries, inbox]
  constructor
  · intro all handler member
    have own := all s.published.length _ (getElem?_snoc.mpr (.inr ⟨rfl, rfl⟩)) handler member
    simpa [undelivered, unsent] using own
  · intro all n broadcast found handler member
    rcases getElem?_snoc.mp found with old | ⟨rfl, rfl⟩
    · have earlier := (before n broadcast old).ne
      simpa [earlier] using once n broadcast old handler member
    · simpa [undelivered, unsent] using all handler member

theorem deliveredOnce_publish_iff {channel : String} {message : JsonDict} {failing : Option Nat}
    (numbered : s.Numbered) (once : s.DeliveredOnce) :
    (s.publish channel message failing).DeliveredOnce ↔ s.SingleRoute (.publish channel message failing) := by
  by_cases raises : s.transport.redis = true ∧ s.up = false
  · have same : s.publish channel message failing = s := if_pos raises
    rw [same]
    exact iff_of_true once (.inl raises)
  · rw [deliveredOnce_published_iff numbered once raises, numbered.fallback channel]
    have nodup := numbered.nodup channel
    simp only [SingleRoute, raises, false_or]
    cases redis : s.transport.redis with
    | false =>
      have none : called ([] : List Nat) failing = [] := List.sublist_nil.mp (called_sublist [] failing)
      simp [none, List.eq_nil_iff_forall_not_mem]
    | true =>
      simp only [if_true, Bool.true_and, true_and]
      generalize s.transport.handlers.on channel = handlers at nodup ⊢
      have once : ∀ handler, (called handlers failing).count handler = 1 ↔ handler ∈ called handlers failing := by
        intro handler
        have most := List.nodup_iff_count_le_one.mp (nodup.sublist (called_sublist handlers failing)) handler
        rw [← List.count_pos_iff]
        omega
      cases listening : s.transport.listening channel with
      | true =>
        simp only [if_true, Nat.add_eq_right, Bool.true_eq_false, false_and, or_false]
        constructor
        · intro uncalled
          cases handlers with
          | nil => rfl
          | cons first rest =>
            have some := uncalled first List.mem_cons_self
            rw [List.count_eq_zero] at some
            exact absurd (mem_called_first first rest failing) some
        · intro equal handler member
          subst equal
          cases member
      | false =>
        simp only [Bool.false_eq_true, if_false, Nat.add_zero, once, all_called_iff nodup, true_and]
        constructor
        · exact .inr
        · intro either
          rcases either with rfl | short
          · exact fun position _ => Nat.zero_le _
          · exact short

theorem Numbered.count_inbox (numbered : s.Numbered) {n handler : Nat} {broadcast : Broadcast}
    (found : s.published[n]? = some broadcast) (member : handler ∈ broadcast.before) : s.inbox.count n = 0 := by
  rw [List.count_eq_zero]
  intro pending
  obtain ⟨same, again, nobody⟩ := numbered.unheard n pending
  rw [found] at again
  cases again
  rw [nobody] at member
  cases member

theorem deliveredOnce_loopEnds (numbered : s.Numbered) (once : s.DeliveredOnce) : s.loopEnds.DeliveredOnce := by
  intro n broadcast found handler member
  have now := once n broadcast found handler member
  rwa [numbered.count_inbox found member] at now

theorem dispatched_kept {n : Nat} {rest handlers : List Nat} (numbered : s.Numbered) (once : s.DeliveredOnce)
    (pending : s.inbox = n :: rest) :
    Numbered { s with inbox := rest, delivered := s.delivered ++ handlers.map fun handler => (n, handler) } ∧
      DeliveredOnce
        { s with inbox := rest, delivered := s.delivered ++ handlers.map fun handler => (n, handler) } := by
  obtain ⟨first, at_head, nobody⟩ := numbered.unheard n (by rw [pending]; exact List.mem_cons_self)
  constructor
  · refine { numbered with delivered := ?_, unheard := ?_ }
    · intro delivery member
      rcases List.mem_append.mp member with old | new
      · exact numbered.delivered delivery old
      · obtain ⟨handler, -, rfl⟩ := List.mem_map.mp new
        exact (List.getElem?_eq_some_iff.mp at_head).1
    · intro m member
      exact numbered.unheard m (by rw [pending]; exact List.mem_cons_of_mem n member)
  · intro m broadcast found handler member
    have now := once m broadcast found handler member
    have idle := numbered.count_inbox found member
    rw [idle] at now
    rw [pending, List.count_eq_zero] at idle
    have other : m ≠ n := fun same => idle (by rw [same]; exact List.mem_cons_self)
    have absent : rest.count m = 0 := List.count_eq_zero.mpr fun later => idle (List.mem_cons_of_mem n later)
    rw [List.count_append, count_deliveries, if_neg other, absent]
    exact now

theorem dispatch_kept {t : BusSystem} {failing : Option Nat} (numbered : s.Numbered) (once : s.DeliveredOnce)
    (taken : s.dispatch failing = some t) : t.Numbered ∧ t.DeliveredOnce := by
  unfold dispatch at taken
  cases pending : s.inbox with
  | nil =>
    rw [pending] at taken
    cases taken
  | cons n rest =>
    rw [pending] at taken
    obtain ⟨broadcast, -, rfl⟩ := Option.map_eq_some_iff.mp taken
    have kept := @dispatched_kept s n rest (called (s.transport.dispatchMessage broadcast.channel) failing)
      numbered once pending
    dsimp only
    split_ifs
    · exact ⟨kept.1.loopEnds, deliveredOnce_loopEnds kept.1 kept.2⟩
    · exact kept

theorem Numbered.with_subscriber (numbered : s.Numbered) (subscriber : Option Subscriber) :
    Numbered { s with transport := { s.transport with subscriber } } :=
  ⟨numbered.subscribed, numbered.nodup, numbered.fallback, numbered.delivered, numbered.unheard⟩

theorem Numbered.step {t : BusSystem} {action : BusStep} (numbered : s.Numbered) (once : s.DeliveredOnce)
    (single : s.SingleRoute action) (taken : s.step action = some t) : t.Numbered := by
  cases action with
  | subscribe channel =>
    cases taken
    exact numbered.subscribe channel
  | publish channel message failing =>
    cases taken
    exact numbered.publish single
  | startSubscriberLoop channels =>
    cases taken
    obtain ⟨subscriber, started⟩ := s.transport.startSubscriberLoop_eq channels
    rw [started]
    exact numbered.with_subscriber subscriber
  | listen channel =>
    obtain ⟨transport, listened, rfl⟩ := Option.map_eq_some_iff.mp taken
    obtain ⟨subscriber, rfl⟩ := RedisBusTransport.listen_eq listened
    exact numbered.with_subscriber subscriber
  | dispatch failing => exact (dispatch_kept numbered once taken).1
  | loopEnds =>
    cases taken
    exact numbered.loopEnds
  | server up =>
    cases taken
    exact { numbered with }

theorem deliveredOnce_step_iff {t : BusSystem} {action : BusStep} (numbered : s.Numbered) (once : s.DeliveredOnce)
    (taken : s.step action = some t) : t.DeliveredOnce ↔ s.SingleRoute action := by
  cases action with
  | publish channel message failing =>
    cases taken
    exact deliveredOnce_publish_iff numbered once
  | listen channel =>
    obtain ⟨transport, listened, rfl⟩ := Option.map_eq_some_iff.mp taken
    obtain ⟨subscriber, rfl⟩ := RedisBusTransport.listen_eq listened
    exact iff_of_true once trivial
  | dispatch failing => exact iff_of_true (dispatch_kept numbered once taken).2 trivial
  | loopEnds =>
    cases taken
    exact iff_of_true (deliveredOnce_loopEnds numbered once) trivial
  | _ =>
    cases taken
    exact iff_of_true once trivial

/-- In a run every message is delivered once throughout exactly when each has a single route. -/
theorem delivered_once_iff {redis : Bool} {actions : List BusStep}
    (reached : Transition.run step { transport := { redis } } actions = some s) :
    Transition.Always step DeliveredOnce { transport := { redis } } actions ↔
      Transition.Guarded step SingleRoute { transport := { redis } } actions := by
  have start : Numbered { transport := { redis } } := by
    constructor
    · simp
    · simp
    · intro channel
      cases redis <;> rfl
    · simp
    · simp
  exact Transition.always_iff_guarded Numbered
    (fun _ _ _ numbered once single taken => numbered.step once single taken)
    (fun _ _ _ numbered once taken => deliveredOnce_step_iff numbered once taken) start
    (fun n broadcast found => by simp at found) reached

end

theorem delivered_once_iff_redis :
    Transition.Always step DeliveredOnce { transport := { redis := true } }
        [.subscribe "critic", .publish "critic" [] none] ↔
      Transition.Guarded step SingleRoute { transport := { redis := true } }
        [.subscribe "critic", .publish "critic" [] none] :=
  delivered_once_iff (Option.some_get (show (Transition.run step { transport := { redis := true } }
    [.subscribe "critic", .publish "critic" [] none]).isSome = true by decide)).symm

/-- Without a server the handler is not subscribed to the transport that publishes. -/
theorem undelivered_without_redis :
    ∃ s, Transition.run step { transport := { redis := false } }
        [.subscribe "critic", .publish "critic" [] none] = some s ∧
      s.published.map Broadcast.before = [[0]] ∧ s.delivered = [] ∧ s.inbox = [] ∧ ¬ s.DeliveredOnce := by
  refine ⟨_, rfl, rfl, rfl, rfl, ?_⟩
  intro once
  have missed := once 0 _ rfl 0 (by decide)
  revert missed
  decide

end BusSystem

end CysAgi
