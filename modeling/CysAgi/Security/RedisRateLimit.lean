import Mathlib.Data.Rat.Floor
import CysAgi.Base.JsonText
import CysAgi.Base.Transition
import CysAgi.Budget.Delegation
import CysAgi.Security.RateLimit

namespace CysAgi

open Py SlidingWindow Readable

structure SortedSet where
  members : List (String × Int) := []
  expires : Option Rat := none

namespace SortedSet

def zremrangebyscore (set : SortedSet) (low high : Int) : SortedSet :=
  { set with members := set.members.filter fun entry => ¬ (low ≤ entry.2 ∧ entry.2 ≤ high) }

def zadd (set : SortedSet) (member : String) (score : Int) : SortedSet :=
  { set with members := set.members.filter (fun entry => entry.1 ≠ member) ++ [(member, score)] }

def zcard (set : SortedSet) : Int := set.members.length

/-- `EXPIRE`; a time to live that is not positive deletes the key. -/
def expire (set : SortedSet) (now : Rat) (seconds : Int) : SortedSet :=
  if seconds ≤ 0 then {} else { set with expires := some (now + seconds) }

def expired (set : SortedSet) (now : Rat) : Bool :=
  match set.expires with
  | none => false
  | some time => time < now

end SortedSet

abbrev RedisServer := Dict String SortedSet

/-- `str(now)`. -/
def secondText (second : Int) : String := String.ofList (intText second)

namespace RedisServer

def read (server : RedisServer) (now : Rat) (key : String) : SortedSet :=
  match server.get? key with
  | none => {}
  | some set => if set.expired now then {} else set

def bucketKey (key : String) : String := "cys:rate:" ++ key

def counted (server : RedisServer) (windowSeconds : Int) (time : Rat) (key : String) : SortedSet :=
  let now := intOf time
  ((server.read time (bucketKey key)).zremrangebyscore 0 (now - windowSeconds)).zadd (secondText now) now

/-- The pipeline of `allow` and of `aallow`. -/
def allow (server : RedisServer) (maxCalls windowSeconds : Int) (time : Rat) (key : String) : RedisServer × Bool :=
  let set := server.counted windowSeconds time key
  (server.set (bucketKey key) (set.expire time (windowSeconds + 1)), set.zcard ≤ maxCalls)

end RedisServer

/-- The limiter, with whether its client and its async client reach the server. -/
structure RedisRateLimiter where
  maxCalls : Int
  windowSeconds : Int
  fallback : InMemoryRateLimiter
  redis : Bool
  asyncRedis : Bool

namespace RedisRateLimiter

/-- `max_calls or settings.max_tool_calls_per_minute`. -/
def new (maxToolCallsPerMinute : Int) (maxCalls : Option Int) (windowSeconds : Int) (redis asyncRedis : Bool) :
    RedisRateLimiter :=
  let most := match maxCalls with
    | none => maxToolCallsPerMinute
    | some maxCalls => if maxCalls = 0 then maxToolCallsPerMinute else maxCalls
  { maxCalls := most, windowSeconds, fallback := { maxCalls := most, windowSeconds }, redis, asyncRedis }

/-- Whether `aallow`, when awaited, or else `allow` asks the server. -/
def asksRedis (limiter : RedisRateLimiter) (awaited : Bool) : Bool :=
  if awaited then limiter.asyncRedis else limiter.redis

def allow (limiter : RedisRateLimiter) (server : RedisServer) (awaited : Bool) (time : Rat) (key : String) :
    (RedisRateLimiter × RedisServer) × Bool :=
  if limiter.asksRedis awaited then
    let answer := server.allow limiter.maxCalls limiter.windowSeconds time key
    ((limiter, answer.1), answer.2)
  else
    let answer := limiter.fallback.allow time key
    (({ limiter with fallback := answer.1 }, server), answer.2)

end RedisRateLimiter

structure Admission extends RateCall where
  stored : Bool

structure LimiterCall extends RateCall where
  awaited : Bool := false

structure LimiterRun where
  limiter : RedisRateLimiter
  server : RedisServer := .empty
  clock : Rat := 0
  admitted : List Admission := []

namespace LimiterRun

def answer (run : LimiterRun) (call : LimiterCall) : (RedisRateLimiter × RedisServer) × Bool :=
  run.limiter.allow run.server call.awaited call.time call.key

def step (run : LimiterRun) (call : LimiterCall) : Option LimiterRun :=
  if run.clock ≤ call.time then
    some {
      limiter := (run.answer call).1.1
      server := (run.answer call).1.2
      clock := call.time
      admitted := if (run.answer call).2 then
          run.admitted ++ [{ call.toRateCall with stored := run.limiter.asksRedis call.awaited }]
        else run.admitted }
  else none

def times (run : LimiterRun) (key : String) : List Rat := timesOf key (run.admitted.map Admission.toRateCall)

def WithinLimit (run : LimiterRun) : Prop :=
  ∀ key start, ((inside (run.limiter.windowSeconds : Rat) start (run.times key)).length : Int) ≤ run.limiter.maxCalls

/-- The admitted calls of the key that are no older than the window were counted where this call is, and on the server
    in other seconds, none of them exactly the window away. -/
def CountedApart (run : LimiterRun) (call : LimiterCall) : Prop :=
  ∀ earlier ∈ run.admitted, earlier.key = call.key → call.time - earlier.time ≤ run.limiter.windowSeconds →
    earlier.stored = run.limiter.asksRedis call.awaited ∧
      (earlier.stored = true → intOf earlier.time ≠ intOf call.time ∧
        intOf earlier.time ≠ intOf call.time - run.limiter.windowSeconds)

section

variable {time : Rat}

theorem intOf_eq_floor (epoch : 0 ≤ time) : intOf time = ⌊time⌋ := by
  rw [intOf, Rat.floor_def', Int.tdiv_eq_ediv_of_nonneg (Rat.num_nonneg.mpr epoch)]

theorem intOf_mono {later : Rat} (epoch : 0 ≤ time) (passed : time ≤ later) : intOf time ≤ intOf later := by
  rw [intOf_eq_floor epoch, intOf_eq_floor (le_trans epoch passed)]
  exact Int.floor_mono passed

theorem intOf_le (epoch : 0 ≤ time) : (intOf time : Rat) ≤ time := by
  rw [intOf_eq_floor epoch]
  exact Int.floor_le time

theorem lt_intOf_succ (epoch : 0 ≤ time) : time < intOf time + 1 := by
  rw [intOf_eq_floor epoch]
  exact Int.lt_floor_add_one time

theorem intOf_recent {now : Rat} {window : Int} (epoch : 0 ≤ time) (past : time ≤ now)
    (recent : now - time ≤ window) : intOf now - window ≤ intOf time := by
  have within : now - window ≤ time := by linarith
  rw [intOf_eq_floor epoch, intOf_eq_floor (le_trans epoch past), ← Int.floor_sub_intCast]
  exact Int.floor_mono within

end

theorem secondText_inj {m n : Int} (same : secondText m = secondText n) : m = n :=
  intText_inj (String.ofList_inj.mp same)

theorem bucketKey_inj {key other : String} (same : RedisServer.bucketKey key = RedisServer.bucketKey other) :
    key = other := by
  have texts := congrArg String.toList same
  simp only [RedisServer.bucketKey, String.toList_append] at texts
  exact String.toList_inj.mp (List.append_cancel_left texts)

def Held (server : RedisServer) (windowSeconds : Int) (call : RateCall) : Prop :=
  ∃ set, server.get? (RedisServer.bucketKey call.key) = some set ∧
    (secondText (intOf call.time), intOf call.time) ∈ set.members ∧
    ∀ expires, set.expires = some expires → call.time + windowSeconds + 1 ≤ expires

section

variable {server : RedisServer} {windowSeconds : Int} {call : RateCall} {now : Rat}

theorem Held.read (held : Held server windowSeconds call) (epoch : 0 ≤ call.time) (past : call.time ≤ now)
    (young : intOf now < intOf call.time + windowSeconds) :
    (secondText (intOf call.time), intOf call.time) ∈
      (server.read now (RedisServer.bucketKey call.key)).members := by
  obtain ⟨set, found, member, expiry⟩ := held
  have alive : set.expired now = false := by
    unfold SortedSet.expired
    cases expires : set.expires with
    | none => rfl
    | some moment =>
      have late := expiry moment expires
      have next : now < intOf now + 1 := lt_intOf_succ (le_trans epoch past)
      have second : (intOf call.time : Rat) ≤ call.time := intOf_le epoch
      have sooner : (intOf now : Rat) + 1 ≤ intOf call.time + windowSeconds := by exact_mod_cast young
      apply decide_eq_false
      linarith
  rw [RedisServer.read, found]
  simp only [alive, Bool.false_eq_true, if_false]
  exact member

theorem Held.counted (held : Held server windowSeconds call) (epoch : 0 ≤ call.time) (past : call.time ≤ now)
    (young : intOf now < intOf call.time + windowSeconds) :
    (secondText (intOf call.time), intOf call.time) ∈ (server.counted windowSeconds now call.key).members := by
  have member := held.read epoch past young
  unfold RedisServer.counted SortedSet.zadd SortedSet.zremrangebyscore
  simp only [List.mem_append, List.mem_filter, List.mem_singleton]
  by_cases same : intOf call.time = intOf now
  · right
    rw [same]
  · left
    refine ⟨⟨member, decide_eq_true ?_⟩, decide_eq_true ?_⟩
    · rintro ⟨-, old⟩
      omega
    · intro texts
      exact same (secondText_inj texts)

theorem now_counted (server : RedisServer) (windowSeconds : Int) (now : Rat) (key : String) :
    (secondText (intOf now), intOf now) ∈ (server.counted windowSeconds now key).members := by
  unfold RedisServer.counted SortedSet.zadd
  simp

theorem held_of_counted {key : String} (own : call.key = key) (past : call.time ≤ now) (lasting : 0 < windowSeconds + 1)
    (member : (secondText (intOf call.time), intOf call.time) ∈ (server.counted windowSeconds now key).members)
    (maxCalls : Int) : Held (server.allow maxCalls windowSeconds now key).1 windowSeconds call := by
  subst own
  have positive : ¬ windowSeconds + 1 ≤ 0 := by omega
  refine ⟨(server.counted windowSeconds now call.key).expire now (windowSeconds + 1), Dict.get?_set_self .., ?_, ?_⟩
  · rw [SortedSet.expire, if_neg positive]
    exact member
  · intro expires given
    rw [SortedSet.expire, if_neg positive] at given
    have moment : now + ((windowSeconds + 1 : Int) : Rat) = expires := Option.some.inj given
    rw [← moment]
    push_cast
    linarith

theorem Held.allow (held : Held server windowSeconds call) (epoch : 0 ≤ call.time) (past : call.time ≤ now)
    (young : intOf now < intOf call.time + windowSeconds) (maxCalls : Int) (key : String) :
    Held (server.allow maxCalls windowSeconds now key).1 windowSeconds call := by
  by_cases own : call.key = key
  · have order := intOf_mono epoch past
    have member := held.counted epoch past young
    rw [own] at member
    exact held_of_counted own past (by omega) member maxCalls
  · obtain ⟨set, found, member, expiry⟩ := held
    refine ⟨set, ?_, member, expiry⟩
    rw [← found]
    exact Dict.get?_set_of_ne _ _ fun same => own (bucketKey_inj same)

theorem held_now (server : RedisServer) (lasting : 0 < windowSeconds) (maxCalls : Int) :
    Held (server.allow maxCalls windowSeconds call.time call.key).1 windowSeconds call :=
  held_of_counted rfl (le_refl _) (by omega) (now_counted server windowSeconds call.time call.key) maxCalls

end

def Apart (windowSeconds : Int) (earlier call : Admission) : Prop :=
  earlier.key = call.key → call.time - earlier.time ≤ windowSeconds →
    earlier.stored = call.stored ∧ (earlier.stored = true →
      intOf earlier.time ≠ intOf call.time ∧ intOf earlier.time ≠ intOf call.time - windowSeconds)

def fallbackTimes (run : LimiterRun) (key : String) : List Rat :=
  timesOf key ((run.admitted.filter fun call => !call.stored).map Admission.toRateCall)

structure Accounted (run : LimiterRun) : Prop where
  epoch : 0 ≤ run.clock
  past : ∀ call ∈ run.admitted, 0 ≤ call.time ∧ call.time ≤ run.clock
  held : ∀ call ∈ run.admitted, call.stored = true →
    intOf run.clock < intOf call.time + run.limiter.windowSeconds →
      Held run.server run.limiter.windowSeconds call.toRateCall
  apart : run.admitted.Pairwise (Apart run.limiter.windowSeconds)
  settings : run.limiter.fallback.maxCalls = run.limiter.maxCalls ∧
    run.limiter.fallback.windowSeconds = run.limiter.windowSeconds
  remembers : ∀ key, InMemoryRateLimiter.Remembers run.limiter.windowSeconds run.clock (run.fallbackTimes key)
    (run.limiter.fallback.bucket key)
  within : run.WithinLimit

def young (run : LimiterRun) (call : LimiterCall) : List Admission :=
  run.admitted.filter fun earlier => earlier.key = call.key ∧ call.time - earlier.time ≤ run.limiter.windowSeconds

section

variable {run next : LimiterRun} {call : LimiterCall}

theorem mem_young {earlier : Admission} : earlier ∈ run.young call ↔
    earlier ∈ run.admitted ∧ earlier.key = call.key ∧
      call.time - earlier.time ≤ run.limiter.windowSeconds := by
  simp [young]

theorem recent_times : (recent (run.limiter.windowSeconds : Rat) call.time (run.times call.key)).length =
    (run.young call).length := by
  simp only [recent, times, timesOf, young, List.filter_map, List.length_map, List.filter_filter, Function.comp_def]
  congr 1
  apply List.filter_congr
  intro earlier _
  rw [← Bool.decide_and, decide_eq_decide, and_comm]

theorem recent_fallbackTimes (unstored : ∀ earlier ∈ run.young call, earlier.stored = false) :
    (recent (run.limiter.windowSeconds : Rat) call.time (run.fallbackTimes call.key)).length =
      (run.young call).length := by
  simp only [recent, fallbackTimes, timesOf, young, List.filter_map, List.length_map, List.filter_filter,
    Function.comp_def]
  congr 1
  apply List.filter_congr
  intro earlier member
  by_cases recent : earlier.key = call.key ∧ call.time - earlier.time ≤ run.limiter.windowSeconds
  · simp [recent, unstored earlier (mem_young.mpr ⟨member, recent⟩)]
  · rcases not_and_or.mp recent with other | old
    · simp [other]
    · simp [old]

theorem fallback_room (accounted : Accounted run) (apart : run.CountedApart call) (later : run.clock ≤ call.time)
    (asks : run.limiter.asksRedis call.awaited = false) (admitted : (run.answer call).2 = true) :
    ((run.young call).length : Int) < run.limiter.maxCalls := by
  have unstored : ∀ earlier ∈ run.young call, earlier.stored = false := by
    intro earlier member
    obtain ⟨listed, own, recent⟩ := mem_young.mp member
    exact (apart earlier listed own recent).1.trans asks
  have remembers := (accounted.remembers call.key).later later
  unfold answer RedisRateLimiter.allow at admitted
  rw [asks] at admitted
  have room : (run.limiter.fallback.allow call.time call.key).2 = true := admitted
  rw [InMemoryRateLimiter.allow_answer, InMemoryRateLimiter.pruned, accounted.settings.1, accounted.settings.2,
    remembers.recent_bucket, recent_fallbackTimes unstored] at room
  exact of_decide_eq_true room

theorem young_seconds (accounted : Accounted run) (apart : run.CountedApart call) (later : run.clock ≤ call.time)
    (asks : run.limiter.asksRedis call.awaited = true) :
    (run.young call).Pairwise fun earlier other => intOf earlier.time ≠ intOf other.time := by
  have pairs : (run.young call).Pairwise (Apart run.limiter.windowSeconds) := accounted.apart.filter _
  refine pairs.imp_of_mem ?_
  intro earlier other member otherMember pair
  obtain ⟨listed, own, recent⟩ := mem_young.mp member
  obtain ⟨otherListed, otherOwn, -⟩ := mem_young.mp otherMember
  have stored : earlier.stored = true := (apart earlier listed own recent).1.trans asks
  have past := (accounted.past other otherListed).2
  have close : other.time - earlier.time ≤ run.limiter.windowSeconds := by linarith
  exact ((pair (own.trans otherOwn.symm) close).2 stored).1

theorem redis_room (accounted : Accounted run) (apart : run.CountedApart call) (later : run.clock ≤ call.time)
    (asks : run.limiter.asksRedis call.awaited = true) (admitted : (run.answer call).2 = true) :
    ((run.young call).length : Int) < run.limiter.maxCalls := by
  let entry := fun earlier : Admission => (secondText (intOf earlier.time), intOf earlier.time)
  let members := (run.server.counted run.limiter.windowSeconds call.time call.key).members
  have seconds : ∀ earlier ∈ run.young call, intOf earlier.time ≠ intOf call.time ∧ entry earlier ∈ members := by
    intro earlier member
    obtain ⟨listed, own, recent⟩ := mem_young.mp member
    obtain ⟨stored, distinct⟩ := apart earlier listed own recent
    obtain ⟨epoch, past⟩ := accounted.past earlier listed
    have after := intOf_recent epoch (le_trans past later) recent
    obtain ⟨other, edge⟩ := distinct (stored.trans asks)
    have young : intOf call.time < intOf earlier.time + run.limiter.windowSeconds := by omega
    have clock := intOf_mono accounted.epoch later
    have held := accounted.held earlier listed (stored.trans asks) (by omega)
    have member := held.counted epoch (le_trans past later) young
    rw [own] at member
    exact ⟨other, member⟩
  have nodup : ((run.young call).map entry ++ [entry { call.toRateCall with stored := true }]).Nodup := by
    refine List.nodup_append.mpr ⟨List.pairwise_map.mpr ?_, List.nodup_singleton _, ?_⟩
    · exact (young_seconds accounted apart later asks).imp fun distinct same => distinct (Prod.mk.inj same).2
    · intro item member last single same
      obtain ⟨earlier, listed, rfl⟩ := List.mem_map.mp member
      rw [List.mem_singleton.mp single] at same
      exact (seconds earlier listed).1 (Prod.mk.inj same).2
  have subset : (run.young call).map entry ++ [entry { call.toRateCall with stored := true }] ⊆ members := by
    intro item member
    rcases List.mem_append.mp member with before | last
    · obtain ⟨earlier, listed, rfl⟩ := List.mem_map.mp before
      exact (seconds earlier listed).2
    · rw [List.mem_singleton.mp last]
      exact now_counted ..
  have size := (nodup.subperm subset).length_le
  unfold answer RedisRateLimiter.allow at admitted
  rw [asks] at admitted
  have counted : (members.length : Int) ≤ run.limiter.maxCalls := of_decide_eq_true admitted
  rw [List.length_append, List.length_map, List.length_singleton] at size
  omega

theorem admitted_room (accounted : Accounted run) (apart : run.CountedApart call) (later : run.clock ≤ call.time)
    (admitted : (run.answer call).2 = true) : ((run.young call).length : Int) < run.limiter.maxCalls := by
  cases asks : run.limiter.asksRedis call.awaited with
  | false => exact fallback_room accounted apart later asks admitted
  | true => exact redis_room accounted apart later asks admitted

theorem step_cases (taken : run.step call = some next) : run.clock ≤ call.time ∧ next =
    { limiter := (run.answer call).1.1
      server := (run.answer call).1.2
      clock := call.time
      admitted := run.admitted ++ if (run.answer call).2 then
        [{ call.toRateCall with stored := run.limiter.asksRedis call.awaited }] else [] } := by
  unfold step at taken
  by_cases later : run.clock ≤ call.time
  · rw [if_pos later] at taken
    refine ⟨later, ?_⟩
    rw [← Option.some.inj taken]
    split <;> simp
  · rw [if_neg later] at taken
    cases taken

theorem answer_settings : (run.answer call).1.1.maxCalls = run.limiter.maxCalls ∧
    (run.answer call).1.1.windowSeconds = run.limiter.windowSeconds := by
  unfold answer RedisRateLimiter.allow
  split <;> exact ⟨rfl, rfl⟩

theorem answer_redis (asks : run.limiter.asksRedis call.awaited = true) : (run.answer call).1 =
    (run.limiter, (run.server.allow run.limiter.maxCalls run.limiter.windowSeconds call.time call.key).1) := by
  rw [answer, RedisRateLimiter.allow, if_pos asks]

theorem answer_fallback (asks : run.limiter.asksRedis call.awaited = false) :
    (run.answer call).1 = ({ run.limiter with fallback := (run.limiter.fallback.allow call.time call.key).1 },
      run.server) ∧ (run.answer call).2 = (run.limiter.fallback.allow call.time call.key).2 := by
  have not : ¬ run.limiter.asksRedis call.awaited = true := by simp [asks]
  rw [answer, RedisRateLimiter.allow, if_neg not]
  exact ⟨rfl, rfl⟩

theorem past_step (accounted : Accounted run) (taken : run.step call = some next) :
    ∀ admitted ∈ next.admitted, 0 ≤ admitted.time ∧ admitted.time ≤ next.clock := by
  obtain ⟨later, rfl⟩ := step_cases taken
  intro admitted member
  rcases List.mem_append.mp member with before | last
  · exact ⟨(accounted.past admitted before).1, le_trans (accounted.past admitted before).2 later⟩
  · split at last
    · rw [List.mem_singleton.mp last]
      exact ⟨le_trans accounted.epoch later, le_refl _⟩
    · cases last

theorem held_step (accounted : Accounted run) (taken : run.step call = some next) :
    ∀ admitted ∈ next.admitted, admitted.stored = true →
      intOf next.clock < intOf admitted.time + next.limiter.windowSeconds →
        Held next.server next.limiter.windowSeconds admitted.toRateCall := by
  have settings := @answer_settings run call
  obtain ⟨later, rfl⟩ := step_cases taken
  intro admitted member stored young
  dsimp only at young ⊢
  rw [settings.2] at young ⊢
  have clock := intOf_mono accounted.epoch later
  rcases List.mem_append.mp member with before | last
  · have held := accounted.held admitted before stored (by omega)
    obtain ⟨epoch, past⟩ := accounted.past admitted before
    cases asks : run.limiter.asksRedis call.awaited with
    | true =>
      rw [answer_redis asks]
      exact held.allow epoch (le_trans past later) young run.limiter.maxCalls call.key
    | false =>
      rw [(answer_fallback asks).1]
      exact held
  · split at last
    · rw [List.mem_singleton.mp last] at stored young ⊢
      rw [answer_redis stored]
      have lasting : 0 < run.limiter.windowSeconds := by
        dsimp only at young
        omega
      exact @held_now _ call.toRateCall run.server lasting run.limiter.maxCalls
    · cases last

theorem apart_step (accounted : Accounted run) (apart : run.CountedApart call) (taken : run.step call = some next) :
    next.admitted.Pairwise (Apart next.limiter.windowSeconds) := by
  have settings := @answer_settings run call
  obtain ⟨-, rfl⟩ := step_cases taken
  dsimp only
  rw [settings.2]
  refine List.pairwise_append.mpr ⟨accounted.apart, ?_, ?_⟩
  · split
    · exact List.pairwise_singleton ..
    · exact List.Pairwise.nil
  · intro earlier member last single
    split at single
    · rw [List.mem_singleton.mp single]
      exact apart earlier member
    · cases single

theorem remembers_step (accounted : Accounted run) (taken : run.step call = some next) (key : String) :
    InMemoryRateLimiter.Remembers next.limiter.windowSeconds next.clock (next.fallbackTimes key)
      (next.limiter.fallback.bucket key) := by
  have settings := @answer_settings run call
  obtain ⟨later, rfl⟩ := step_cases taken
  have remembers := (accounted.remembers key).later later
  dsimp only
  rw [settings.2]
  unfold fallbackTimes at remembers ⊢
  dsimp only
  cases asks : run.limiter.asksRedis call.awaited with
  | true =>
    have unchanged : (if (run.answer call).2 then [{ call.toRateCall with stored := true }] else []).filter
        (fun call : Admission => !call.stored) = [] := by
      split <;> rfl
    rw [answer_redis asks, List.filter_append, unchanged, List.append_nil]
    exact remembers
  | false =>
    have served := @InMemoryRateLimiter.Remembers.serve _ call.toRateCall
      { limiter := run.limiter.fallback
        admitted := (run.admitted.filter fun call => !call.stored).map Admission.toRateCall } key
      accounted.settings.2 remembers
    rw [(answer_fallback asks).1, (answer_fallback asks).2, List.filter_append, List.map_append]
    unfold InMemoryRateLimiter.Served.serve at served
    dsimp only at served ⊢
    split at served
    · rename_i admitted
      rw [if_pos admitted]
      exact served
    · rename_i refused
      rw [if_neg refused]
      simpa using served

theorem within_step (accounted : Accounted run) (apart : run.CountedApart call) (taken : run.step call = some next) :
    next.WithinLimit := by
  have settings := @answer_settings run call
  obtain ⟨later, rfl⟩ := step_cases taken
  intro key
  have before : Bounded run.limiter.maxCalls (run.limiter.windowSeconds : Rat) (run.times key) := accounted.within key
  unfold times at before ⊢
  dsimp only
  rw [settings.1, settings.2, List.map_append]
  by_cases admitted : (run.answer call).2 = true
  · have room := admitted_room accounted apart later admitted
    rw [if_pos admitted]
    show Bounded _ _ (timesOf key (run.admitted.map Admission.toRateCall ++ [call.toRateCall]))
    by_cases own : call.key = key
    · subst own
      rw [InMemoryRateLimiter.timesOf_concat_self]
      apply before.concat
      have recent := @recent_times run call
      unfold times at recent
      rw [recent]
      exact room
    · rw [InMemoryRateLimiter.timesOf_concat_other own]
      exact before
  · rw [if_neg admitted, List.map_nil, List.append_nil]
    exact before

theorem settings_step (accounted : Accounted run) (taken : run.step call = some next) :
    next.limiter.fallback.maxCalls = next.limiter.maxCalls ∧
      next.limiter.fallback.windowSeconds = next.limiter.windowSeconds := by
  obtain ⟨-, rfl⟩ := step_cases taken
  dsimp only
  cases asks : run.limiter.asksRedis call.awaited with
  | true =>
    rw [answer_redis asks]
    exact accounted.settings
  | false =>
    have kept := @InMemoryRateLimiter.allow_settings run.limiter.fallback call.time call.key
    rw [(answer_fallback asks).1]
    exact ⟨kept.1.trans accounted.settings.1, kept.2.trans accounted.settings.2⟩

theorem Accounted.step (accounted : Accounted run) (apart : run.CountedApart call)
    (taken : run.step call = some next) : Accounted next := by
  refine ⟨?_, past_step accounted taken, held_step accounted taken, apart_step accounted apart taken,
    settings_step accounted taken, remembers_step accounted taken, within_step accounted apart taken⟩
  obtain ⟨later, rfl⟩ := step_cases taken
  exact le_trans accounted.epoch later

end

def start (settings : Int) (maxCalls : Option Int) (windowSeconds : Int) (redis asyncRedis : Bool) : LimiterRun :=
  { limiter := .new settings maxCalls windowSeconds redis asyncRedis }

theorem accounted_start {settings windowSeconds : Int} {maxCalls : Option Int} {redis asyncRedis : Bool}
    (room : 0 ≤ (RedisRateLimiter.new settings maxCalls windowSeconds redis asyncRedis).maxCalls) :
    Accounted (start settings maxCalls windowSeconds redis asyncRedis) := by
  refine ⟨le_refl _, nofun, nofun, List.Pairwise.nil, ⟨rfl, rfl⟩, ?_, fun _ => bounded_nil room⟩
  intro key
  exact ⟨⟨[], rfl, nofun⟩, List.Pairwise.nil, nofun⟩

/-- A limit that is not negative is kept for as long as the admitted calls of each key within the window are counted
    apart. -/
theorem within_limit_of_counted_apart (settings : Int) (maxCalls : Option Int) (windowSeconds : Int)
    (redis asyncRedis : Bool) (calls : List LimiterCall)
    (room : 0 ≤ (RedisRateLimiter.new settings maxCalls windowSeconds redis asyncRedis).maxCalls)
    (apart : Transition.Guarded step CountedApart (start settings maxCalls windowSeconds redis asyncRedis) calls) :
    Transition.Always step WithinLimit (start settings maxCalls windowSeconds redis asyncRedis) calls :=
  Transition.always_of_guarded Accounted (fun _ accounted => accounted.within)
    (fun _ _ _ accounted guard taken => accounted.step guard taken) (accounted_start room) apart

theorem within_limit_spaced :
    0 ≤ (RedisRateLimiter.new 30 (some 1) 60 true true).maxCalls ∧
      Transition.Always step WithinLimit (start 30 (some 1) 60 true true)
        [{ time := 100, key := "s:nmap" }, { time := 130, key := "s:nmap", awaited := true }] := by
  have room : 0 ≤ (RedisRateLimiter.new 30 (some 1) 60 true true).maxCalls := by decide
  refine ⟨room, within_limit_of_counted_apart 30 (some 1) 60 true true _ room ⟨nofun, ?_⟩⟩
  intro next taken
  obtain ⟨-, rfl⟩ := step_cases taken
  refine ⟨?_, fun _ _ => trivial⟩
  intro earlier member _ _
  rcases List.mem_append.mp member with none | one
  · cases none
  · split at one
    · rw [List.mem_singleton.mp one]
      decide +kernel
    · cases one

/-- Two calls in one second count as one, and so both are admitted where one call a minute is allowed; a call is no
    longer counted within the window after a second of its own either, when the seconds are a window apart. -/
theorem calls_counted_once :
    (Transition.run step (start 30 (some 1) 60 true true)
      [{ time := 100, key := "s:nmap" }, { time := 201 / 2, key := "s:nmap" }]).map (fun run => run.times "s:nmap") =
        some [100, 201 / 2] ∧
    (Transition.run step (start 30 (some 1) 60 true true)
      [{ time := 1009 / 10, key := "s:nmap" }, { time := 1605 / 10, key := "s:nmap" }]).map
        (fun run => run.times "s:nmap") = some [1009 / 10, 1605 / 10] ∧
    ¬ (∀ calls, Transition.Always step WithinLimit (start 30 (some 1) 60 true true) calls) := by
  have burst : (Transition.run step (start 30 (some 1) 60 true true)
      [{ time := 100, key := "s:nmap" }, { time := 201 / 2, key := "s:nmap" }]).map
        (fun run => (run.limiter.maxCalls, run.limiter.windowSeconds, run.times "s:nmap")) =
          some (1, 60, [100, 201 / 2]) := by decide +kernel
  refine ⟨by decide +kernel, by decide +kernel, fun claimed => ?_⟩
  obtain ⟨run, reached, outcome⟩ := Option.map_eq_some_iff.mp burst
  simp only [Prod.mk.injEq] at outcome
  have within := (claimed _).last reached "s:nmap" 100
  rw [outcome.1, outcome.2.1, outcome.2.2] at within
  exact absurd within (by decide +kernel)

end LimiterRun

end CysAgi
