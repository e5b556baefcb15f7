import Mathlib.Data.List.Induction
import Mathlib.Data.List.TakeWhile
import Mathlib.Algebra.Order.Ring.Rat
import CysAgi.Base.Dict
import CysAgi.Base.SlidingWindow

namespace CysAgi

open Py SlidingWindow

structure InMemoryRateLimiter where
  maxCalls : Int
  windowSeconds : Int := 60
  buckets : Dict String (List Rat) := .empty

structure RateCall where
  time : Rat
  key : String
  deriving DecidableEq

def timesOf (key : String) (calls : List RateCall) : List Rat :=
  (calls.filter fun call => call.key = key).map RateCall.time

namespace InMemoryRateLimiter

def bucket (limiter : InMemoryRateLimiter) (key : String) : List Rat := (limiter.buckets.get? key).getD []

def pruned (limiter : InMemoryRateLimiter) (now : Rat) (key : String) : List Rat :=
  (limiter.bucket key).dropWhile fun t => decide ((limiter.windowSeconds : Rat) < now - t)

def allow (limiter : InMemoryRateLimiter) (now : Rat) (key : String) : InMemoryRateLimiter × Bool :=
  let bucket := limiter.pruned now key
  if limiter.maxCalls ≤ bucket.length then ({ limiter with buckets := limiter.buckets.set key bucket }, false)
  else ({ limiter with buckets := limiter.buckets.set key (bucket ++ [now]) }, true)

structure Served where
  limiter : InMemoryRateLimiter
  admitted : List RateCall := []

def Served.serve (served : Served) (call : RateCall) : Served :=
  let answer := served.limiter.allow call.time call.key
  { limiter := answer.1, admitted := if answer.2 then served.admitted ++ [call] else served.admitted }

def served (maxCalls windowSeconds : Int) (calls : List RateCall) : Served :=
  calls.foldl Served.serve { limiter := { maxCalls, windowSeconds } }

def answers (maxCalls windowSeconds : Int) (before : List RateCall) (call : RateCall) : Bool :=
  ((served maxCalls windowSeconds before).limiter.allow call.time call.key).2

section

variable {limiter : InMemoryRateLimiter} {now : Rat} {key other : String}

theorem allow_settings : (limiter.allow now key).1.maxCalls = limiter.maxCalls ∧
    (limiter.allow now key).1.windowSeconds = limiter.windowSeconds := by
  by_cases full : limiter.maxCalls ≤ (limiter.pruned now key).length
  · rw [allow, if_pos full]
    exact ⟨rfl, rfl⟩
  · rw [allow, if_neg full]
    exact ⟨rfl, rfl⟩

theorem allow_answer :
    (limiter.allow now key).2 = decide (((limiter.pruned now key).length : Int) < limiter.maxCalls) := by
  by_cases full : limiter.maxCalls ≤ (limiter.pruned now key).length
  · rw [allow, if_pos full]
    exact (decide_eq_false (not_lt.mpr full)).symm
  · rw [allow, if_neg full]
    exact (decide_eq_true (not_le.mp full)).symm

theorem allow_bucket_self : (limiter.allow now key).1.bucket key =
    limiter.pruned now key ++ if (limiter.allow now key).2 then [now] else [] := by
  by_cases full : limiter.maxCalls ≤ (limiter.pruned now key).length
  · rw [allow, if_pos full]
    simp [bucket]
  · rw [allow, if_neg full]
    simp [bucket]

theorem allow_bucket_other (different : other ≠ key) :
    (limiter.allow now key).1.bucket other = limiter.bucket other := by
  by_cases full : limiter.maxCalls ≤ (limiter.pruned now key).length
  · rw [allow, if_pos full]
    simp [bucket, different]
  · rw [allow, if_neg full]
    simp [bucket, different]

end

theorem timesOf_concat_self (calls : List RateCall) (call : RateCall) :
    timesOf call.key (calls ++ [call]) = timesOf call.key calls ++ [call.time] := by
  simp [timesOf]

theorem timesOf_concat_other {key : String} {call : RateCall} (different : call.key ≠ key) (calls : List RateCall) :
    timesOf key (calls ++ [call]) = timesOf key calls := by
  simp [timesOf, different]

structure Remembers (window : Int) (now : Rat) (times bucket : List Rat) : Prop where
  forgotten : ∃ old, times = old ++ bucket ∧ ∀ t ∈ old, (window : Rat) < now - t
  ordered : times.Pairwise (· ≤ ·)
  past : ∀ t ∈ times, t ≤ now

namespace Remembers

variable {window : Int} {now after : Rat} {times bucket : List Rat}

theorem later (remembers : Remembers window now times bucket) (passed : now ≤ after) :
    Remembers window after times bucket := by
  obtain ⟨old, split, gone⟩ := remembers.forgotten
  refine ⟨⟨old, split, ?_⟩, remembers.ordered, ?_⟩
  · intro t member
    exact lt_of_lt_of_le (gone t member) (sub_le_sub_right passed t)
  · intro t member
    exact le_trans (remembers.past t member) passed

theorem recent_bucket (remembers : Remembers window now times bucket) :
    bucket.dropWhile (fun t => decide ((window : Rat) < now - t)) = recent (window : Rat) now times := by
  obtain ⟨old, rfl, gone⟩ := remembers.forgotten
  rw [dropWhile_eq_recent (List.pairwise_append.mp remembers.ordered).2.1, recent_append, recent_of_old gone,
    List.nil_append]

theorem prune (remembers : Remembers window now times bucket) :
    Remembers window now times (recent (window : Rat) now times) := by
  refine ⟨⟨times.takeWhile fun t => decide ((window : Rat) < now - t), ?_, ?_⟩, remembers.ordered, remembers.past⟩
  · rw [← dropWhile_eq_recent remembers.ordered, List.takeWhile_append_dropWhile]
  · intro t member
    have old := List.mem_takeWhile_imp member
    exact of_decide_eq_true old

theorem cons_now (remembers : Remembers window now times bucket) :
    Remembers window now (times ++ [now]) (bucket ++ [now]) := by
  obtain ⟨old, split, gone⟩ := remembers.forgotten
  refine ⟨⟨old, ?_, gone⟩, ?_, ?_⟩
  · rw [split, List.append_assoc]
  · refine List.pairwise_append.mpr ⟨remembers.ordered, List.pairwise_singleton _ _, ?_⟩
    intro t member s last
    rw [List.mem_singleton.mp last]
    exact remembers.past t member
  · intro t member
    rcases List.mem_append.mp member with earlier | last
    · exact remembers.past t earlier
    · exact le_of_eq (List.mem_singleton.mp last)

end Remembers

section

variable {maxCalls windowSeconds : Int} {calls : List RateCall} {call : RateCall}

theorem served_concat : served maxCalls windowSeconds (calls ++ [call]) =
    (served maxCalls windowSeconds calls).serve call := List.foldl_concat ..

theorem served_settings : (served maxCalls windowSeconds calls).limiter.maxCalls = maxCalls ∧
    (served maxCalls windowSeconds calls).limiter.windowSeconds = windowSeconds := by
  induction calls using List.reverseRecOn with
  | nil => exact ⟨rfl, rfl⟩
  | append_singleton calls call ih =>
    rw [served_concat]
    exact ⟨allow_settings.1.trans ih.1, allow_settings.2.trans ih.2⟩

theorem admitted_concat : (served maxCalls windowSeconds (calls ++ [call])).admitted =
    (served maxCalls windowSeconds calls).admitted ++
      if answers maxCalls windowSeconds calls call then [call] else [] := by
  rw [served_concat]
  unfold Served.serve answers
  dsimp only
  split <;> simp

def Ordered (calls : List RateCall) : Prop := (calls.map RateCall.time).Pairwise (· ≤ ·)

theorem Ordered.left {first second : List RateCall} (ordered : Ordered (first ++ second)) : Ordered first := by
  unfold Ordered at ordered
  rw [List.map_append] at ordered
  exact (List.pairwise_append.mp ordered).1

theorem Ordered.passed {next : RateCall} (ordered : Ordered (calls ++ [call] ++ [next])) : call.time ≤ next.time := by
  unfold Ordered at ordered
  rw [List.map_append, List.map_append] at ordered
  refine (List.pairwise_append.mp ordered).2.2 _ ?_ _ ?_ <;> simp

theorem Remembers.serve {served : Served} {key : String} (lasts : served.limiter.windowSeconds = windowSeconds)
    (remembers : Remembers windowSeconds call.time (timesOf key served.admitted) (served.limiter.bucket key)) :
    Remembers windowSeconds call.time (timesOf key (served.serve call).admitted)
      ((served.serve call).limiter.bucket key) := by
  unfold Served.serve
  dsimp only
  by_cases own : key = call.key
  · subst own
    have pruned : served.limiter.pruned call.time call.key =
        recent (windowSeconds : Rat) call.time (timesOf call.key served.admitted) := by
      rw [InMemoryRateLimiter.pruned, lasts]
      exact remembers.recent_bucket
    rw [allow_bucket_self, pruned]
    by_cases admitted : (served.limiter.allow call.time call.key).2 = true
    · rw [if_pos admitted, if_pos admitted, timesOf_concat_self]
      exact remembers.prune.cons_now
    · rw [if_neg admitted, if_neg admitted, List.append_nil]
      exact remembers.prune
  · rw [allow_bucket_other own]
    by_cases admitted : (served.limiter.allow call.time call.key).2 = true
    · rw [if_pos admitted, timesOf_concat_other (Ne.symm own)]
      exact remembers
    · rw [if_neg admitted]
      exact remembers

theorem remembers_served (ordered : Ordered (calls ++ [call])) (key : String) :
    Remembers windowSeconds call.time (timesOf key (served maxCalls windowSeconds calls).admitted)
      ((served maxCalls windowSeconds calls).limiter.bucket key) := by
  induction calls using List.reverseRecOn generalizing call with
  | nil => exact ⟨⟨[], rfl, nofun⟩, List.Pairwise.nil, nofun⟩
  | append_singleton calls last ih =>
    rw [served_concat]
    exact ((ih ordered.left).serve served_settings.2).later ordered.passed

theorem answers_eq (ordered : Ordered (calls ++ [call])) : answers maxCalls windowSeconds calls call =
    decide (((recent (windowSeconds : Rat) call.time
      (timesOf call.key (served maxCalls windowSeconds calls).admitted)).length : Int) < maxCalls) := by
  have remembers := @remembers_served maxCalls windowSeconds _ _ ordered call.key
  have settings := @served_settings maxCalls windowSeconds calls
  unfold answers
  rw [allow_answer, settings.1, pruned, settings.2, remembers.recent_bucket]

theorem bucket_own (key : String) : (served maxCalls windowSeconds calls).limiter.bucket key =
    (served maxCalls windowSeconds (calls.filter fun call => call.key = key)).limiter.bucket key := by
  induction calls using List.reverseRecOn with
  | nil => rfl
  | append_singleton calls call ih =>
    rw [List.filter_append, served_concat]
    show ((served maxCalls windowSeconds calls).limiter.allow call.time call.key).1.bucket key = _
    by_cases own : call.key = key
    · subst own
      have kept : [call].filter (fun other => other.key = call.key) = [call] := by simp
      rw [kept, served_concat]
      show _ = ((served maxCalls windowSeconds _).limiter.allow call.time call.key).1.bucket call.key
      rw [allow_bucket_self, allow_bucket_self, allow_answer, allow_answer, pruned, pruned, ih, served_settings.1,
        served_settings.1, served_settings.2, served_settings.2]
    · have left : [call].filter (fun other => other.key = key) = [] := by simp [own]
      rw [left, List.append_nil, allow_bucket_other (Ne.symm own), ih]

theorem answers_own (call : RateCall) : answers maxCalls windowSeconds calls call =
    answers maxCalls windowSeconds (calls.filter fun other => other.key = call.key) call := by
  unfold answers
  rw [allow_answer, allow_answer, pruned, pruned, served_settings.1, served_settings.1, served_settings.2,
    served_settings.2, bucket_own]

theorem admitted_bounded (ordered : Ordered calls) (key : String) :
    Bounded (max 0 maxCalls) (windowSeconds : Rat) (timesOf key (served maxCalls windowSeconds calls).admitted) := by
  induction calls using List.reverseRecOn with
  | nil => exact bounded_nil (le_max_left 0 maxCalls)
  | append_singleton calls call ih =>
    have before := ih ordered.left
    have answer := @answers_eq maxCalls windowSeconds _ _ ordered
    rw [admitted_concat]
    by_cases admitted : answers maxCalls windowSeconds calls call = true
    · rw [if_pos admitted]
      by_cases own : call.key = key
      · subst own
        rw [timesOf_concat_self]
        rw [admitted] at answer
        exact before.concat (lt_max_of_lt_right (of_decide_eq_true answer.symm))
      · rw [timesOf_concat_other own]
        exact before
    · rw [if_neg admitted, List.append_nil]
      exact before

end

/-- At most so many calls of a key are admitted in a closed window, a call is refused only when as many as the limit
    were admitted of its key in the window that ends with it, and other keys change no answer. -/
structure Limited (most maxCalls windowSeconds : Int) (calls : List RateCall) : Prop where
  bounded : ∀ key start, ((inside (windowSeconds : Rat) start
    (timesOf key (served maxCalls windowSeconds calls).admitted)).length : Int) ≤ most
  refused : ∀ before call behind, calls = before ++ call :: behind →
    answers maxCalls windowSeconds before call = false →
    maxCalls ≤ (inside (windowSeconds : Rat) (call.time - windowSeconds)
      (timesOf call.key (served maxCalls windowSeconds before).admitted)).length
  separate : ∀ before call behind, calls = before ++ call :: behind → answers maxCalls windowSeconds before call =
    answers maxCalls windowSeconds (before.filter fun other => other.key = call.key) call

theorem Remembers.recent_eq_inside {window : Int} {now : Rat} {times bucket : List Rat}
    (remembers : Remembers window now times bucket) :
    recent (window : Rat) now times = inside (window : Rat) (now - window) times := by
  apply List.filter_congr
  intro t member
  have past := remembers.past t member
  rw [decide_eq_decide, sub_add_cancel, sub_le_comm]
  exact ⟨fun within => ⟨within, past⟩, fun within => within.1⟩

/-- The deque holds what was admitted within the window, so every window is bounded, not only those that end with a
    call. -/
theorem in_memory_limited (maxCalls windowSeconds : Int) (calls : List RateCall) (ordered : Ordered calls) :
    Limited (max 0 maxCalls) maxCalls windowSeconds calls := by
  refine ⟨fun key => admitted_bounded ordered key, ?_, fun before call _ _ => answers_own call⟩
  intro before call behind split refused
  have sofar : Ordered (before ++ [call]) := by
    rw [split, List.append_cons] at ordered
    exact ordered.left
  have remembers := @remembers_served maxCalls windowSeconds _ _ sofar call.key
  rw [answers_eq sofar, remembers.recent_eq_inside] at refused
  exact not_lt.mp (of_decide_eq_false refused)

def toolCalls : List RateCall :=
  [⟨0, "s:nmap"⟩, ⟨1 / 2, "s:dig"⟩, ⟨1, "s:nmap"⟩, ⟨59, "s:nmap"⟩, ⟨60, "s:nmap"⟩, ⟨61, "s:nmap"⟩]

theorem tool_calls_limited : Ordered toolCalls ∧ Limited (max 0 2) 2 60 toolCalls := by
  have ordered : Ordered toolCalls := by
    unfold Ordered
    decide +kernel
  exact ⟨ordered, in_memory_limited 2 60 toolCalls ordered⟩

/-- A limit below zero admits nothing, and nothing is still more than it. -/
theorem negative_limit_exceeded : ¬ (∀ maxCalls windowSeconds : Int, ∀ calls, Ordered calls →
    Limited maxCalls maxCalls windowSeconds calls) := by
  intro claimed
  have bounded := (claimed (-1) 60 [] List.Pairwise.nil).bounded "s:nmap" 0
  exact absurd bounded (by decide)

end InMemoryRateLimiter

end CysAgi
