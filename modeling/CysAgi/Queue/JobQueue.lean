import CysAgi.Workers.Models

namespace CysAgi

structure InMemoryJobQueue where
  queue : List WorkerJob := []

namespace InMemoryJobQueue

def enqueue (q : InMemoryJobQueue) (job : WorkerJob) : InMemoryJobQueue := ⟨q.queue ++ [job]⟩

def dequeue (q : InMemoryJobQueue) : InMemoryJobQueue × Option WorkerJob :=
  match q.queue with
  | [] => (q, none)
  | job :: rest => (⟨rest⟩, some job)

@[simp] theorem dequeue_rest (q : InMemoryJobQueue) : q.dequeue.1.queue = q.queue.tail := by
  unfold dequeue
  split
  · rename_i empty
    rw [empty, List.tail_nil]
  · rename_i job rest full
    rw [full, List.tail_cons]

@[simp] theorem dequeue_job (q : InMemoryJobQueue) : q.dequeue.2 = q.queue.head? := by
  unfold dequeue
  split
  · rename_i empty
    rw [empty, List.head?_nil]
  · rename_i job rest full
    rw [full, List.head?_cons]

end InMemoryJobQueue

/-- The stream `cys:worker:jobs`: its entries under ids that only grow. -/
structure RedisStream where
  entries : List (Nat × WorkerJob)
  nextId : Nat
  fresh : ∀ entry ∈ entries, entry.1 < nextId
  nodup : (entries.map Prod.fst).Nodup

namespace RedisStream

def empty : RedisStream := ⟨[], 0, by simp, by simp⟩

def added (stream : RedisStream) (job : WorkerJob) : Nat × WorkerJob := (stream.nextId, job)

def xadd (stream : RedisStream) (job : WorkerJob) : RedisStream where
  entries := stream.entries ++ [stream.added job]
  nextId := stream.nextId + 1
  fresh entry member := by
    rcases List.mem_append.mp member with member | member
    · exact Nat.lt_succ_of_lt (stream.fresh entry member)
    · rw [List.mem_singleton.mp member]
      exact Nat.lt_succ_self _
  nodup := by
    rw [List.map_append, List.map_singleton]
    apply List.Nodup.append stream.nodup (List.nodup_singleton _)
    intro id present new
    obtain ⟨entry, member, rfl⟩ := List.mem_map.mp present
    have below := stream.fresh entry member
    rw [List.mem_singleton.mp new] at below
    exact absurd below (lt_irrefl _)

/-- `XREAD COUNT 1` from id 0. -/
def xread (stream : RedisStream) : Option (Nat × WorkerJob) := stream.entries.head?

def xdel (stream : RedisStream) (id : Nat) : RedisStream where
  entries := stream.entries.filter fun entry => entry.1 ≠ id
  nextId := stream.nextId
  fresh entry member := stream.fresh entry (List.mem_of_mem_filter member)
  nodup := stream.nodup.sublist (List.filter_sublist.map Prod.fst)

theorem mem_xdel {stream : RedisStream} {id : Nat} {entry : Nat × WorkerJob} :
    entry ∈ (stream.xdel id).entries ↔ entry ∈ stream.entries ∧ entry.1 ≠ id := by
  simp [xdel]

theorem mem_of_xread {stream : RedisStream} {entry : Nat × WorkerJob} (read : stream.xread = some entry) :
    entry ∈ stream.entries :=
  List.mem_of_head? read

theorem entries_xdel_xread {stream : RedisStream} {entry : Nat × WorkerJob} (read : stream.xread = some entry) :
    (stream.xdel entry.1).entries = stream.entries.tail := by
  obtain ⟨rest, whole⟩ := List.head?_eq_some_iff.mp read
  have apart := stream.nodup
  rw [whole, List.map_cons, List.nodup_cons] at apart
  unfold xdel
  dsimp only
  rw [whole, List.filter_cons, if_neg (by simp), List.tail_cons, List.filter_eq_self]
  intro other member
  have other_id : other.1 ≠ entry.1 := fun same => apart.1 (List.mem_map.mpr ⟨other, member, same⟩)
  exact decide_eq_true other_id

end RedisStream

structure RedisJobQueue where
  redis : Bool
  fallback : InMemoryJobQueue := {}

namespace RedisJobQueue

def enqueue (q : RedisJobQueue) (stream : RedisStream) (job : WorkerJob) : RedisJobQueue × RedisStream :=
  if q.redis then (q, stream.xadd job) else ({ q with fallback := q.fallback.enqueue job }, stream)

/-- `dequeue` when no command of another worker comes between its two. -/
def dequeue (q : RedisJobQueue) (stream : RedisStream) : RedisJobQueue × RedisStream × Option WorkerJob :=
  if q.redis then
    match stream.xread with
    | none => (q, stream, none)
    | some entry => (q, stream.xdel entry.1, some entry.2)
  else
    let taken := q.fallback.dequeue
    ({ q with fallback := taken.1 }, stream, taken.2)

theorem dequeue_connected {q : RedisJobQueue} (connected : q.redis = true) (stream : RedisStream) :
    (q.dequeue stream).1 = q ∧ (q.dequeue stream).2.1.entries = stream.entries.tail ∧
      (q.dequeue stream).2.2 = (stream.entries.map Prod.snd).head? := by
  rw [dequeue, if_pos connected, List.head?_map, ← RedisStream.xread]
  cases read : stream.xread with
  | none =>
    refine ⟨rfl, ?_, rfl⟩
    rw [List.head?_eq_none_iff.mp read, List.tail_nil]
  | some entry => exact ⟨rfl, RedisStream.entries_xdel_xread read, rfl⟩

theorem dequeue_fallback {q : RedisJobQueue} (alone : q.redis = false) (stream : RedisStream) :
    q.dequeue stream = ({ q with fallback := q.fallback.dequeue.1 }, stream, q.fallback.dequeue.2) := by
  rw [dequeue, alone, if_neg Bool.false_ne_true]

end RedisJobQueue

def queuedJob : WorkerJob := { jobId := "job-1", eventId := "evt-1", persona := "soc" }

end CysAgi
