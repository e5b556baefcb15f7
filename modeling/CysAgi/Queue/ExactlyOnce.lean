import CysAgi.Base.Transition
import CysAgi.Queue.JobQueue

namespace CysAgi

/-- The stream, what has been put in and what dequeues have returned, and the entries of the
    dequeues that are between their two commands. -/
structure StreamSystem where
  stream : RedisStream := .empty
  enqueued : List (Nat × WorkerJob) := []
  reading : List (Nat × WorkerJob) := []
  returned : List (Nat × WorkerJob) := []

inductive StreamStep where
  | xadd (job : WorkerJob)
  | xread
  | xdel (dequeue : Nat)

namespace StreamSystem

/-- A dequeue that finds the stream empty returns None at once. -/
def step (s : StreamSystem) : StreamStep → Option StreamSystem
  | .xadd job => some
    { s with stream := s.stream.xadd job, enqueued := s.enqueued ++ [s.stream.added job] }
  | .xread => some
    { s with reading := s.reading ++ s.stream.xread.toList }
  | .xdel dequeue => s.reading[dequeue]?.map fun entry =>
    { s with
      stream := s.stream.xdel entry.1
      reading := s.reading.eraseIdx dequeue
      returned := s.returned ++ [entry] }

structure ExactlyOnce (s : StreamSystem) : Prop where
  once : (s.returned.map Prod.fst).Nodup
  kept : ∀ entry ∈ s.enqueued, entry ∈ s.stream.entries ∨ entry ∈ s.returned

def StillThere (s : StreamSystem) : StreamStep → Prop
  | .xdel dequeue => ∀ entry, s.reading[dequeue]? = some entry → entry ∈ s.stream.entries
  | _ => True

structure Accounted (s : StreamSystem) : Prop where
  unique : ∀ a ∈ s.enqueued, ∀ b ∈ s.enqueued, a.1 = b.1 → a = b
  fresh : ∀ entry ∈ s.enqueued, entry.1 < s.stream.nextId
  streamed : ∀ entry ∈ s.stream.entries, entry ∈ s.enqueued
  read : ∀ entry ∈ s.reading, entry ∈ s.enqueued
  gone : ∀ entry ∈ s.returned, entry ∈ s.enqueued ∧ entry ∉ s.stream.entries
  kept : ∀ entry ∈ s.enqueued, entry ∈ s.stream.entries ∨ entry ∈ s.returned

theorem accounted_initial : Accounted {} :=
  ⟨by simp, by simp, by simp [RedisStream.empty], by simp, by simp, by simp⟩

theorem Accounted.xadd {s : StreamSystem} (inv : s.Accounted) (job : WorkerJob) :
    Accounted { s with stream := s.stream.xadd job, enqueued := s.enqueued ++ [s.stream.added job] } := by
  have apart : ∀ entry ∈ s.enqueued, entry.1 ≠ s.stream.nextId := fun entry member =>
    (inv.fresh entry member).ne
  constructor
  · intro a first b second same
    rcases List.mem_append.mp first with first | first <;> rcases List.mem_append.mp second with second | second
    · exact inv.unique a first b second same
    · rw [List.mem_singleton.mp second] at same
      exact absurd same (apart a first)
    · rw [List.mem_singleton.mp first] at same
      exact absurd same.symm (apart b second)
    · rw [List.mem_singleton.mp first, List.mem_singleton.mp second]
  · intro entry member
    rcases List.mem_append.mp member with member | member
    · exact Nat.lt_succ_of_lt (inv.fresh entry member)
    · rw [List.mem_singleton.mp member]
      exact Nat.lt_succ_self _
  · intro entry member
    rcases List.mem_append.mp member with member | member
    · exact List.mem_append_left _ (inv.streamed entry member)
    · exact List.mem_append_right _ member
  · intro entry member
    exact List.mem_append_left _ (inv.read entry member)
  · intro entry member
    obtain ⟨known, deleted⟩ := inv.gone entry member
    refine ⟨List.mem_append_left _ known, ?_⟩
    intro present
    rcases List.mem_append.mp present with present | present
    · exact deleted present
    · rw [List.mem_singleton.mp present] at known
      exact apart _ known rfl
  · intro entry member
    rcases List.mem_append.mp member with member | member
    · exact (inv.kept entry member).imp_left (List.mem_append_left _)
    · exact .inl (List.mem_append_right _ member)

theorem Accounted.xdel {s : StreamSystem} (inv : s.Accounted) {dequeue : Nat} {entry : Nat × WorkerJob}
    (here : s.reading[dequeue]? = some entry) :
    Accounted { s with
      stream := s.stream.xdel entry.1
      reading := s.reading.eraseIdx dequeue
      returned := s.returned ++ [entry] } := by
  have known := inv.read entry (List.mem_of_getElem? here)
  constructor
  · exact inv.unique
  · exact inv.fresh
  · intro other member
    exact inv.streamed other (RedisStream.mem_xdel.mp member).1
  · intro other member
    exact inv.read other (List.mem_of_mem_eraseIdx member)
  · intro other member
    rcases List.mem_append.mp member with member | member
    · obtain ⟨enqueued, deleted⟩ := inv.gone other member
      exact ⟨enqueued, fun present => deleted (RedisStream.mem_xdel.mp present).1⟩
    · rw [List.mem_singleton.mp member]
      exact ⟨known, fun present => (RedisStream.mem_xdel.mp present).2 rfl⟩
  · intro other member
    by_cases same : other.1 = entry.1
    · rw [inv.unique other member entry known same]
      exact .inr (List.mem_append_right _ (List.mem_singleton_self entry))
    · rcases inv.kept other member with present | returned
      · exact .inl (RedisStream.mem_xdel.mpr ⟨present, same⟩)
      · exact .inr (List.mem_append_left _ returned)

theorem Accounted.step {s t : StreamSystem} {action : StreamStep} (inv : s.Accounted)
    (taken : s.step action = some t) : t.Accounted := by
  cases action with
  | xadd job =>
    cases taken
    exact inv.xadd job
  | xread =>
    cases taken
    refine { inv with read := ?_ }
    intro entry member
    rcases List.mem_append.mp member with member | member
    · exact inv.read entry member
    · exact inv.streamed entry (RedisStream.mem_of_xread (Option.mem_toList.mp member))
  | xdel dequeue =>
    obtain ⟨entry, here, rfl⟩ := Option.map_eq_some_iff.mp taken
    exact inv.xdel here

theorem exactlyOnce_step_iff {s t : StreamSystem} {action : StreamStep} (inv : s.Accounted)
    (held : s.ExactlyOnce) (taken : s.step action = some t) : t.ExactlyOnce ↔ s.StillThere action := by
  have kept := (inv.step taken).kept
  cases action with
  | xadd job =>
    cases taken
    exact ⟨fun _ => trivial, fun _ => ⟨held.once, kept⟩⟩
  | xread =>
    cases taken
    exact ⟨fun _ => trivial, fun _ => ⟨held.once, kept⟩⟩
  | xdel dequeue =>
    obtain ⟨entry, here, rfl⟩ := Option.map_eq_some_iff.mp taken
    have known := inv.read entry (List.mem_of_getElem? here)
    have nodup_iff : ((s.returned ++ [entry]).map Prod.fst).Nodup ↔ entry.1 ∉ s.returned.map Prod.fst := by
      rw [List.map_append, List.map_singleton, ← List.concat_eq_append, List.nodup_concat]
      exact and_iff_left held.once
    have new_iff : entry.1 ∉ s.returned.map Prod.fst ↔ entry ∈ s.stream.entries := by
      constructor
      · intro new
        rcases inv.kept entry known with present | returned
        · exact present
        · exact absurd (List.mem_map.mpr ⟨entry, returned, rfl⟩) new
      · intro present old
        obtain ⟨other, returned, same⟩ := List.mem_map.mp old
        obtain ⟨enqueued, deleted⟩ := inv.gone other returned
        rw [inv.unique other enqueued entry known same] at deleted
        exact deleted present
    constructor
    · intro once other same
      rw [here] at same
      cases same
      exact new_iff.mp (nodup_iff.mp once.once)
    · intro there
      exact ⟨nodup_iff.mpr (new_iff.mpr (there entry here)), kept⟩

/-- In a run every job is delivered once throughout exactly when each worker still finds in the
    stream what it deletes. -/
theorem exactly_once_iff {actions : List StreamStep} {s : StreamSystem}
    (reached : Transition.run step {} actions = some s) :
    Transition.Always step ExactlyOnce {} actions ↔ Transition.Guarded step StillThere {} actions :=
  Transition.always_iff_guarded Accounted (fun _ _ _ inv _ _ taken => inv.step taken)
    (fun _ _ _ inv held taken => exactlyOnce_step_iff inv held taken) accounted_initial
    ⟨by simp, by simp⟩ reached

def Exclusive (s : StreamSystem) : StreamStep → Prop
  | .xread => s.reading = []
  | _ => True

theorem stillThere_of_exclusive {actions : List StreamStep} (exclusive : Transition.Guarded step Exclusive {} actions) :
    Transition.Guarded step StillThere {} actions := by
  apply Transition.Guarded.imp (fun s => s.reading.length ≤ 1 ∧ ∀ entry ∈ s.reading, entry ∈ s.stream.entries)
    _ _ ⟨by simp, by simp⟩ exclusive
  · intro s action t given alone taken
    obtain ⟨single, there⟩ := given
    cases action with
    | xadd job =>
      cases taken
      exact ⟨single, fun entry member => List.mem_append_left _ (there entry member)⟩
    | xread =>
      cases taken
      have idle : s.reading = [] := alone
      simp only [idle, List.nil_append]
      constructor
      · cases s.stream.xread <;> simp
      · intro entry member
        exact RedisStream.mem_of_xread (Option.mem_toList.mp member)
    | xdel dequeue =>
      obtain ⟨entry, here, rfl⟩ := Option.map_eq_some_iff.mp taken
      obtain ⟨inside, -⟩ := List.getElem?_eq_some_iff.mp here
      have emptied : s.reading.eraseIdx dequeue = [] := by
        apply List.eq_nil_of_length_eq_zero
        rw [List.length_eraseIdx_of_lt inside]
        omega
      simp [emptied]
  · intro s action given _
    obtain ⟨-, there⟩ := given
    cases action with
    | xdel dequeue => exact fun entry here => there entry (List.mem_of_getElem? here)
    | _ => trivial

theorem exactly_once_iff_one_worker :
    Transition.Always step ExactlyOnce {} [.xadd queuedJob, .xread, .xdel 0, .xread] ↔
      Transition.Guarded step StillThere {} [.xadd queuedJob, .xread, .xdel 0, .xread] :=
  exactly_once_iff (Option.some_get (show (Transition.run step {}
    [.xadd queuedJob, .xread, .xdel 0, .xread]).isSome = true by decide)).symm

/-- Two workers read the head before either deletes it: both return the job. -/
theorem job_returned_twice :
    ∃ s, Transition.run step {} [.xadd queuedJob, .xread, .xread, .xdel 0, .xdel 0] = some s ∧
      s.enqueued = [(0, queuedJob)] ∧ s.returned = [(0, queuedJob), (0, queuedJob)] ∧ ¬ s.ExactlyOnce := by
  refine ⟨_, rfl, rfl, rfl, ?_⟩
  intro held
  have once := held.once
  revert once
  decide

end StreamSystem

end CysAgi
