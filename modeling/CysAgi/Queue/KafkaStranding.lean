import CysAgi.Base.Transition
import CysAgi.Queue.KafkaJobQueue

namespace CysAgi

/-- The broker, the queue of every key, and what enqueues have accepted and dequeues returned. -/
structure KafkaSystem where
  broker : KafkaBroker
  queues : (key : Option String) → KafkaJobQueue key := fun _ => .fresh
  accepted : List WorkerJob := []
  returned : List WorkerJob := []

inductive KafkaStep where
  | reachable
  | unreachable
  | enqueue (key : Option String) (job : WorkerJob)
  | dequeue (key : Option String) (getone : Getone)

namespace KafkaSystem

def turned (s : KafkaSystem) (up : Bool) : KafkaSystem := { s with broker := { s.broker with up } }

def enqueue (s : KafkaSystem) (key : Option String) (job : WorkerJob) : KafkaSystem :=
  match (s.queues key).aenqueue s.broker job with
  | none => s
  | some (q, broker) =>
    { s with
      broker
      queues := Function.update s.queues key q
      accepted := s.accepted ++ [job] }

def dequeue (s : KafkaSystem) (key : Option String) (getone : Getone) : KafkaSystem :=
  let answer := (s.queues key).adequeue s.broker getone
  { s with
    broker := answer.2.1
    queues := Function.update s.queues key answer.1
    returned := s.returned ++ answer.2.2.toList }

def step (s : KafkaSystem) : KafkaStep → Option KafkaSystem
  | .reachable => some (s.turned true)
  | .unreachable => some (s.turned false)
  | .enqueue key job => some (s.enqueue key job)
  | .dequeue key getone => some (s.dequeue key getone)

/-- Further dequeues for a persona, with what `getone` does in each. -/
def drain (persona : String) (s : KafkaSystem) (getones : List Getone) : KafkaSystem :=
  getones.foldl (fun s getone => s.dequeue (some persona) getone) s

def awaited (s : KafkaSystem) (persona : String) : List WorkerJob :=
  if s.broker.up then [] else s.broker.records persona

def StrandsNone (s : KafkaSystem) : Prop :=
  ∀ job, ∃ n, ∀ getones : List Getone, n ≤ getones.length →
    s.accepted.count job ≤ (s.drain job.persona getones).returned.count job +
      ((s.drain job.persona getones).awaited job.persona).count job

def Retrievable (s : KafkaSystem) : KafkaStep → Prop
  | .reachable => ∀ persona,
    if (s.queues (some persona)).Latched then s.broker.records persona = []
    else (s.queues (some persona)).fallback.queue = []
  | .enqueue key job =>
    if (s.queues key).FallsBack s.broker.up then key = some job.persona
    else s.broker.up = true → ¬ (s.queues (some job.persona)).Latched
  | _ => True

section

variable (s : KafkaSystem) (persona : String)

def line : List WorkerJob :=
  match (s.queues (some persona)).source s.broker.up with
  | .topic => s.broker.records persona
  | .fallback => (s.queues (some persona)).fallback.queue
  | .silence => []

variable {s persona}

theorem dequeue_line (heard : (s.queues (some persona)).source s.broker.up ≠ .silence) (getone : Getone) :
    let t := s.dequeue (some persona) getone
    (t.queues (some persona)).source t.broker.up ≠ .silence ∧ t.line persona = (s.line persona).tail ∧
      t.returned = s.returned ++ (s.line persona).head?.toList ∧ t.awaited persona = s.awaited persona := by
  cases source : (s.queues (some persona)).source s.broker.up with
  | silence => exact absurd source heard
  | topic =>
    obtain ⟨kept, -, answer⟩ := KafkaJobQueue.adequeue_topic source getone
    have up := ((KafkaJobQueue.source_topic_iff _ _).mp source).2
    simp only [dequeue, line, Function.update_self, answer, KafkaBroker.consumed_up, kept, source, true_and]
    refine ⟨by simp, ?_, ?_⟩
    · rw [KafkaBroker.records_consumed, if_pos rfl]
    · simp [awaited, up]
  | fallback =>
    obtain ⟨kept, fallback, answer⟩ := KafkaJobQueue.adequeue_fallback source getone
    simp only [dequeue, line, Function.update_self, answer, kept, source, fallback,
      InMemoryJobQueue.dequeue_rest, InMemoryJobQueue.dequeue_job, true_and]
    exact ⟨by simp, rfl⟩

theorem drain_line (getones : List Getone)
    (heard : (s.queues (some persona)).source s.broker.up ≠ .silence) :
    (s.drain persona getones).returned = s.returned ++ (s.line persona).take getones.length ∧
      (s.drain persona getones).awaited persona = s.awaited persona := by
  induction getones generalizing s with
  | nil => simp [drain]
  | cons getone rest ih =>
    obtain ⟨still, line, returned, awaited⟩ := dequeue_line heard getone
    obtain ⟨later, kept⟩ := ih still
    have front : (s.line persona).head?.toList ++ (s.line persona).tail.take rest.length =
        (s.line persona).take (rest.length + 1) := by
      cases s.line persona <;> simp
    constructor
    · rw [line, returned, List.append_assoc, front] at later
      exact later
    · exact kept.trans awaited

theorem dequeue_silence (silence : (s.queues (some persona)).source s.broker.up = .silence) (getone : Getone)
    (job : WorkerJob) :
    let t := s.dequeue (some persona) getone
    (t.queues (some persona)).source t.broker.up = .silence ∧
      s.returned.count job + (s.awaited persona).count job ≤ t.returned.count job + (t.awaited persona).count job := by
  have answer := KafkaJobQueue.adequeue_silence silence getone
  have down := ((KafkaJobQueue.source_silence_iff _ _).mp silence).1
  cases getone with
  | record =>
    simp only [dequeue, Function.update_self, answer, KafkaBroker.consumed_up]
    refine ⟨silence, ?_⟩
    simp only [awaited, KafkaBroker.consumed_up, down, KafkaBroker.records_consumed, Bool.false_eq_true,
      if_false, if_true]
    cases s.broker.records persona with
    | nil => simp
    | cons head rest =>
      simp only [List.head?_cons, Option.toList_some, List.tail_cons, List.count_append, List.count_cons,
        List.count_nil]
      omega
  | timeout =>
    simp only [dequeue, Function.update_self, answer, Option.toList_none, List.append_nil]
    exact ⟨silence, le_rfl⟩
  | error =>
    simp only [dequeue, Function.update_self, answer, KafkaJobQueue.takeFallback]
    refine ⟨silence, ?_⟩
    simp only [awaited, List.count_append]
    omega

theorem drain_silence (getones : List Getone)
    (silence : (s.queues (some persona)).source s.broker.up = .silence) (job : WorkerJob) :
    s.returned.count job + (s.awaited persona).count job ≤
      (s.drain persona getones).returned.count job + ((s.drain persona getones).awaited persona).count job := by
  induction getones generalizing s with
  | nil => exact le_rfl
  | cons getone rest ih =>
    obtain ⟨still, more⟩ := dequeue_silence silence getone job
    exact more.trans (ih still)

theorem drain_timeouts (n : Nat) (silence : (s.queues (some persona)).source s.broker.up = .silence) :
    (s.drain persona (List.replicate n .timeout)).returned = s.returned ∧
      (s.drain persona (List.replicate n .timeout)).awaited persona = s.awaited persona := by
  have idle : s.dequeue (some persona) .timeout = s := by
    simp [dequeue, KafkaJobQueue.adequeue_silence silence]
  have still : s.drain persona (List.replicate n .timeout) = s := by
    induction n with
    | zero => rfl
    | succ n ih =>
      rw [List.replicate_succ, drain, List.foldl_cons, idle]
      exact ih
  rw [still]
  exact ⟨rfl, rfl⟩

variable (s) in
theorem strandsNone_iff : s.StrandsNone ↔ ∀ job,
    s.accepted.count job ≤ s.returned.count job + (s.line job.persona).count job +
      (s.awaited job.persona).count job := by
  apply forall_congr'
  intro job
  by_cases silence : (s.queues (some job.persona)).source s.broker.up = .silence
  · have nothing : s.line job.persona = [] := by simp only [line, silence]
    rw [nothing, List.count_nil, Nat.add_zero]
    constructor
    · intro given
      obtain ⟨n, drained⟩ := given
      have silent := drained (List.replicate n .timeout) (List.length_replicate).ge
      obtain ⟨returned, awaited⟩ := drain_timeouts n silence
      rwa [returned, awaited] at silent
    · intro all
      refine ⟨0, ?_⟩
      intro getones _
      exact all.trans (drain_silence getones silence job)
  · constructor
    · intro given
      obtain ⟨n, drained⟩ := given
      have long := drained (List.replicate n .timeout) (List.length_replicate).ge
      obtain ⟨returned, awaited⟩ := drain_line (List.replicate n .timeout) silence
      rw [returned, awaited, List.count_append] at long
      have part := (List.take_sublist (List.replicate n Getone.timeout).length (s.line job.persona)).count_le job
      omega
    · intro all
      refine ⟨(s.line job.persona).length, ?_⟩
      intro getones long
      obtain ⟨returned, awaited⟩ := drain_line getones silence
      rw [returned, awaited, List.take_of_length_le long, List.count_append]
      exact all

end

structure Accounted (s : KafkaSystem) : Prop where
  topics : ∀ persona, ∀ job ∈ s.broker.records persona, job.persona = persona
  placed : ∀ key, ∀ job ∈ (s.queues key).fallback.queue, key = some job.persona
  exact : ∀ job, s.accepted.count job = s.returned.count job +
    (s.broker.records job.persona).count job + (s.queues (some job.persona)).fallback.queue.count job

theorem Accounted.congr {s t : KafkaSystem} (accounted : s.Accounted)
    (topics : t.broker.topics = s.broker.topics)
    (fallback : ∀ key, (t.queues key).fallback = (s.queues key).fallback) (accepted : t.accepted = s.accepted)
    (returned : t.returned = s.returned) : t.Accounted := by
  have records : ∀ persona, t.broker.records persona = s.broker.records persona := fun persona =>
    congrFun topics (workerJobTopic persona)
  constructor
  · intro persona
    rw [records]
    exact accounted.topics persona
  · intro key
    rw [fallback]
    exact accounted.placed key
  · intro job
    rw [accepted, returned, records, fallback]
    exact accounted.exact job

def hidden (s : KafkaSystem) (persona : String) : List WorkerJob :=
  match (s.queues (some persona)).source s.broker.up with
  | .topic | .silence => (s.queues (some persona)).fallback.queue
  | .fallback => if s.broker.up then s.broker.records persona else []

theorem count_places (s : KafkaSystem) (persona : String) (job : WorkerJob) :
    (s.line persona).count job + (s.awaited persona).count job + (s.hidden persona).count job =
      (s.broker.records persona).count job + (s.queues (some persona)).fallback.queue.count job := by
  have topic := (s.queues (some persona)).source_topic_iff s.broker.up
  have silence := (s.queues (some persona)).source_silence_iff s.broker.up
  unfold line awaited hidden
  cases source : (s.queues (some persona)).source s.broker.up with
  | topic => simp [(topic.mp source).2]
  | silence => simp [(silence.mp source).1]
  | fallback => cases s.broker.up <;> simp [Nat.add_comm]

theorem Accounted.mem_hidden {s : KafkaSystem} (accounted : s.Accounted) {persona : String} {job : WorkerJob}
    (member : job ∈ s.hidden persona) : job.persona = persona := by
  have own : job ∈ (s.queues (some persona)).fallback.queue → job.persona = persona := fun member =>
    (Option.some.inj (accounted.placed (some persona) job member)).symm
  unfold hidden at member
  split at member
  · exact own member
  · exact own member
  · split_ifs at member
    · exact accounted.topics persona job member
    · cases member

theorem strandsNone_iff_hidden {s : KafkaSystem} (accounted : s.Accounted) :
    s.StrandsNone ↔ ∀ persona, s.hidden persona = [] := by
  rw [strandsNone_iff]
  constructor
  · intro all persona
    rw [List.eq_nil_iff_forall_not_mem]
    intro job member
    obtain rfl := accounted.mem_hidden member
    have some := List.count_pos_iff.mpr member
    have settled := all job
    have exact := accounted.exact job
    have places := s.count_places job.persona job
    omega
  · intro empty job
    have exact := accounted.exact job
    have places := s.count_places job.persona job
    rw [empty, List.count_nil] at places
    omega

section

variable {s : KafkaSystem} {key : Option String} {q : KafkaJobQueue key}

theorem count_snoc_if {jobs : List WorkerJob} {job other : WorkerJob} {here : Prop} [Decidable here]
    (own : job = other → here) :
    (if here then jobs ++ [job] else jobs).count other = jobs.count other + [job].count other := by
  split_ifs with placed
  · exact List.count_append
  · have absent : [job].count other = 0 := by
      rw [List.count_eq_zero, List.mem_singleton]
      intro same
      exact placed (own same.symm)
    rw [absent, Nat.add_zero]

theorem Accounted.sent (accounted : s.Accounted) (job : WorkerJob) (kept : q.fallback = (s.queues key).fallback) :
    Accounted { s with
      broker := s.broker.sent job
      queues := Function.update s.queues key q
      accepted := s.accepted ++ [job] } := by
  have fallback := KafkaJobQueue.fallback_update_kept kept
  constructor
  · intro persona member present
    rw [KafkaBroker.records_sent] at present
    split_ifs at present with same
    · rcases List.mem_append.mp present with old | new
      · exact accounted.topics persona member old
      · rw [List.mem_singleton.mp new, same]
    · exact accounted.topics persona member present
  · intro other member present
    rw [fallback] at present
    exact accounted.placed other member present
  · intro other
    have exact := accounted.exact other
    simp only [fallback, KafkaBroker.records_sent, List.count_append]
    rw [count_snoc_if fun same => congrArg WorkerJob.persona same.symm]
    omega

theorem Accounted.fallen_back {job : WorkerJob} (accounted : s.Accounted)
    (added : q.fallback = (s.queues key).fallback.enqueue job) (own : key = some job.persona) :
    Accounted { s with
      queues := Function.update s.queues key q
      accepted := s.accepted ++ [job] } := by
  have fallback : ∀ other, (Function.update s.queues key q other).fallback.queue =
      if other = key then (s.queues other).fallback.queue ++ [job] else (s.queues other).fallback.queue := by
    intro other
    rw [KafkaJobQueue.fallback_update]
    split_ifs with same
    · subst same
      rw [added, InMemoryJobQueue.enqueue]
    · rfl
  constructor
  · exact accounted.topics
  · intro other member present
    rw [fallback] at present
    split_ifs at present with same
    · rcases List.mem_append.mp present with old | new
      · exact accounted.placed other member old
      · rw [List.mem_singleton.mp new, same, own]
    · exact accounted.placed other member present
  · intro other
    have exact := accounted.exact other
    simp only [fallback, List.count_append]
    rw [count_snoc_if fun same => by rw [own, same]]
    omega

theorem count_head_tail (jobs : List WorkerJob) (job : WorkerJob) :
    jobs.head?.toList.count job + jobs.tail.count job = jobs.count job := by
  cases jobs with
  | nil => rfl
  | cons head rest =>
    rw [List.head?_cons, Option.toList_some, List.tail_cons, ← List.count_append, List.singleton_append]

theorem count_head_of_other {jobs : List WorkerJob} {persona : String} {job : WorkerJob}
    (only : ∀ job ∈ jobs, job.persona = persona) (other : job.persona ≠ persona) :
    jobs.head?.toList.count job = 0 := by
  rw [List.count_eq_zero]
  intro member
  exact other (only job (List.mem_of_head? (Option.mem_toList.mp member)))

theorem Accounted.consumed {persona : String} {q : KafkaJobQueue (some persona)} (accounted : s.Accounted)
    (kept : q.fallback = (s.queues (some persona)).fallback) :
    Accounted { s with
      broker := s.broker.consumed persona
      queues := Function.update s.queues (some persona) q
      returned := s.returned ++ (s.broker.records persona).head?.toList } := by
  have fallback := KafkaJobQueue.fallback_update_kept kept
  constructor
  · intro other member present
    rw [KafkaBroker.records_consumed] at present
    split_ifs at present with same
    · exact accounted.topics other member (List.mem_of_mem_tail present)
    · exact accounted.topics other member present
  · intro other member present
    rw [fallback] at present
    exact accounted.placed other member present
  · intro job
    have exact := accounted.exact job
    simp only [fallback, KafkaBroker.records_consumed, List.count_append]
    split_ifs with same
    · subst same
      have split := count_head_tail (s.broker.records job.persona) job
      omega
    · rw [count_head_of_other (accounted.topics persona) same]
      exact exact

theorem Accounted.taken (accounted : s.Accounted) (rest : q.fallback = (s.queues key).fallback.dequeue.1) :
    Accounted { s with
      queues := Function.update s.queues key q
      returned := s.returned ++ (s.queues key).fallback.queue.head?.toList } := by
  have fallback : ∀ other, (Function.update s.queues key q other).fallback.queue =
      if other = key then (s.queues other).fallback.queue.tail else (s.queues other).fallback.queue := by
    intro other
    rw [KafkaJobQueue.fallback_update]
    split_ifs with same
    · subst same
      rw [rest, InMemoryJobQueue.dequeue_rest]
    · rfl
  constructor
  · exact accounted.topics
  · intro other member present
    rw [fallback] at present
    split_ifs at present with same
    · exact accounted.placed other member (List.mem_of_mem_tail present)
    · exact accounted.placed other member present
  · intro job
    have exact := accounted.exact job
    simp only [fallback, List.count_append]
    split_ifs with own
    · have split := count_head_tail (s.queues key).fallback.queue job
      rw [own] at exact ⊢
      omega
    · have absent : (s.queues key).fallback.queue.head?.toList.count job = 0 := by
        rw [List.count_eq_zero]
        intro member
        exact own (accounted.placed key job (List.mem_of_head? (Option.mem_toList.mp member))).symm
      rw [absent]
      exact exact

theorem Accounted.enqueue {job : WorkerJob} (accounted : s.Accounted)
    (retrievable : s.Retrievable (.enqueue key job)) : (s.enqueue key job).Accounted := by
  unfold KafkaSystem.enqueue
  cases did : (s.queues key).aenqueue s.broker job with
  | none => exact accounted
  | some after =>
    obtain ⟨q, broker⟩ := after
    obtain ⟨-, (⟨-, -, kept, rfl⟩ | ⟨falls, added, rfl⟩)⟩ := KafkaJobQueue.aenqueue_cases did
    · exact accounted.sent job kept
    · simp only [Retrievable, falls, if_true] at retrievable
      exact accounted.fallen_back added retrievable

theorem Accounted.dequeue (accounted : s.Accounted) (key : Option String) (getone : Getone) :
    (s.dequeue key getone).Accounted := by
  unfold KafkaSystem.dequeue
  dsimp only
  obtain ⟨-, (⟨persona, rfl, kept, answer⟩ | ⟨kept, answer⟩ | ⟨rest, answer⟩)⟩ :=
    (s.queues key).adequeue_cases s.broker getone
  · rw [answer]
    exact accounted.consumed kept
  · rw [answer, Option.toList_none, List.append_nil]
    exact accounted.congr rfl (KafkaJobQueue.fallback_update_kept kept) rfl rfl
  · rw [answer, InMemoryJobQueue.dequeue_job]
    exact accounted.taken rest

theorem Accounted.turned (accounted : s.Accounted) (up : Bool) : (s.turned up).Accounted :=
  ⟨accounted.topics, accounted.placed, accounted.exact⟩

theorem Accounted.step {t : KafkaSystem} {action : KafkaStep} (accounted : s.Accounted)
    (retrievable : s.Retrievable action) (taken : s.step action = some t) : t.Accounted := by
  cases action with
  | reachable =>
    cases taken
    exact accounted.turned _
  | unreachable =>
    cases taken
    exact accounted.turned _
  | enqueue key job =>
    cases taken
    exact accounted.enqueue retrievable
  | dequeue key getone =>
    cases taken
    exact accounted.dequeue key getone

theorem hidden_dequeue {persona : String} (empty : s.hidden persona = []) (key : Option String) (getone : Getone) :
    (s.dequeue key getone).hidden persona = [] := by
  obtain ⟨source, moved⟩ := (s.queues key).adequeue_cases s.broker getone
  have fallback : (s.queues (some persona)).fallback.queue = [] →
      ((s.dequeue key getone).queues (some persona)).fallback.queue = [] := by
    intro none
    simp only [dequeue, KafkaJobQueue.fallback_update]
    split_ifs with same
    · subst same
      rcases moved with ⟨_, -, kept, -⟩ | ⟨kept, -⟩ | ⟨rest, -⟩
      · rw [kept, none]
      · rw [kept, none]
      · rw [rest, InMemoryJobQueue.dequeue_rest, none, List.tail_nil]
    · exact none
  have broker : (s.dequeue key getone).broker.up = s.broker.up ∧
      (s.broker.records persona = [] → (s.dequeue key getone).broker.records persona = []) := by
    simp only [dequeue]
    rcases moved with ⟨read, -, -, answer⟩ | ⟨-, answer⟩ | ⟨-, answer⟩
    · rw [answer]
      refine ⟨rfl, ?_⟩
      intro none
      rw [KafkaBroker.records_consumed, none, List.tail_nil, ite_self]
    · rw [answer]
      exact ⟨rfl, id⟩
    · rw [answer]
      exact ⟨rfl, id⟩
  unfold hidden at empty ⊢
  rw [broker.1, show ((s.dequeue key getone).queues (some persona)).source s.broker.up =
    (s.queues (some persona)).source s.broker.up from KafkaJobQueue.source_update source (some persona)]
  split at empty
  · exact fallback empty
  · exact fallback empty
  · split_ifs at empty ⊢
    · exact broker.2 empty
    · rfl

theorem strandsNone_sent_iff {job : WorkerJob} (accounted : s.Accounted)
    (empty : ∀ persona, s.hidden persona = []) (up : s.broker.up = true) (kept : q.fallback = (s.queues key).fallback)
    (source : ∀ up, q.source up = (s.queues key).source up) :
    StrandsNone { s with
      broker := s.broker.sent job
      queues := Function.update s.queues key q
      accepted := s.accepted ++ [job] } ↔ ¬ (s.queues (some job.persona)).Latched := by
  rw [strandsNone_iff_hidden (accounted.sent job kept)]
  have fallback := KafkaJobQueue.fallback_update_kept kept
  have looks : ∀ persona, (Function.update s.queues key q (some persona)).source true =
      (s.queues (some persona)).source true := fun persona => KafkaJobQueue.source_update (source true) (some persona)
  simp only [hidden, KafkaBroker.sent_up, looks, fallback, up, if_true] at empty ⊢
  constructor
  · intro settled latched
    have turned := ((s.queues (some job.persona)).source_fallback_iff true).mpr (.inl latched)
    have none := settled job.persona
    rw [turned, KafkaBroker.records_sent, if_pos rfl] at none
    simp at none
  · intro alive persona
    have none := empty persona
    cases look : (s.queues (some persona)).source true with
    | topic =>
      rw [look] at none
      exact none
    | silence =>
      rw [look] at none
      exact none
    | fallback =>
      have latched : (s.queues (some persona)).Latched := by
        simpa using ((s.queues (some persona)).source_fallback_iff true).mp look
      rw [look] at none
      dsimp only at none ⊢
      rw [KafkaBroker.records_sent, if_neg, none]
      intro same
      subst same
      exact alive latched

theorem strandsNone_fallen_back_iff {job : WorkerJob} (accounted : s.Accounted)
    (empty : ∀ persona, s.hidden persona = []) (falls : (s.queues key).FallsBack s.broker.up)
    (added : q.fallback = (s.queues key).fallback.enqueue job)
    (source : ∀ up, q.source up = (s.queues key).source up) :
    StrandsNone { s with
      queues := Function.update s.queues key q
      accepted := s.accepted ++ [job] } ↔ key = some job.persona := by
  constructor
  · intro settled
    by_contra other
    have apart : (some job.persona : Option String) ≠ key := Ne.symm other
    have all := (strandsNone_iff _).mp settled job
    simp only [line, awaited, Function.update_of_ne apart, List.count_append, List.count_singleton_self] at all
    have exact := accounted.exact job
    have places := s.count_places job.persona job
    simp only [line, awaited] at places
    omega
  · intro own
    rw [strandsNone_iff_hidden (accounted.fallen_back added own)]
    intro persona
    have none := empty persona
    have look : (Function.update s.queues key q (some persona)).source s.broker.up =
        (s.queues (some persona)).source s.broker.up := KafkaJobQueue.source_update (source s.broker.up) (some persona)
    by_cases same : some persona = key
    · subst same
      have turned := KafkaJobQueue.source_of_fallsBack falls
      simp only [hidden, look, turned] at none ⊢
      exact none
    · simp only [hidden, look, KafkaJobQueue.fallback_update, if_neg same] at none ⊢
      exact none

theorem strandsNone_enqueue_iff {job : WorkerJob} (accounted : s.Accounted)
    (settled : s.StrandsNone) : (s.enqueue key job).StrandsNone ↔ s.Retrievable (.enqueue key job) := by
  have empty := (strandsNone_iff_hidden accounted).mp settled
  unfold enqueue
  cases did : (s.queues key).aenqueue s.broker job with
  | none =>
    obtain ⟨sends, down⟩ := KafkaJobQueue.aenqueue_raises did
    rw [Retrievable, if_neg sends, down]
    exact iff_of_true settled (by simp)
  | some after =>
    obtain ⟨q, broker⟩ := after
    obtain ⟨source, (⟨sends, up, kept, rfl⟩ | ⟨falls, added, rfl⟩)⟩ := KafkaJobQueue.aenqueue_cases did
    · rw [Retrievable, if_neg sends, strandsNone_sent_iff accounted empty up kept source]
      exact ⟨fun alive _ => alive, fun alive => alive up⟩
    · rw [Retrievable, if_pos falls]
      exact strandsNone_fallen_back_iff accounted empty falls added source

theorem strandsNone_step_iff {t : KafkaSystem} {action : KafkaStep} (accounted : s.Accounted)
    (settled : s.StrandsNone) (taken : s.step action = some t) : t.StrandsNone ↔ s.Retrievable action := by
  have empty := (strandsNone_iff_hidden accounted).mp settled
  cases action with
  | reachable =>
    cases taken
    rw [strandsNone_iff_hidden (accounted.turned _)]
    apply forall_congr'
    intro persona
    have hidden : (s.turned true).hidden persona =
        if (s.queues (some persona)).Latched then s.broker.records persona
        else (s.queues (some persona)).fallback.queue := by
      simp only [KafkaSystem.hidden, turned, KafkaJobQueue.source, if_true]
      split_ifs <;> rfl
    rw [hidden]
    split_ifs <;> rfl
  | unreachable =>
    cases taken
    rw [strandsNone_iff_hidden (accounted.turned _)]
    refine iff_of_true ?_ trivial
    intro persona
    have none := empty persona
    simp only [hidden, turned, KafkaJobQueue.source, Bool.false_eq_true, if_false] at none ⊢
    by_cases latched : (s.queues (some persona)).Latched
    · rw [if_pos latched]
    · by_cases consuming : (s.queues (some persona)).consumer = true
      · cases up : s.broker.up <;> simpa [latched, consuming, up] using none
      · simp [latched, consuming]
  | enqueue key job =>
    cases taken
    exact strandsNone_enqueue_iff accounted settled
  | dequeue key getone =>
    cases taken
    rw [strandsNone_iff_hidden (accounted.dequeue key getone)]
    exact iff_of_true (fun persona => hidden_dequeue (empty persona) key getone) trivial

end

theorem accounted_initial (up : Bool) : Accounted { broker := { up } } :=
  ⟨fun _ _ none => absurd none (by simp [KafkaBroker.records]), fun _ _ none => absurd none (by simp),
    fun _ => by simp [KafkaBroker.records]⟩

/-- In a run no job is stranded throughout exactly when every step is retrievable. -/
theorem strands_none_iff {up : Bool} {actions : List KafkaStep} {s : KafkaSystem}
    (reached : Transition.run step { broker := { up } } actions = some s) :
    Transition.Always step StrandsNone { broker := { up } } actions ↔
      Transition.Guarded step Retrievable { broker := { up } } actions := by
  have start : StrandsNone { broker := { up } } := by
    rw [strandsNone_iff]
    simp
  exact Transition.always_iff_guarded Accounted (fun _ _ _ accounted _ allowed taken => accounted.step allowed taken)
    (fun _ _ _ accounted settled taken => strandsNone_step_iff accounted settled taken) (accounted_initial up)
    start reached

theorem strands_none_iff_reachable :
    Transition.Always step StrandsNone { broker := { up := true } }
        [.enqueue none queuedJob, .dequeue (some "soc") .timeout] ↔
      Transition.Guarded step Retrievable { broker := { up := true } }
        [.enqueue none queuedJob, .dequeue (some "soc") .timeout] :=
  strands_none_iff (Option.some_get (show (Transition.run step { broker := { up := true } }
    [.enqueue none queuedJob, .dequeue (some "soc") .timeout]).isSome = true by decide)).symm

/-- The job goes to the fallback while the broker cannot be reached, and dequeues read the topic
    from then on. -/
theorem fallback_job_stranded :
    ∃ s, Transition.run step { broker := { up := false } }
        [.enqueue (some "soc") queuedJob, .reachable] = some s ∧
      s.accepted = [queuedJob] ∧ (∀ getones, (s.drain "soc" getones).returned = []) ∧ ¬ s.StrandsNone := by
  refine ⟨_, rfl, rfl, ?_, ?_⟩
  · intro getones
    rw [(drain_line getones (by decide)).1]
    exact List.take_nil
  · intro settled
    have all := (strandsNone_iff _).mp settled queuedJob
    revert all
    decide

end KafkaSystem

end CysAgi
