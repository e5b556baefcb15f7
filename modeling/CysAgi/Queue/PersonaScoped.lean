import CysAgi.Base.Dispatch
import CysAgi.Queue.KafkaJobQueue

namespace CysAgi

/-- What the settings choose, and for which queue objects the server or broker is reachable.
    `none` keys the object of the router and the API, `some` that of a worker. -/
inductive Backend where
  | memory
  | redis (reachable : Option String → Bool)
  | kafka (reachable : Option String → Bool)

structure JobQueues where
  memory : InMemoryJobQueue := {}
  stream : RedisStream := .empty
  redis : Option String → RedisJobQueue
  topics : String → List WorkerJob := fun _ => []
  kafka : (key : Option String) → KafkaJobQueue key := fun _ => .fresh

inductive Place where
  | memory
  | stream
  | topic (persona : String)
  | fallback (key : Option String)
  deriving DecidableEq

namespace Backend

def initial (backend : Backend) : JobQueues where
  redis key :=
    match backend with
    | redis reachable => { redis := reachable key }
    | _ => { redis := false }

def enqueue (backend : Backend) (queues : JobQueues) (job : WorkerJob) : Option JobQueues :=
  match backend with
  | memory => some { queues with memory := queues.memory.enqueue job }
  | redis _ =>
    let added := (queues.redis none).enqueue queues.stream job
    some { queues with redis := Function.update queues.redis none added.1, stream := added.2 }
  | kafka reachable =>
    ((queues.kafka none).aenqueue ⟨reachable none, queues.topics⟩ job).map fun added =>
      { queues with kafka := Function.update queues.kafka none added.1, topics := added.2.topics }

/-- No consumer is ever started where the broker cannot be reached, so none falls silent. -/
def dequeue (backend : Backend) (queues : JobQueues) (persona : String) : JobQueues × Option WorkerJob :=
  match backend with
  | memory => ({ queues with memory := queues.memory.dequeue.1 }, queues.memory.dequeue.2)
  | redis _ =>
    let taken := (queues.redis (some persona)).dequeue queues.stream
    ({ queues with redis := Function.update queues.redis (some persona) taken.1, stream := taken.2.1 }, taken.2.2)
  | kafka reachable =>
    let taken := (queues.kafka (some persona)).adequeue ⟨reachable (some persona), queues.topics⟩ .timeout
    ({ queues with
        kafka := Function.update queues.kafka (some persona) taken.1, topics := taken.2.1.topics }, taken.2.2)

def puts (backend : Backend) (job : WorkerJob) : Place :=
  match backend with
  | memory => .memory
  | redis reachable => if reachable none then .stream else .fallback none
  | kafka reachable => if reachable none then .topic job.persona else .fallback none

def reads (backend : Backend) (persona : String) : Place :=
  match backend with
  | memory => .memory
  | redis reachable => if reachable (some persona) then .stream else .fallback (some persona)
  | kafka reachable => if reachable (some persona) then .topic persona else .fallback (some persona)

def jobsAt (backend : Backend) (queues : JobQueues) : Place → List WorkerJob
  | .memory => queues.memory.queue
  | .stream => queues.stream.entries.map Prod.snd
  | .topic persona => queues.topics (workerJobTopic persona)
  | .fallback key =>
    match backend with
    | kafka _ => (queues.kafka key).fallback.queue
    | _ => (queues.redis key).fallback.queue

def Settled (backend : Backend) (queues : JobQueues) : Prop :=
  match backend with
  | memory => True
  | redis reachable => ∀ key, (queues.redis key).redis = reachable key
  | kafka reachable =>
    ((queues.kafka none).FallsBack (reachable none) ↔ reachable none = false) ∧
      ∀ persona, (queues.kafka (some persona)).source (reachable (some persona)) =
        if reachable (some persona) then .topic else .fallback

variable {backend : Backend} {queues : JobQueues}

theorem enqueue_memory (job : WorkerJob) :
    ∃ after, memory.enqueue queues job = some after ∧ memory.Settled after ∧
      memory.jobsAt after = Function.update (memory.jobsAt queues) .memory (memory.jobsAt queues .memory ++ [job]) := by
  refine ⟨_, rfl, trivial, ?_⟩
  funext place
  cases place <;> simp [jobsAt, InMemoryJobQueue.enqueue]

theorem dequeue_memory (persona : String) :
    memory.Settled (memory.dequeue queues persona).1 ∧
      (memory.dequeue queues persona).2 = (memory.jobsAt queues .memory).head? ∧
      memory.jobsAt (memory.dequeue queues persona).1 =
        Function.update (memory.jobsAt queues) .memory (memory.jobsAt queues .memory).tail := by
  refine ⟨trivial, InMemoryJobQueue.dequeue_job _, ?_⟩
  funext place
  cases place <;> simp [jobsAt, dequeue]

section

variable {reachable : Option String → Bool}

theorem enqueue_redis (settled : (redis reachable).Settled queues) (job : WorkerJob) :
    ∃ after, (redis reachable).enqueue queues job = some after ∧ (redis reachable).Settled after ∧
      (redis reachable).jobsAt after = Function.update ((redis reachable).jobsAt queues)
        ((redis reachable).puts job) ((redis reachable).jobsAt queues ((redis reachable).puts job) ++ [job]) := by
  have connected : (queues.redis none).redis = reachable none := settled none
  refine ⟨_, rfl, ?_, ?_⟩
  · intro key
    by_cases same : key = none
    · subst same
      simp only [Function.update_self, RedisJobQueue.enqueue]
      split_ifs <;> exact connected
    · simp only [Function.update_of_ne same]
      exact settled key
  · funext place
    simp only [RedisJobQueue.enqueue, connected, puts]
    split_ifs with up
    · cases place <;> simp [jobsAt, RedisStream.xadd, RedisStream.added]
    · cases place with
      | fallback key => cases key <;> simp [jobsAt, InMemoryJobQueue.enqueue]
      | _ => simp [jobsAt]

theorem enqueue_kafka (settled : (kafka reachable).Settled queues) (job : WorkerJob) :
    ∃ after, (kafka reachable).enqueue queues job = some after ∧ (kafka reachable).Settled after ∧
      (kafka reachable).jobsAt after = Function.update ((kafka reachable).jobsAt queues)
        ((kafka reachable).puts job) ((kafka reachable).jobsAt queues ((kafka reachable).puts job) ++ [job]) := by
  obtain ⟨producer, consumers⟩ := settled
  cases did : (queues.kafka none).aenqueue ⟨reachable none, queues.topics⟩ job with
  | none =>
    obtain ⟨sends, down⟩ := KafkaJobQueue.aenqueue_raises did
    exact absurd (producer.mpr down) sends
  | some added =>
    obtain ⟨q, broker⟩ := added
    have same := KafkaJobQueue.aenqueue_fallsBack did
    refine ⟨_, by rw [enqueue, did, Option.map_some], ⟨?_, ?_⟩, ?_⟩
    · simp only [Function.update_self]
      exact same.trans producer
    · intro persona
      exact consumers persona
    · funext place
      obtain ⟨-, (⟨sends, up, kept, rfl⟩ | ⟨falls, added, rfl⟩)⟩ := KafkaJobQueue.aenqueue_cases did
      · dsimp only at up
        cases place with
        | topic persona =>
          have placed := KafkaBroker.records_sent ⟨true, queues.topics⟩ job persona
          simp only [KafkaBroker.records] at placed
          by_cases own : persona = job.persona
          · subst own
            simp [jobsAt, puts, up, placed]
          · simp [jobsAt, puts, up, placed, own]
        | fallback key =>
          cases key <;> simp [jobsAt, puts, up, kept]
        | _ => simp [jobsAt, puts, up]
      · have down := producer.mp falls
        cases place with
        | fallback key =>
          cases key <;> simp [jobsAt, puts, down, added, InMemoryJobQueue.enqueue]
        | _ => simp [jobsAt, puts, down]

theorem dequeue_redis (settled : (redis reachable).Settled queues) (persona : String) :
    (redis reachable).Settled ((redis reachable).dequeue queues persona).1 ∧
      ((redis reachable).dequeue queues persona).2 =
        ((redis reachable).jobsAt queues ((redis reachable).reads persona)).head? ∧
      (redis reachable).jobsAt ((redis reachable).dequeue queues persona).1 =
        Function.update ((redis reachable).jobsAt queues) ((redis reachable).reads persona)
          ((redis reachable).jobsAt queues ((redis reachable).reads persona)).tail := by
  have connected : (queues.redis (some persona)).redis = reachable (some persona) := settled (some persona)
  cases up : reachable (some persona) with
  | true =>
    obtain ⟨kept, rest, head⟩ := RedisJobQueue.dequeue_connected (connected.trans up) queues.stream
    simp only [dequeue, reads, up, if_true, kept, Function.update_eq_self]
    refine ⟨settled, head, ?_⟩
    funext place
    cases place <;> simp [jobsAt, rest]
  | false =>
    have alone := RedisJobQueue.dequeue_fallback (connected.trans up) queues.stream
    simp only [dequeue, reads, up, Bool.false_eq_true, if_false, alone]
    refine ⟨?_, InMemoryJobQueue.dequeue_job _, ?_⟩
    · intro key
      by_cases same : key = some persona
      · subst same
        simp [connected]
      · simp only [Function.update_of_ne same]
        exact settled key
    · funext place
      cases place with
      | fallback key =>
        by_cases same : key = some persona
        · subst same
          simp [jobsAt]
        · simp [jobsAt, same]
      | _ => simp [jobsAt]

theorem settled_dequeue_kafka (settled : (kafka reachable).Settled queues) (persona : String) :
    (kafka reachable).Settled ((kafka reachable).dequeue queues persona).1 := by
  obtain ⟨producer, consumers⟩ := settled
  have kept := ((queues.kafka (some persona)).adequeue_cases ⟨reachable (some persona), queues.topics⟩ .timeout).1
  refine ⟨producer, fun other => ?_⟩
  by_cases same : other = persona
  · subst same
    simp only [dequeue, Function.update_self, kept]
    exact consumers other
  · simp only [dequeue, Function.update_of_ne (fun equal => same (Option.some.inj equal))]
    exact consumers other

theorem dequeue_kafka (settled : (kafka reachable).Settled queues) (persona : String) :
    (kafka reachable).Settled ((kafka reachable).dequeue queues persona).1 ∧
      ((kafka reachable).dequeue queues persona).2 =
        ((kafka reachable).jobsAt queues ((kafka reachable).reads persona)).head? ∧
      (kafka reachable).jobsAt ((kafka reachable).dequeue queues persona).1 =
        Function.update ((kafka reachable).jobsAt queues) ((kafka reachable).reads persona)
          ((kafka reachable).jobsAt queues ((kafka reachable).reads persona)).tail := by
  refine ⟨settled_dequeue_kafka settled persona, ?_⟩
  have own := settled.2 persona
  cases up : reachable (some persona) with
  | true =>
    rw [up, if_pos rfl] at own
    obtain ⟨-, fallback, answer⟩ :=
      @KafkaJobQueue.adequeue_topic persona (queues.kafka (some persona)) ⟨true, queues.topics⟩ own .timeout
    simp only [dequeue, reads, up, if_true, answer]
    refine ⟨rfl, ?_⟩
    funext place
    cases place with
    | topic other =>
      have read := KafkaBroker.records_consumed ⟨true, queues.topics⟩ persona other
      simp only [KafkaBroker.records] at read
      by_cases same : other = persona
      · subst same
        simp [jobsAt, read]
      · simp [jobsAt, read, same]
    | fallback key =>
      simp only [jobsAt, KafkaJobQueue.fallback_update, fallback]
      by_cases same : key = some persona
      · subst same
        simp [jobsAt]
      · simp [jobsAt, same]
    | _ => simp [jobsAt]
  | false =>
    rw [up, if_neg Bool.false_ne_true] at own
    obtain ⟨-, fallback, answer⟩ :=
      @KafkaJobQueue.adequeue_fallback persona (queues.kafka (some persona)) ⟨false, queues.topics⟩ own .timeout
    simp only [dequeue, reads, up, Bool.false_eq_true, if_false, answer]
    refine ⟨InMemoryJobQueue.dequeue_job _, ?_⟩
    funext place
    cases place with
    | fallback key =>
      simp only [jobsAt, KafkaJobQueue.fallback_update, fallback]
      by_cases same : key = some persona
      · subst same
        simp
      · simp [jobsAt, same]
    | _ => simp [jobsAt]

end

theorem enqueue_spec (settled : backend.Settled queues) (job : WorkerJob) :
    ∃ after, backend.enqueue queues job = some after ∧ backend.Settled after ∧
      backend.jobsAt after = Function.update (backend.jobsAt queues) (backend.puts job)
        (backend.jobsAt queues (backend.puts job) ++ [job]) := by
  cases backend with
  | memory => exact enqueue_memory job
  | redis reachable => exact enqueue_redis settled job
  | kafka reachable => exact enqueue_kafka settled job

theorem dequeue_spec (settled : backend.Settled queues) (persona : String) :
    backend.Settled (backend.dequeue queues persona).1 ∧
      (backend.dequeue queues persona).2 = (backend.jobsAt queues (backend.reads persona)).head? ∧
      backend.jobsAt (backend.dequeue queues persona).1 =
        Function.update (backend.jobsAt queues) (backend.reads persona)
          (backend.jobsAt queues (backend.reads persona)).tail := by
  cases backend with
  | memory => exact dequeue_memory persona
  | redis reachable => exact dequeue_redis settled persona
  | kafka reachable => exact dequeue_kafka settled persona

end Backend

/-- The queues, what the router has enqueued and what the workers of each persona have dequeued. -/
structure ScopedSystem where
  queues : JobQueues
  enqueued : List WorkerJob := []
  dequeued : String → List WorkerJob := fun _ => []

inductive ScopedStep where
  | enqueue (job : WorkerJob)
  | dequeue (persona : String)

namespace ScopedSystem

section

variable (backend : Backend)

def dequeue (s : ScopedSystem) (persona : String) : ScopedSystem :=
  let taken := backend.dequeue s.queues persona
  { s with
    queues := taken.1
    dequeued := Function.update s.dequeued persona (s.dequeued persona ++ taken.2.toList) }

def step (s : ScopedSystem) : ScopedStep → Option ScopedSystem
  | .enqueue job => (backend.enqueue s.queues job).map fun queues =>
    { s with queues, enqueued := s.enqueued ++ [job] }
  | .dequeue persona => some (s.dequeue backend persona)

def ScopedDelivery (persona : String) (s : ScopedSystem) : Prop :=
  ∃ n, ∀ m ≥ n, (((fun t => dequeue backend t persona)^[m] s).dequeued persona).Perm
    (s.enqueued.filter fun job => job.persona = persona)

def OwnPlace (persona : String) (s : ScopedSystem) : ScopedStep → Prop
  | .enqueue job => backend.puts job = backend.reads persona ↔ job.persona = persona
  | .dequeue other =>
    other = persona ∨ backend.reads other ≠ backend.reads persona ∨
      backend.jobsAt s.queues (backend.reads persona) = []

def rules : Dispatch.Rules String WorkerJob Place where
  puts := backend.puts
  reads := backend.reads
  wants persona job := job.persona = persona

def lines (s : ScopedSystem) : Dispatch.Lines String WorkerJob Place where
  lines := backend.jobsAt s.queues
  sent := s.enqueued
  got := s.dequeued

def move : ScopedStep → Dispatch.Move String WorkerJob
  | .enqueue job => .send job
  | .dequeue persona => .take persona

variable {backend}

theorem lines_dequeue {s : ScopedSystem} (settled : backend.Settled s.queues) (persona : String) :
    (s.dequeue backend persona).lines backend = Dispatch.take (rules backend) (s.lines backend) persona := by
  obtain ⟨-, head, rest⟩ := Backend.dequeue_spec settled persona
  unfold Dispatch.take
  simp only [rules, lines, dequeue, head, rest]
  cases line : backend.jobsAt s.queues (backend.reads persona) with
  | nil =>
    simp only [List.tail_nil, List.head?_nil, Option.toList_none, List.append_nil, Function.update_eq_self]
    rw [← line, Function.update_eq_self]
  | cons job rest => rfl

def dispatched (backend : Backend) : Transition.Embedding (step backend) (Dispatch.step (rules backend)) where
  state := lines backend
  action := move
  Inv s := backend.Settled s.queues
  invariant s action t settled taken := by
    cases action with
    | enqueue job =>
      obtain ⟨after, did, kept, -⟩ := Backend.enqueue_spec settled job
      rw [step, did] at taken
      cases taken
      exact kept
    | dequeue persona =>
      cases taken
      exact (Backend.dequeue_spec settled persona).1
  commutes s action settled := by
    cases action with
    | enqueue job =>
      obtain ⟨after, did, -, places⟩ := Backend.enqueue_spec settled job
      simp only [step, did, Option.map_some, move, Dispatch.step, Dispatch.send, lines, rules, places]
    | dequeue persona =>
      simp only [step, Option.map_some, move, Dispatch.step, lines_dequeue settled]

theorem lines_iterate (persona : String) (n : Nat) {s : ScopedSystem} (settled : backend.Settled s.queues) :
    ((fun t => dequeue backend t persona)^[n] s).lines backend =
      (fun t => Dispatch.take (rules backend) t persona)^[n] (s.lines backend) := by
  induction n generalizing s with
  | zero => rfl
  | succ n ih =>
    rw [Function.iterate_succ_apply, Function.iterate_succ_apply, ← lines_dequeue settled]
    exact ih (Backend.dequeue_spec settled persona).1

theorem served_lines (persona : String) {s : ScopedSystem} (settled : backend.Settled s.queues) :
    Dispatch.Served (rules backend) persona (s.lines backend) ↔ s.ScopedDelivery backend persona := by
  have got : ∀ m, ((fun t => Dispatch.take (rules backend) t persona)^[m] (s.lines backend)).got persona =
      ((fun t => dequeue backend t persona)^[m] s).dequeued persona := fun m =>
    congrArg (fun lines => lines.got persona) (lines_iterate persona m settled).symm
  simp only [Dispatch.Served, ScopedDelivery, got]
  rfl

theorem scopedDelivery_iff_perm (persona : String) {s : ScopedSystem} (settled : backend.Settled s.queues) :
    s.ScopedDelivery backend persona ↔
      (s.dequeued persona ++ backend.jobsAt s.queues (backend.reads persona)).Perm
        (s.enqueued.filter fun job => job.persona = persona) := by
  rw [← served_lines persona settled]
  exact Dispatch.served_iff persona _

theorem separate_lines (persona : String) (s : ScopedSystem) (action : ScopedStep) :
    Dispatch.Separate (rules backend) persona (s.lines backend) (move action) ↔ s.OwnPlace backend persona action := by
  cases action with
  | enqueue job => simp [Dispatch.Separate, OwnPlace, move, rules]
  | dequeue other => exact Iff.rfl

theorem settled_initial (backend : Backend) : (dispatched backend).Inv { queues := backend.initial } := by
  cases backend with
  | memory => trivial
  | redis reachable => exact fun key => rfl
  | kafka reachable =>
    constructor
    · simp [Backend.initial, KafkaJobQueue.fresh, KafkaJobQueue.FallsBack, KafkaJobQueue.Latched]
    · intro persona
      simp [Backend.initial, KafkaJobQueue.fresh, KafkaJobQueue.source, KafkaJobQueue.Latched]

theorem settled_of_run {actions : List ScopedStep} {s : ScopedSystem}
    (reached : Transition.run (step backend) { queues := backend.initial } actions = some s) :
    backend.Settled s.queues :=
  Transition.invariant_run (dispatched backend).invariant (settled_initial backend) reached

theorem served_initial (backend : Backend) (persona : String) :
    Dispatch.Served (rules backend) persona (lines backend { queues := backend.initial }) := by
  have empty : ∀ place, backend.jobsAt backend.initial place = [] := by
    intro place
    cases backend <;> cases place <;> rfl
  rw [Dispatch.served_iff]
  simp only [lines, rules, empty]
  exact List.Perm.nil

variable (backend) in
/-- In a run a persona's worker gets the jobs of its persona throughout exactly when they have
    a place of their own. -/
theorem scoped_delivery_iff (persona : String) {actions : List ScopedStep} {s : ScopedSystem}
    (reached : Transition.run (step backend) { queues := backend.initial } actions = some s) :
    Transition.Always (step backend) (ScopedDelivery backend persona) { queues := backend.initial } actions ↔
      Transition.Guarded (step backend) (OwnPlace backend persona) { queues := backend.initial } actions :=
  (dispatched backend).always_iff_guarded (fun _ settled => served_lines persona settled)
    (fun s action _ => separate_lines persona s action) (settled_initial backend) reached
    fun moved => Dispatch.served_iff_separate (served_initial backend persona) moved

end

def kafkaReachable : Backend := .kafka fun _ => true

theorem scoped_delivery_iff_kafka :
    Transition.Always (step kafkaReachable) (ScopedDelivery kafkaReachable "soc")
        { queues := kafkaReachable.initial } [.enqueue queuedJob, .dequeue "intel", .dequeue "soc"] ↔
      Transition.Guarded (step kafkaReachable) (OwnPlace kafkaReachable "soc")
        { queues := kafkaReachable.initial } [.enqueue queuedJob, .dequeue "intel", .dequeue "soc"] :=
  scoped_delivery_iff kafkaReachable "soc" (Option.some_get
    (show (Transition.run (step kafkaReachable) { queues := kafkaReachable.initial }
      [.enqueue queuedJob, .dequeue "intel", .dequeue "soc"]).isSome = true by decide)).symm

def redisReachable : Backend := .redis fun _ => true

/-- With a Redis server all workers read one stream: the intel worker gets the soc job. -/
theorem other_persona_dequeues :
    ∃ s, Transition.run (step redisReachable) { queues := redisReachable.initial }
        [.enqueue queuedJob, .dequeue "intel"] = some s ∧
      s.dequeued "intel" = [queuedJob] ∧ queuedJob.persona = "soc" ∧
      ¬ s.ScopedDelivery redisReachable "intel" ∧ ¬ s.ScopedDelivery redisReachable "soc" := by
  have settled := fun s => @settled_of_run redisReachable [.enqueue queuedJob, .dequeue "intel"] s
  refine ⟨_, rfl, rfl, rfl, ?_, ?_⟩
  all_goals
    rw [scopedDelivery_iff_perm _ (settled _ rfl)]
    intro served
    have lengths := served.length_eq
    revert lengths
    decide

end ScopedSystem

end CysAgi
