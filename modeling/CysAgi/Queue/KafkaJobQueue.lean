import CysAgi.Queue.JobQueue

namespace CysAgi

def workerJobTopic (persona : String) : String := "worker.jobs." ++ persona

theorem workerJobTopic_inj {first second : String} (same : workerJobTopic first = workerJobTopic second) :
    first = second :=
  (String.append_right_inj _).mp same

structure KafkaBroker where
  up : Bool
  topics : String → List WorkerJob := fun _ => []

namespace KafkaBroker

def records (broker : KafkaBroker) (persona : String) : List WorkerJob := broker.topics (workerJobTopic persona)

def sent (broker : KafkaBroker) (job : WorkerJob) : KafkaBroker :=
  { broker with
    topics := Function.update broker.topics (workerJobTopic job.persona) (broker.records job.persona ++ [job]) }

def consumed (broker : KafkaBroker) (persona : String) : KafkaBroker :=
  { broker with
    topics := Function.update broker.topics (workerJobTopic persona) (broker.records persona).tail }

@[simp] theorem sent_up (broker : KafkaBroker) (job : WorkerJob) : (broker.sent job).up = broker.up := rfl

@[simp] theorem consumed_up (broker : KafkaBroker) (persona : String) :
    (broker.consumed persona).up = broker.up := rfl

theorem records_update (broker : KafkaBroker) (written persona : String) (change : List WorkerJob → List WorkerJob) :
    Function.update broker.topics (workerJobTopic written) (change (broker.records written)) (workerJobTopic persona) =
      if persona = written then change (broker.records persona) else broker.records persona := by
  split
  · rename_i same
    subst same
    exact Function.update_self ..
  · rename_i other
    exact Function.update_of_ne (fun same => other (workerJobTopic_inj same)) ..

theorem records_sent (broker : KafkaBroker) (job : WorkerJob) (persona : String) :
    (broker.sent job).records persona =
      if persona = job.persona then broker.records persona ++ [job] else broker.records persona :=
  records_update broker job.persona persona (· ++ [job])

theorem records_consumed (broker : KafkaBroker) (read persona : String) :
    (broker.consumed read).records persona =
      if persona = read then (broker.records persona).tail else broker.records persona :=
  records_update broker read persona List.tail

end KafkaBroker

/-- What `getone` does while the broker cannot be reached: a record it has fetched before, no
    record until the timeout, or an exception. -/
inductive Getone where
  | record
  | timeout
  | error

structure KafkaJobQueue (persona : Option String) where
  producer : Bool := false
  consumer : Bool := false
  connected : Bool := false
  fallback : InMemoryJobQueue := {}
  connected_producer : connected = true → producer = true := by simp
  consumer_connected : consumer = true → connected = true := by simp

namespace KafkaJobQueue

section

variable {persona : Option String}

def fresh : KafkaJobQueue persona := {}

@[simp] theorem fallback_fresh : (fresh : KafkaJobQueue persona).fallback.queue = [] := rfl

def Latched (q : KafkaJobQueue persona) : Prop := q.producer = true ∧ q.connected = false

instance (q : KafkaJobQueue persona) : Decidable q.Latched := inferInstanceAs (Decidable (_ ∧ _))

def ensureProducer (q : KafkaJobQueue persona) (up : Bool) : KafkaJobQueue persona × Bool :=
  if started : q.producer then (q, q.connected)
  else if up then
    ({ q with
        producer := true, connected := true
        connected_producer := fun _ => rfl, consumer_connected := fun _ => rfl }, true)
  else
    ({ q with
        connected := false
        connected_producer := by simp
        consumer_connected := fun consuming =>
          absurd (q.connected_producer (q.consumer_connected consuming)) started }, false)

/-- There is no producer, nor can one be started, or the queue has given up on the broker. -/
def FallsBack (q : KafkaJobQueue persona) (up : Bool) : Prop :=
  q.Latched ∨ q.producer = false ∧ up = false

instance (q : KafkaJobQueue persona) (up : Bool) : Decidable (q.FallsBack up) :=
  inferInstanceAs (Decidable (_ ∨ _))

theorem ensureProducer_connected (q : KafkaJobQueue persona) (up : Bool) :
    (q.ensureProducer up).1.connected = (q.ensureProducer up).2 := by
  unfold ensureProducer
  split_ifs <;> rfl

def ensureConsumer (q : KafkaJobQueue persona) (up : Bool) : KafkaJobQueue persona × Bool :=
  if q.consumer then (q, q.connected)
  else
    let ensured := q.ensureProducer up
    if ready : ensured.2 then
      if up then
        ({ ensured.1 with
            consumer := true
            consumer_connected := fun _ => (ensureProducer_connected q up).trans ready }, true)
      else
        ({ ensured.1 with
            connected := false, consumer := false
            connected_producer := by simp
            consumer_connected := by simp }, false)
    else (ensured.1, false)

def aenqueue (q : KafkaJobQueue persona) (broker : KafkaBroker) (job : WorkerJob) :
    Option (KafkaJobQueue persona × KafkaBroker) :=
  let ensured := q.ensureProducer broker.up
  if ensured.2 then
    if broker.up then some (ensured.1, broker.sent job) else none
  else some ({ ensured.1 with fallback := ensured.1.fallback.enqueue job }, broker)

def takeFallback (q : KafkaJobQueue persona) (broker : KafkaBroker) :
    KafkaJobQueue persona × KafkaBroker × Option WorkerJob :=
  ({ q with fallback := q.fallback.dequeue.1 }, broker, q.fallback.dequeue.2)

end

def adequeue : {persona : Option String} → KafkaJobQueue persona → KafkaBroker → Getone →
    KafkaJobQueue persona × KafkaBroker × Option WorkerJob
  | none, q, broker, _ => q.takeFallback broker
  | some persona, q, broker, getone =>
    let ensured := q.ensureConsumer broker.up
    if ensured.2 then
      if broker.up then (ensured.1, broker.consumed persona, (broker.records persona).head?)
      else
        match getone with
        | .record => (ensured.1, broker.consumed persona, (broker.records persona).head?)
        | .timeout => (ensured.1, broker, none)
        | .error => ensured.1.takeFallback broker
    else ensured.1.takeFallback broker

inductive Source where
  | topic
  | fallback
  | silence
  deriving DecidableEq

def source {persona : Option String} (q : KafkaJobQueue persona) (up : Bool) : Source :=
  if q.Latched then .fallback
  else if up then .topic
  else if q.consumer then .silence
  else .fallback

section

variable {persona : Option String}

theorem ensureProducer_falls_back_iff (q : KafkaJobQueue persona) (up : Bool) :
    (q.ensureProducer up).2 = false ↔ q.FallsBack up := by
  unfold ensureProducer FallsBack Latched
  by_cases started : q.producer = true
  · simp [started]
  · cases up <;> simp [started]

theorem ensureProducer_kept (q : KafkaJobQueue persona) (up : Bool) :
    ((q.ensureProducer up).1.Latched ↔ q.Latched) ∧ (q.ensureProducer up).1.consumer = q.consumer ∧
      (q.ensureProducer up).1.fallback = q.fallback := by
  unfold ensureProducer Latched
  split_ifs with started reachable <;> simp [started]

theorem source_congr {q q' : KafkaJobQueue persona} (latched : q'.Latched ↔ q.Latched)
    (consumer : q'.consumer = q.consumer) (up : Bool) : q'.source up = q.source up := by
  simp only [source, latched, consumer]

theorem not_latched_of_consumer {q : KafkaJobQueue persona} (consuming : q.consumer = true) : ¬ q.Latched := by
  intro given
  obtain ⟨-, lost⟩ := given
  rw [q.consumer_connected consuming] at lost
  cases lost

theorem source_topic_iff (q : KafkaJobQueue persona) (up : Bool) :
    q.source up = .topic ↔ ¬ q.Latched ∧ up = true := by
  unfold source
  split_ifs <;> simp_all

theorem source_fallback_iff (q : KafkaJobQueue persona) (up : Bool) :
    q.source up = .fallback ↔ q.Latched ∨ up = false ∧ q.consumer = false := by
  unfold source
  split_ifs <;> simp_all

theorem source_silence_iff (q : KafkaJobQueue persona) (up : Bool) :
    q.source up = .silence ↔ up = false ∧ q.consumer = true := by
  have alive : q.consumer = true → ¬ q.Latched := not_latched_of_consumer
  unfold source
  split_ifs <;> simp_all

theorem ensureConsumer_kept (q : KafkaJobQueue persona) (up : Bool) :
    (q.ensureConsumer up).1.source up = q.source up ∧ (q.ensureConsumer up).1.fallback = q.fallback ∧
      ((q.ensureConsumer up).2 = false ↔ q.source up = .fallback) := by
  obtain ⟨latched, consumer, fallback⟩ := q.ensureProducer_kept up
  have falls := q.ensureProducer_falls_back_iff up
  unfold ensureConsumer
  by_cases consuming : q.consumer = true
  · rw [if_pos consuming]
    refine ⟨rfl, rfl, ?_⟩
    rw [q.consumer_connected consuming, source_fallback_iff]
    simp [consuming, not_latched_of_consumer consuming]
  · rw [if_neg consuming]
    by_cases ready : (q.ensureProducer up).2 = true
    · have alive : ¬ q.Latched := fun lost => by simp [falls.mpr (.inl lost)] at ready
      rw [dif_pos ready]
      cases up with
      | true =>
        have topic := (source_topic_iff q true).mpr ⟨alive, rfl⟩
        refine ⟨?_, fallback, by simp [topic]⟩
        rw [topic, source_topic_iff]
        exact ⟨fun lost => alive (latched.mp lost), rfl⟩
      | false =>
        have turned := (source_fallback_iff q false).mpr (.inr ⟨rfl, Bool.eq_false_iff.mpr consuming⟩)
        refine ⟨?_, fallback, by simp [turned]⟩
        rw [turned, source_fallback_iff]
        exact .inr ⟨rfl, rfl⟩
    · have falling := falls.mp (Bool.eq_false_iff.mpr ready)
      have turned : q.source up = .fallback := by
        rw [source_fallback_iff]
        exact falling.imp_right fun down => ⟨down.2, Bool.eq_false_iff.mpr consuming⟩
      rw [dif_neg ready]
      exact ⟨source_congr latched consumer up, fallback, by simp [turned]⟩

theorem source_of_fallsBack {q : KafkaJobQueue persona} {up : Bool} (falls : q.FallsBack up) :
    q.source up = .fallback := by
  rw [source_fallback_iff]
  apply falls.imp_right
  intro given
  obtain ⟨idle, down⟩ := given
  refine ⟨down, ?_⟩
  by_contra consuming
  rw [Bool.not_eq_false] at consuming
  rw [q.connected_producer (q.consumer_connected consuming)] at idle
  cases idle

theorem aenqueue_raises {q : KafkaJobQueue persona} {broker : KafkaBroker} {job : WorkerJob}
    (raised : q.aenqueue broker job = none) : ¬ q.FallsBack broker.up ∧ broker.up = false := by
  have falls := q.ensureProducer_falls_back_iff broker.up
  unfold aenqueue at raised
  dsimp only at raised
  split_ifs at raised with ready up
  rw [← falls, ready]
  exact ⟨by simp, Bool.eq_false_iff.mpr up⟩

theorem ensureProducer_again (q : KafkaJobQueue persona) (up : Bool) :
    ((q.ensureProducer up).1.ensureProducer up).2 = (q.ensureProducer up).2 := by
  by_cases started : q.producer = true
  · have same : q.ensureProducer up = (q, q.connected) := dif_pos started
    rw [same, same]
  · cases up <;> simp [ensureProducer, started]

theorem ensureProducer_fallsBack (q : KafkaJobQueue persona) (up : Bool) :
    (q.ensureProducer up).1.FallsBack up ↔ q.FallsBack up := by
  rw [← ensureProducer_falls_back_iff, ensureProducer_again, ensureProducer_falls_back_iff]

theorem aenqueue_fallsBack {q q' : KafkaJobQueue persona} {broker broker' : KafkaBroker} {job : WorkerJob}
    (accepted : q.aenqueue broker job = some (q', broker')) :
    q'.FallsBack broker.up ↔ q.FallsBack broker.up := by
  rw [← ensureProducer_fallsBack q broker.up]
  unfold aenqueue at accepted
  dsimp only at accepted
  split_ifs at accepted <;> cases accepted <;> rfl

theorem aenqueue_cases {q q' : KafkaJobQueue persona} {broker broker' : KafkaBroker} {job : WorkerJob}
    (accepted : q.aenqueue broker job = some (q', broker')) :
    (∀ up, q'.source up = q.source up) ∧
      (¬ q.FallsBack broker.up ∧ broker.up = true ∧ q'.fallback = q.fallback ∧ broker' = broker.sent job ∨
        q.FallsBack broker.up ∧ q'.fallback = q.fallback.enqueue job ∧ broker' = broker) := by
  obtain ⟨latched, consumer, fallback⟩ := q.ensureProducer_kept broker.up
  have falls := q.ensureProducer_falls_back_iff broker.up
  unfold aenqueue at accepted
  dsimp only at accepted
  split_ifs at accepted with ready up
  · cases accepted
    refine ⟨source_congr latched consumer, .inl ⟨?_, up, fallback, rfl⟩⟩
    rw [← falls, ready]
    simp
  · cases accepted
    refine ⟨source_congr latched consumer, .inr ⟨?_, ?_, rfl⟩⟩
    · exact falls.mp (Bool.eq_false_iff.mpr ready)
    · exact congrArg (fun q => InMemoryJobQueue.enqueue q job) fallback

end

section

variable {persona : String} {q : KafkaJobQueue (some persona)} {broker : KafkaBroker}

theorem adequeue_topic (topic : q.source broker.up = .topic) (getone : Getone) :
    (q.adequeue broker getone).1.source broker.up = .topic ∧
      (q.adequeue broker getone).1.fallback = q.fallback ∧
      (q.adequeue broker getone).2 = (broker.consumed persona, (broker.records persona).head?) := by
  obtain ⟨source, fallback, falls⟩ := q.ensureConsumer_kept broker.up
  have ready : (q.ensureConsumer broker.up).2 = true := by simpa [topic] using falls
  have up := ((source_topic_iff q broker.up).mp topic).2
  simp only [adequeue, ready, if_true]
  rw [if_pos up]
  exact ⟨source.trans topic, fallback, rfl⟩

theorem adequeue_fallback (turned : q.source broker.up = .fallback) (getone : Getone) :
    (q.adequeue broker getone).1.source broker.up = .fallback ∧
      (q.adequeue broker getone).1.fallback = q.fallback.dequeue.1 ∧
      (q.adequeue broker getone).2 = (broker, q.fallback.dequeue.2) := by
  obtain ⟨source, fallback, falls⟩ := q.ensureConsumer_kept broker.up
  have falling : q.adequeue broker getone = (q.ensureConsumer broker.up).1.takeFallback broker := by
    simp only [adequeue, falls.mpr turned, Bool.false_eq_true, if_false]
  rw [falling, takeFallback, fallback]
  exact ⟨source.trans turned, rfl, rfl⟩

theorem adequeue_silence (silence : q.source broker.up = .silence) (getone : Getone) :
    q.adequeue broker getone =
      match getone with
      | .record => (q, broker.consumed persona, (broker.records persona).head?)
      | .timeout => (q, broker, none)
      | .error => q.takeFallback broker := by
  obtain ⟨down, consuming⟩ := (source_silence_iff q broker.up).mp silence
  simp only [adequeue, ensureConsumer, consuming, if_true, q.consumer_connected consuming, down,
    Bool.false_eq_true, if_false]

end

theorem adequeue_cases {key : Option String} (q : KafkaJobQueue key) (broker : KafkaBroker) (getone : Getone) :
    (q.adequeue broker getone).1.source broker.up = q.source broker.up ∧
      ((∃ persona, key = some persona ∧ (q.adequeue broker getone).1.fallback = q.fallback ∧
          (q.adequeue broker getone).2 = (broker.consumed persona, (broker.records persona).head?)) ∨
        ((q.adequeue broker getone).1.fallback = q.fallback ∧ (q.adequeue broker getone).2 = (broker, none)) ∨
        ((q.adequeue broker getone).1.fallback = q.fallback.dequeue.1 ∧
          (q.adequeue broker getone).2 = (broker, q.fallback.dequeue.2))) := by
  cases key with
  | none => exact ⟨rfl, .inr (.inr ⟨rfl, rfl⟩)⟩
  | some persona =>
    cases source : q.source broker.up with
    | topic =>
      obtain ⟨kept, fallback, answer⟩ := adequeue_topic source getone
      exact ⟨kept, .inl ⟨persona, rfl, fallback, answer⟩⟩
    | fallback =>
      obtain ⟨kept, fallback, answer⟩ := adequeue_fallback source getone
      exact ⟨kept, .inr (.inr ⟨fallback, answer⟩)⟩
    | silence =>
      rw [adequeue_silence source getone]
      cases getone with
      | record => exact ⟨source, .inl ⟨persona, rfl, rfl, rfl⟩⟩
      | timeout => exact ⟨source, .inr (.inl ⟨rfl, rfl⟩)⟩
      | error => exact ⟨source, .inr (.inr ⟨rfl, rfl⟩)⟩

theorem fallback_update (queues : (key : Option String) → KafkaJobQueue key) (key other : Option String)
    (q : KafkaJobQueue key) :
    (Function.update queues key q other).fallback = if other = key then q.fallback else (queues other).fallback := by
  by_cases same : other = key
  · subst same
    rw [Function.update_self, if_pos rfl]
  · rw [Function.update_of_ne same, if_neg same]

theorem fallback_update_kept {queues : (key : Option String) → KafkaJobQueue key} {key : Option String}
    {q : KafkaJobQueue key} (kept : q.fallback = (queues key).fallback) (other : Option String) :
    (Function.update queues key q other).fallback = (queues other).fallback := by
  rw [fallback_update]
  split_ifs with same
  · rw [same, kept]
  · rfl

theorem source_update {queues : (key : Option String) → KafkaJobQueue key} {key : Option String}
    {q : KafkaJobQueue key} {up : Bool} (kept : q.source up = (queues key).source up) (other : Option String) :
    (Function.update queues key q other).source up = (queues other).source up := by
  by_cases same : other = key
  · subst same
    rw [Function.update_self, kept]
  · rw [Function.update_of_ne same]

end KafkaJobQueue

end CysAgi
