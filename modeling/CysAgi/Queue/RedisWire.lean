import Mathlib.Data.List.InsertIdx
import CysAgi.Base.JsonRoundTrip
import CysAgi.Base.Schema
import CysAgi.Queue.ExactlyOnce

namespace CysAgi

open Py

def WorkerJobStatus.value : WorkerJobStatus → String
  | .pending => "pending"
  | .running => "running"
  | .awaitingApproval => "awaiting_approval"
  | .completed => "completed"
  | .failed => "failed"

def WorkerJobStatus.ofValue (value : String) : Option WorkerJobStatus :=
  [.pending, .running, .awaitingApproval, .completed, .failed].find? fun status => status.value = value

theorem WorkerJobStatus.ofValue_value (status : WorkerJobStatus) : ofValue status.value = some status := by
  cases status <;> decide

namespace WorkerJob

def modelDump (job : WorkerJob) : JsonDict :=
  [("job_id", .str job.jobId), ("event_id", .str job.eventId), ("persona", .str job.persona),
    ("playbook_id", .str job.playbookId), ("payload", .obj job.payload), ("correlation_id", .str job.correlationId),
    ("tenant_id", .str job.tenantId), ("status", .str job.status.value), ("sandbox_id", .str job.sandboxId),
    ("feedback", .str job.feedback), ("depends_on_persona", .str job.dependsOnPersona),
    ("max_tokens", .int job.maxTokens), ("max_cost_usd", .float job.maxCostUsd),
    ("max_tool_calls", .int job.maxToolCalls)]

def statusOf : Json → Option WorkerJobStatus
  | .str value => WorkerJobStatus.ofValue value
  | _ => none

/-- `WorkerJob.model_validate`, none where it raises. Keys that are not fields are ignored. -/
def modelValidate (python : Coercions) : Json → Option WorkerJob
  | .obj raw => do
    let jobId ← (JsonDict.get? raw "job_id").bind Json.asText
    let eventId ← (JsonDict.get? raw "event_id").bind Json.asText
    let persona ← (JsonDict.get? raw "persona").bind Json.asText
    let playbookId ← field Json.asText raw "playbook_id" ""
    let payload ← field Json.asDict raw "payload" []
    let correlationId ← field Json.asText raw "correlation_id" ""
    let tenantId ← field Json.asText raw "tenant_id" "default"
    let status ← field statusOf raw "status" .pending
    let sandboxId ← field Json.asText raw "sandbox_id" ""
    let feedback ← field Json.asText raw "feedback" ""
    let dependsOnPersona ← field Json.asText raw "depends_on_persona" ""
    let maxTokens ← field python.int raw "max_tokens" 0
    let maxCostUsd ← field python.float raw "max_cost_usd" 0
    let maxToolCalls ← field python.int raw "max_tool_calls" 0
    return {
      jobId, eventId, persona, playbookId, payload, correlationId, tenantId, status, sandboxId, feedback,
      dependsOnPersona, maxTokens, maxCostUsd, maxToolCalls }
  | _ => none

theorem modelValidate_modelDump (python : Coercions) (job : WorkerJob) :
    modelValidate python (.obj job.modelDump) = some job := by
  have status : statusOf (.str job.status.value) = some job.status := job.status.ofValue_value
  have tokens := python.int_self job.maxTokens
  have cost := python.float_self job.maxCostUsd
  have calls := python.int_self job.maxToolCalls
  simp only [modelValidate, field, modelDump, JsonDict.get?, List.lookup_cons, beq_self_eq_true,
    String.reduceBEq, Json.asText, Json.asDict, status, tokens, cost, calls]
  rfl

def Keyed (job : WorkerJob) : Prop := Json.Keyed (.obj job.payload)

theorem Keyed.modelDump {job : WorkerJob} (keyed : job.Keyed) : Json.Keyed (.obj job.modelDump) := by
  have names : job.modelDump.map Prod.fst = ["job_id", "event_id", "persona", "playbook_id", "payload",
    "correlation_id", "tenant_id", "status", "sandbox_id", "feedback", "depends_on_persona", "max_tokens",
    "max_cost_usd", "max_tool_calls"] := rfl
  have payload : Json.Keyed (.obj job.payload) := keyed
  constructor
  · rw [names]
    decide
  · simp only [WorkerJob.modelDump, Json.KeyedFields, Json.Keyed, and_true, true_and]
    exact payload

end WorkerJob

structure JobWire where
  floats : FloatCodec
  python : Coercions

/-- The stream as it is: ids with texts. `returned` is what the dequeues made of theirs. -/
structure WireSystem where
  entries : List (Nat × String) := []
  nextId : Nat := 0
  reading : List (Nat × String) := []
  returned : List (Option WorkerJob) := []

inductive WireStep where
  | xadd (job : WorkerJob) (keyed : job.Keyed)
  | xread
  | xdel (dequeue : Nat)

namespace WireStep

def plain : WireStep → StreamStep
  | .xadd job _ => .xadd job
  | .xread => .xread
  | .xdel dequeue => .xdel dequeue

def added : WireStep → Option WorkerJob
  | .xadd job _ => some job
  | _ => none

end WireStep

namespace JobWire

variable (wire : JobWire)

/-- `json.dumps(job, ensure_ascii=False)`. -/
def encode (job : WorkerJob) : String := controlEscaping.dumps wire.floats.toFloatRepr (.obj job.modelDump)

/-- `WorkerJob.model_validate(json.loads(payload))`. -/
def decode (payload : String) : Option WorkerJob :=
  (loads wire.floats payload).bind (WorkerJob.modelValidate wire.python)

def step (s : WireSystem) : WireStep → Option WireSystem
  | .xadd job _ => some { s with entries := s.entries ++ [(s.nextId, wire.encode job)], nextId := s.nextId + 1 }
  | .xread => some { s with reading := s.reading ++ s.entries.head?.toList }
  | .xdel dequeue => s.reading[dequeue]?.map fun entry =>
    { s with
      entries := s.entries.filter fun other => other.1 ≠ entry.1
      reading := s.reading.eraseIdx dequeue
      returned := s.returned ++ [wire.decode entry.2] }

def encoded (entry : Nat × WorkerJob) : Nat × String := (entry.1, wire.encode entry.2)

def written (s : StreamSystem) : WireSystem where
  entries := s.stream.entries.map wire.encoded
  nextId := s.stream.nextId
  reading := s.reading.map wire.encoded
  returned := s.returned.map fun entry => some entry.2

variable {wire}

theorem decode_encode {job : WorkerJob} (keyed : job.Keyed) : wire.decode (wire.encode job) = some job := by
  have read : loads wire.floats (wire.encode job) = some (.obj job.modelDump) :=
    loads_dumps wire.floats controlEscaping keyed.modelDump
  rw [decode, read]
  exact WorkerJob.modelValidate_modelDump wire.python job

end JobWire

namespace StreamSystem

structure Keyed (s : StreamSystem) : Prop where
  accounted : s.Accounted
  jobs : ∀ entry ∈ s.enqueued, entry.2.Keyed

theorem Keyed.step {s t : StreamSystem} {action : WireStep} (keyed : s.Keyed)
    (taken : s.step action.plain = some t) : t.Keyed := by
  refine ⟨keyed.accounted.step taken, ?_⟩
  cases action with
  | xadd job sent =>
    cases taken
    intro entry member
    rcases List.mem_append.mp member with member | member
    · exact keyed.jobs entry member
    · rw [List.mem_singleton.mp member]
      exact sent
  | xread =>
    cases taken
    exact keyed.jobs
  | xdel dequeue =>
    obtain ⟨entry, -, rfl⟩ := Option.map_eq_some_iff.mp taken
    exact keyed.jobs

theorem enqueued_step {s t : StreamSystem} {action : WireStep} (taken : s.step action.plain = some t) :
    t.enqueued.map Prod.snd = s.enqueued.map Prod.snd ++ action.added.toList := by
  cases action with
  | xadd job sent =>
    cases taken
    exact List.map_append
  | xread =>
    cases taken
    exact (List.append_nil _).symm
  | xdel dequeue =>
    obtain ⟨entry, -, rfl⟩ := Option.map_eq_some_iff.mp taken
    exact (List.append_nil _).symm

theorem enqueued_run {actions : List WireStep} {s t : StreamSystem}
    (reached : Transition.run (fun s action => s.step action.plain) s actions = some t) :
    t.enqueued.map Prod.snd = s.enqueued.map Prod.snd ++ actions.filterMap WireStep.added := by
  induction actions generalizing s with
  | nil =>
    cases reached
    exact (List.append_nil _).symm
  | cons action rest ih =>
    obtain ⟨u, taken, reached⟩ := Option.bind_eq_some_iff.mp reached
    rw [ih reached, enqueued_step taken, List.append_assoc]
    cases added : action.added with
    | none => rw [List.filterMap_cons_none added, Option.toList_none, List.nil_append]
    | some job => rw [List.filterMap_cons_some added, Option.toList_some, List.singleton_append]

structure InOrder (s : StreamSystem) : Prop where
  line : s.enqueued = s.returned ++ s.stream.entries
  single : s.reading.length ≤ 1
  front : ∀ entry ∈ s.reading, s.stream.xread = some entry

theorem InOrder.step {s t : StreamSystem} {action : StreamStep} (order : s.InOrder) (alone : s.Exclusive action)
    (taken : s.step action = some t) : t.InOrder := by
  cases action with
  | xadd job =>
    cases taken
    refine ⟨?_, order.single, ?_⟩
    · show s.enqueued ++ [_] = s.returned ++ (s.stream.entries ++ [_])
      rw [order.line, List.append_assoc]
    · intro entry member
      have first : s.stream.entries.head? = some entry := order.front entry member
      show (s.stream.entries ++ [_]).head? = some entry
      rw [List.head?_append, first]
      rfl
  | xread =>
    cases taken
    have idle : s.reading = [] := alone
    refine ⟨order.line, ?_, ?_⟩
    · rw [idle, List.nil_append]
      cases s.stream.xread <;> simp
    · intro entry member
      rw [idle, List.nil_append] at member
      exact Option.mem_toList.mp member
  | xdel dequeue =>
    obtain ⟨entry, here, rfl⟩ := Option.map_eq_some_iff.mp taken
    have first := order.front entry (List.mem_of_getElem? here)
    obtain ⟨inside, -⟩ := List.getElem?_eq_some_iff.mp here
    have single := order.single
    have emptied : s.reading.eraseIdx dequeue = [] := by
      apply List.eq_nil_of_length_eq_zero
      rw [List.length_eraseIdx_of_lt inside]
      omega
    refine ⟨?_, ?_, ?_⟩
    · show s.enqueued = s.returned ++ [entry] ++ (s.stream.xdel entry.1).entries
      obtain ⟨rest, whole⟩ := List.head?_eq_some_iff.mp first
      rw [RedisStream.entries_xdel_xread first, order.line, whole, List.tail_cons, List.append_assoc,
        List.singleton_append]
    · rw [emptied]
      exact Nat.zero_le _
    · intro other member
      rw [emptied] at member
      cases member

end StreamSystem

namespace JobWire

variable (wire : JobWire)

def onTexts : Transition.Embedding (fun s action => StreamSystem.step s (WireStep.plain action)) wire.step where
  state := wire.written
  action := id
  Inv := StreamSystem.Keyed
  invariant _ _ _ keyed taken := keyed.step taken
  commutes s action keyed := by
    cases action with
    | xadd job sent =>
      simp only [id, WireStep.plain, step, StreamSystem.step, Option.map_some, written, RedisStream.xadd,
        RedisStream.added, List.map_append, List.map_singleton, encoded]
    | xread =>
      simp only [id, WireStep.plain, step, StreamSystem.step, Option.map_some, written, RedisStream.xread,
        List.map_append]
      cases s.stream.entries <;> rfl
    | xdel dequeue =>
      simp only [id, WireStep.plain, step, StreamSystem.step, written, List.getElem?_map]
      cases here : s.reading[dequeue]? with
      | none => rfl
      | some entry =>
        have known := keyed.accounted.read entry (List.mem_of_getElem? here)
        have read : wire.decode (wire.encoded entry).2 = some entry.2 := decode_encode (keyed.jobs entry known)
        simp only [Option.map_some, read, written, RedisStream.xdel, List.map_append, List.map_singleton,
          List.eraseIdx_map, List.filter_map]
        rfl

/-- A dequeue starts while no other is between its two commands. -/
def Alone (s : WireSystem) : WireStep → Prop
  | .xread => s.reading = []
  | _ => True

instance (s : WireSystem) (action : WireStep) : Decidable (Alone s action) := by
  cases action <;> unfold Alone <;> infer_instance

def onJobs : Transition.Embedding (fun s action => StreamSystem.step s (WireStep.plain action)) StreamSystem.step where
  state := id
  action := WireStep.plain
  Inv _ := True
  invariant _ _ _ _ _ := trivial
  commutes _ _ _ := Option.map_id.symm ▸ rfl

variable {wire}

theorem keyed_initial : StreamSystem.Keyed {} := ⟨StreamSystem.accounted_initial, by simp⟩

theorem inOrder_initial : StreamSystem.InOrder {} := ⟨rfl, Nat.zero_le _, by simp⟩

theorem run_written {actions : List WireStep} {t : WireSystem}
    (reached : Transition.run wire.step {} actions = some t) :
    ∃ s, Transition.run (fun s action => StreamSystem.step s (WireStep.plain action)) {} actions = some s ∧
      wire.written s = t := by
  have moved := (onTexts wire).run_map keyed_initial actions
  rw [show actions.map (onTexts wire).action = actions from List.map_id actions] at moved
  exact Option.map_eq_some_iff.mp (moved.symm.trans reached)

/-- Whatever the interleaving of the commands, the texts do what the jobs would, and each dequeue makes of its
    text a job that was enqueued. -/
theorem texts_refine_jobs {actions : List WireStep} {t : WireSystem}
    (reached : Transition.run wire.step {} actions = some t) :
    (∃ s, Transition.run StreamSystem.step {} (actions.map WireStep.plain) = some s ∧ t = wire.written s) ∧
      ∀ handed ∈ t.returned, ∃ job keyed, handed = some job ∧ WireStep.xadd job keyed ∈ actions := by
  obtain ⟨s, ran, rfl⟩ := run_written reached
  constructor
  · refine ⟨s, ?_, rfl⟩
    have moved := onJobs.run_map trivial (s := {}) actions
    rw [ran] at moved
    exact moved
  · intro handed member
    obtain ⟨entry, returned, rfl⟩ := List.mem_map.mp member
    have keyed : s.Keyed := Transition.invariant_run (fun _ _ _ keyed taken => keyed.step taken) keyed_initial ran
    have known := List.mem_map_of_mem (f := Prod.snd) (keyed.accounted.gone entry returned).1
    rw [StreamSystem.enqueued_run ran] at known
    obtain ⟨action, step, added⟩ := List.mem_filterMap.mp known
    cases action with
    | xadd job sent =>
      cases added
      exact ⟨entry.2, sent, rfl, step⟩
    | xread => cases added
    | xdel => cases added

/-- With one dequeue at a time, what has been returned and then what the texts that remain say are the jobs of the
    run, in the order in which they were enqueued. -/
theorem texts_first_in_first_out {actions : List WireStep} {t : WireSystem}
    (alone : Transition.Guarded wire.step Alone {} actions) (reached : Transition.run wire.step {} actions = some t) :
    t.returned ++ t.entries.map (fun entry => wire.decode entry.2) = (actions.filterMap WireStep.added).map some := by
  obtain ⟨s, ran, rfl⟩ := run_written reached
  have exclusive : Transition.Guarded (fun s action => StreamSystem.step s (WireStep.plain action))
      (fun s action => s.Exclusive action.plain) {} actions := by
    have same : ∀ s action, StreamSystem.Keyed s → (Alone (wire.written s) action ↔ s.Exclusive action.plain) := by
      intro s action _
      cases action with
      | xread => exact List.map_eq_nil_iff
      | _ => exact Iff.rfl
    have moved := (onTexts wire).guarded_map same keyed_initial actions
    rw [show actions.map (onTexts wire).action = actions from List.map_id actions] at moved
    exact moved.mp alone
  have keyed : s.Keyed := Transition.invariant_run (fun _ _ _ keyed taken => keyed.step taken) keyed_initial ran
  have order : s.InOrder := (Transition.always_of_guarded StreamSystem.InOrder (fun _ order => order)
    (fun _ _ _ order alone taken => order.step alone taken) inOrder_initial exclusive).last ran
  have jobs : s.enqueued.map Prod.snd = actions.filterMap WireStep.added := StreamSystem.enqueued_run ran
  have remaining : (wire.written s).entries.map (fun entry => wire.decode entry.2) =
      s.stream.entries.map fun entry => some entry.2 := by
    rw [written, List.map_map]
    apply List.map_congr_left
    intro entry member
    have read : wire.decode (wire.encoded entry).2 = some entry.2 :=
      decode_encode (keyed.jobs entry (keyed.accounted.streamed entry member))
    rw [Function.comp_apply, read]
  rw [remaining, ← jobs, order.line, List.map_map, List.map_append]
  rfl

def plainWire : JobWire where
  floats := fractionCodec
  python :=
    { bool := fun
        | .bool value => some value
        | .int 0 => some false
        | .int 1 => some true
        | _ => none
      int := fun
        | .int value => some value
        | .bool value => some value.toInt
        | _ => none
      float := fun
        | .float value => some value
        | .int value => some value
        | _ => none
      bool_self := fun _ => rfl
      int_self := fun _ => rfl
      float_self := fun _ => rfl }

theorem keyed_queuedJob : queuedJob.Keyed := ⟨List.nodup_nil, trivial⟩

def oneTaken : List WireStep := [.xadd queuedJob keyed_queuedJob, .xadd queuedJob keyed_queuedJob, .xread, .xdel 0]

theorem texts_refine_jobs_one_taken : ∃ t, Transition.run plainWire.step {} oneTaken = some t ∧
    (∃ s, Transition.run StreamSystem.step {} (oneTaken.map WireStep.plain) = some s ∧ t = plainWire.written s) ∧
      ∀ handed ∈ t.returned, ∃ job keyed, handed = some job ∧ WireStep.xadd job keyed ∈ oneTaken := by
  have ran : ∃ t, Transition.run plainWire.step {} oneTaken = some t := ⟨_, rfl⟩
  obtain ⟨t, ran⟩ := ran
  exact ⟨t, ran, texts_refine_jobs ran⟩

theorem texts_first_in_first_out_one_taken : ∃ t, Transition.run plainWire.step {} oneTaken = some t ∧
    t.returned ++ t.entries.map (fun entry => plainWire.decode entry.2) = [some queuedJob, some queuedJob] := by
  have ran : ∃ t, Transition.run plainWire.step {} oneTaken = some t := ⟨_, rfl⟩
  have alone : Transition.Guarded plainWire.step Alone {} oneTaken := by decide
  obtain ⟨t, ran⟩ := ran
  exact ⟨t, ran, texts_first_in_first_out alone ran⟩

end JobWire

end CysAgi
