import CysAgi.Bus.Transport
import CysAgi.Workers.Execution

open Py

namespace CysAgi

namespace BusTransport

variable {Handler : Type}

def handOver (transport : BusTransport Handler) (channel : String) : Json → Json
  | .obj message => .obj (transport.handedOver channel message)
  | message => message

def calls (transport : BusTransport Handler) (handle : Handler → Json → Effect Unit) (channel : String)
    (message : Json) : List (Effect Unit) :=
  (transport.publish channel).map fun handler => handle handler (transport.handOver channel message)

end BusTransport

namespace RunWorkerJob

abbrev Calls := String → Json → List (Effect Unit)

def publishAmong (deps : WorkerDeps) (calls : Calls) (job : WorkerJob) (payload : JsonDict) (recipient : String) :
    Effect Unit := do
  let envelope ← resultOf (publishTo deps job payload recipient)
  modify fun w => w.publish { channel := recipient, payload, message := envelope }
  forM (calls recipient envelope) id

def publishFindingAmong (deps : WorkerDeps) (calls : Calls) (job : WorkerJob) (prepared : Prepared)
    (result : Json) : Effect Unit :=
  forM (recipients prepared.defn) (publishAmong deps calls job (findingPayload deps job prepared result))

def finishAmong (deps : WorkerDeps) (calls : Calls) (job : WorkerJob) (prepared : Prepared) (result : Json) :
    Effect RunResult := do
  let result ← findingOf deps job prepared result
  publishFindingAmong deps calls job prepared result
  recordFinding deps job prepared result

def bodyAmong (deps : WorkerDeps) (calls : Calls) (job : WorkerJob) (sessionId : String) : Effect RunResult := do
  let prepared ← prepare deps job sessionId
  let result ← awaitAgent (deps.arun prepared.call)
  finishAmong deps calls job prepared result

/-- `execute` in a process where the handlers of the bus do what `calls` says. -/
def executeAmong (deps : WorkerDeps) (calls : Calls) (job : WorkerJob) (sessionId : String) : Effect RunResult :=
  settle deps job (bodyAmong deps calls job sessionId)

section

variable {deps : WorkerDeps} {job : WorkerJob} {prepared : Prepared} {calls : Calls}

theorem executeAmong_unheard (silent : ∀ recipient envelope, calls recipient envelope = []) (sessionId : String) :
    executeAmong deps calls job sessionId = execute deps job sessionId := by
  have each : ∀ payload recipient, publishAmong deps calls job payload recipient =
      (resultOf (publishTo deps job payload recipient) >>= fun envelope =>
        modify fun w => w.publish { channel := recipient, payload, message := envelope }) := by
    intro payload recipient
    funext w
    simp only [publishAmong, silent, List.forM_nil]
    cases publishTo deps job payload recipient <;> rfl
  have finishing : finishAmong deps calls job = finish deps job := by
    funext prepared result
    have publishing : publishFindingAmong deps calls job prepared = publishFinding deps job prepared := by
      funext found
      unfold publishFindingAmong publishFinding
      rw [funext (each (findingPayload deps job prepared found))]
    unfold finishAmong finish
    rw [publishing]
  unfold executeAmong execute bodyAmong body
  rw [finishing]

theorem open_prepared {sessionId : String} {w w' : World}
    (started : prepare deps job sessionId w = .ok prepared w') : w'.Open job.jobId := by
  obtain ⟨rfl, -⟩ := prepare_ok started
  obtain ⟨record, stored, running, -⟩ := InMemoryJobStore.get_upsertRunning_self w.jobStore job.jobId sessionId
    job.persona job.correlationId job.tenantId job.eventId
  refine ⟨record, stored, ?_⟩
  rw [running]
  decide

theorem bodyAmong_made {sessionId : String} {w w' : World} {result finding : Json} (calls : Calls)
    (started : prepare deps job sessionId w = .ok prepared w')
    (returned : (deps.arun prepared.call).outcome = .ok result)
    (made : outcome (findingOf deps job prepared result) w' = .ok finding) :
    ∃ v, v.published = w.published ∧ v.Open job.jobId ∧
      bodyAmong deps calls job sessionId w =
        (publishFindingAmong deps calls job prepared finding >>= fun _ => recordFinding deps job prepared finding) v := by
  have kept : ∀ (P : World → Prop), (∀ v pending preview, P v → P (v.pauseForHitl pending preview)) → P w' →
      P (final (findingOf deps job prepared result) (w'.pauseAll (deps.arun prepared.call).pauses)) := by
    intro P paused start
    exact findingOf_preserves paused result _ (World.pauseAll_preserves paused _ start)
  have published := kept (fun v => v.published = w.published) (fun _ _ _ same => same)
    (by rw [(prepare_ok started).1]; rfl)
  have unended := kept (fun v => v.Open job.jobId) (fun _ pending preview unended => unended.pauseForHitl pending preview)
    (open_prepared started)
  refine ⟨_, published, unended, ?_⟩
  have found := (findingOf_blind deps job prepared result (w'.pauseAll (deps.arun prepared.call).pauses) w').trans made
  unfold bodyAmong finishAmong
  rw [run_bind, started]
  dsimp only
  rw [run_bind, run_awaitAgent, returned]
  change (findingOf deps job prepared result >>= _) _ = _
  rcases run_cases (findingOf deps job prepared result) (w'.pauseAll (deps.arun prepared.call).pauses) with
    ⟨value, ran, same⟩ | ⟨e, -, raised⟩
  · rw [found] at same
    cases same
    rw [run_bind, ran]
  · rw [raised] at found
    cases found

end

end RunWorkerJob

end CysAgi
