import CysAgi.Bus.Listening
import CysAgi.Hitl.PauseSurvival

open Py

namespace CysAgi

open RunWorkerJob

abbrev Listener := Json → Effect Unit

def subscribedTo (connector : BusConnector) (subscriptions : List (String × Listener)) : BusTransport Listener :=
  subscriptions.foldl (fun transport subscription => transport.subscribe subscription.1 subscription.2)
    (.initial connector)

def callsOf (connector : BusConnector) (subscriptions : List (String × Listener)) : Calls :=
  (subscribedTo connector subscriptions).calls fun listener message => listener message

/-- Both runs return the same status, or both raise, and leave the same stored status. -/
def SameStatus (jobId : String) (first second : Effect RunResult) (w : World) : Prop :=
  (outcome first w).toOption.map RunResult.success = (outcome second w).toOption.map RunResult.success ∧
    (final first w).stored jobId = (final second w).stored jobId

def Publishes (deps : WorkerDeps) (job : WorkerJob) (sessionId : String) (w : World) : Prop :=
  ∃ prepared w' result finding recipient envelope,
    prepare deps job sessionId w = .ok prepared w' ∧ (deps.arun prepared.call).outcome = .ok result ∧
      outcome (findingOf deps job prepared result) w' = .ok finding ∧
      (recipients prepared.defn).head? = some recipient ∧
      publishTo deps job (findingPayload deps job prepared finding) recipient = .ok envelope

/-- The first message of the job is published where subscribers are called. -/
def CallsListeners (deps : WorkerDeps) (connector : BusConnector) (job : WorkerJob) (sessionId : String) (w : World) :
    Prop :=
  connector ≠ .redis false ∧ Publishes deps job sessionId w

section

variable {deps : WorkerDeps} {job : WorkerJob} {sessionId : String} {w : World}

theorem publish_disconnected (subscriptions : List (String × Listener)) (channel : String) :
    (subscribedTo (.redis false) subscriptions).publish channel = [] := by
  -- without a connection the fallback gets no handler
  have silent : ∀ transport : RedisBusTransport Listener, transport.redis = false →
      transport.fallback.handlers.on channel = [] →
      (subscriptions.foldl (fun transport subscription => transport.subscribe subscription.1 subscription.2)
        (BusTransport.redis transport)).publish channel = [] := by
    induction subscriptions with
    | nil => exact fun _ _ unheard => unheard
    | cons subscription rest ih =>
      intro transport cut unheard
      apply ih (transport.subscribe subscription.1 subscription.2) cut
      unfold RedisBusTransport.subscribe
      rw [cut]
      exact unheard
  exact silent _ rfl rfl

theorem callsOf_disconnected (subscriptions : List (String × Listener)) (recipient : String) (envelope : Json) :
    callsOf (.redis false) subscriptions recipient envelope = [] := by
  unfold callsOf BusTransport.calls
  rw [publish_disconnected]
  rfl

theorem callsOf_subscriber {connector : BusConnector} (connected : connector ≠ .redis false) (channel : String)
    (e : PyExc) (envelope : Json) :
    callsOf connector [(channel, fun _ => throw e)] channel envelope = [throw e] := by
  cases connector with
  | memory => simp [callsOf, BusTransport.calls, subscribedTo, BusTransport.initial, BusTransport.subscribe,
      BusTransport.publish, InMemoryBusTransport.publish, InMemoryBusTransport.subscribe, BusHandlers.on_add]
  | kafka => simp [callsOf, BusTransport.calls, subscribedTo, BusTransport.initial, BusTransport.subscribe,
      BusTransport.publish, InMemoryBusTransport.publish, InMemoryBusTransport.subscribe, KafkaBusTransport.subscribe,
      BusHandlers.on_add]
  | redis reachable =>
    cases reachable with
    | false => exact absurd rfl connected
    | true => simp [callsOf, BusTransport.calls, subscribedTo, BusTransport.initial, BusTransport.subscribe,
        BusTransport.publish, InMemoryBusTransport.publish, InMemoryBusTransport.subscribe,
        RedisBusTransport.subscribe, BusHandlers.on_add]

theorem bodyAmong_unpublished (unpublished : ¬ Publishes deps job sessionId w) (first second : Calls) :
    bodyAmong deps first job sessionId w = bodyAmong deps second job sessionId w := by
  unfold bodyAmong
  rw [run_bind, run_bind]
  cases started : prepare deps job sessionId w with
  | error e t => rfl
  | ok prepared w' =>
    dsimp only
    rw [run_bind, run_bind, run_awaitAgent]
    cases returned : (deps.arun prepared.call).outcome with
    | error e => rfl
    | ok result =>
      change finishAmong deps first job prepared result _ = finishAmong deps second job prepared result _
      unfold finishAmong
      rw [run_bind, run_bind]
      have blind := findingOf_blind deps job prepared result (w'.pauseAll (deps.arun prepared.call).pauses) w'
      rcases run_cases (findingOf deps job prepared result) (w'.pauseAll (deps.arun prepared.call).pauses) with
        ⟨finding, ran, made⟩ | ⟨e, ran, -⟩
      · rw [ran]
        dsimp only
        cases names : recipients prepared.defn with
        | nil => exact absurd names (recipients_ne_nil prepared.defn)
        | cons recipient rest =>
          cases sent : publishTo deps job (findingPayload deps job prepared finding) recipient with
          | error e =>
            unfold publishFindingAmong publishAmong
            rw [names, List.forM_cons, List.forM_cons, sent]
            rfl
          | ok envelope =>
            exact absurd ⟨prepared, w', result, finding, recipient, envelope, started, returned, blind.symm.trans made,
              by rw [names]; rfl, sent⟩ unpublished
      · rw [ran]

theorem publishAmong_raising {payload : JsonDict} {recipient : String} {envelope : Json} {calls : Calls} {e : PyExc}
    (sent : publishTo deps job payload recipient = .ok envelope) (raising : calls recipient envelope = [throw e])
    (v : World) :
    publishAmong deps calls job payload recipient v =
      .error e (v.publish { channel := recipient, payload, message := envelope }) := by
  unfold publishAmong
  rw [sent]
  change (forM (calls recipient envelope) id : Effect Unit) _ = _
  rw [raising]
  rfl

theorem bodyAmong_raising {prepared : Prepared} {w' : World} {result finding envelope : Json} {recipient : String}
    {calls : Calls} {e : PyExc} (started : prepare deps job sessionId w = .ok prepared w')
    (returned : (deps.arun prepared.call).outcome = .ok result)
    (made : outcome (findingOf deps job prepared result) w' = .ok finding)
    (first : (recipients prepared.defn).head? = some recipient)
    (sent : publishTo deps job (findingPayload deps job prepared finding) recipient = .ok envelope)
    (raising : calls recipient envelope = [throw e]) :
    ∃ t, t.Open job.jobId ∧ bodyAmong deps calls job sessionId w = .error e t := by
  obtain ⟨v, -, unended, body⟩ := bodyAmong_made calls started returned made
  obtain ⟨rest, names⟩ := List.head?_eq_some_iff.mp first
  refine ⟨v.publish { channel := recipient, payload := findingPayload deps job prepared finding, message := envelope },
    unended, body.trans ?_⟩
  unfold publishFindingAmong
  rw [names, List.forM_cons, run_bind, run_bind, publishAmong_raising sent raising]

/-- The outcome of a job does not depend on the subscribers exactly when none of them is
    called for it. -/
theorem listeners_irrelevant_iff (deps : WorkerDeps) (connector : BusConnector) (job : WorkerJob) (sessionId : String)
    (w : World) :
    (∀ first second : List (String × Listener),
        SameStatus job.jobId (executeAmong deps (callsOf connector first) job sessionId)
          (executeAmong deps (callsOf connector second) job sessionId) w) ↔
      ¬ CallsListeners deps connector job sessionId w := by
  constructor
  · intro same given
    obtain ⟨connected, prepared, w', result, finding, recipient, envelope, started, returned, made, first, sent⟩ := given
    have ended := (same [(recipient, fun _ => throw (.securityViolation ""))]
      [(recipient, fun _ => throw (.baseException ""))]).2
    obtain ⟨t, unended, violated⟩ := bodyAmong_raising started returned made first sent
      (callsOf_subscriber connected recipient (.securityViolation "") envelope)
    obtain ⟨u, waiting, interrupted⟩ := bodyAmong_raising started returned made first sent
      (callsOf_subscriber connected recipient (.baseException "") envelope)
    have failed : (final (executeAmong deps (callsOf connector
        [(recipient, fun _ => throw (.securityViolation ""))]) job sessionId) w).stored job.jobId = some .failed :=
      stored_markFailed unended.known (jobStore_settle_raised violated)
    have unfailed : (final (executeAmong deps (callsOf connector
        [(recipient, fun _ => throw (.baseException ""))]) job sessionId) w).stored job.jobId ≠ some .failed :=
      (waiting.stored_ne (jobStore_settle_raised interrupted)).2
    exact unfailed (ended.symm.trans failed)
  · intro uncalled first second
    have alike : executeAmong deps (callsOf connector first) job sessionId w =
        executeAmong deps (callsOf connector second) job sessionId w := by
      apply settle_congr
      by_cases connected : connector = .redis false
      · have silent : callsOf connector first = callsOf connector second := by
          funext recipient envelope
          rw [connected, callsOf_disconnected, callsOf_disconnected]
        rw [silent]
      · exact bodyAmong_unpublished (fun published => uncalled ⟨connected, published⟩) _ _
    unfold SameStatus outcome final
    rw [alike]
    exact ⟨rfl, rfl⟩

end

def criticService : String × Listener :=
  ("critic", fun _ => throw (.exception
    "ProcessFindingCritic.__init__() got an unexpected keyword argument \x27guardrails\x27"))

def benignDeps : WorkerDeps := sampleDeps { outcome := .ok (.obj [("verdict", .str "benign")]) }

/-- The same job completes when nobody listens and fails when the critic does. -/
theorem critic_fails_job :
    (final (executeAmong benignDeps (callsOf (.redis true) []) sampleJob "worker:soc:job-1") {}).stored "job-1" =
        some .completed ∧
      (final (executeAmong benignDeps (callsOf (.redis true) [criticService]) sampleJob "worker:soc:job-1")
        {}).stored "job-1" = some .failed ∧
      ¬ ∀ first second : List (String × Listener),
        SameStatus "job-1" (executeAmong benignDeps (callsOf (.redis true) first) sampleJob "worker:soc:job-1")
          (executeAmong benignDeps (callsOf (.redis true) second) sampleJob "worker:soc:job-1") {} := by
  have completed : (final (executeAmong benignDeps (callsOf (.redis true) []) sampleJob "worker:soc:job-1")
      {}).stored "job-1" = some .completed := by decide +kernel
  have failed : (final (executeAmong benignDeps (callsOf (.redis true) [criticService]) sampleJob "worker:soc:job-1")
      {}).stored "job-1" = some .failed := by decide +kernel
  refine ⟨completed, failed, fun same => ?_⟩
  have stored := (same [] [criticService]).2
  rw [completed, failed] at stored
  cases stored

end CysAgi
