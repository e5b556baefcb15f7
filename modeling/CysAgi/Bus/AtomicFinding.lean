import CysAgi.Bus.Listening
import CysAgi.Bus.SecureAgentBus
import CysAgi.Hitl.PauseSurvival

open Py

namespace CysAgi

open RunWorkerJob

structure BusListener where
  react : Json → World → World
  answer : Json → Except PyExc Unit
  keepsJobs : ∀ message w, (react message w).jobStore = w.jobStore
  keepsPublished : ∀ message w, (react message w).published = w.published

def BusListener.handle (listener : BusListener) (message : Json) : Effect Unit := do
  modify (listener.react message)
  resultOf (listener.answer message)

def heard (transport : BusTransport BusListener) (recipient : String) (message : Json) : Except PyExc Unit :=
  (transport.publish recipient).forM fun listener => listener.answer (transport.handOver recipient message)

structure BusTurn where
  bus : SecureAgentBus
  sentAt : Rat
  receivedAt : Rat

namespace WorkerDeps

def overBus (deps : WorkerDeps) (library : BusLibrary) (turns : String → BusTurn) : WorkerDeps :=
  { deps with
    sendMessage := fun sender recipient payload =>
      ((turns recipient).bus.sendMessage library (turns recipient).sentAt sender recipient "finding" payload).2.map .obj
    receiveMessage := fun recipient message =>
      match message with
      | .obj fields =>
        (SecureAgentBus.receiveMessage library (turns recipient).receivedAt recipient fields).map fun _ => ()
      | _ => .error (.exception "object has no attribute \x27get\x27") }

end WorkerDeps

structure Admits (turn : BusTurn) (sender recipient : String) (info : RegisteredAgent) : Prop where
  registered : turn.bus.agentRegistry.get? sender = some info
  closed : (turn.bus.breakerOpen turn.sentAt sender).2 = false
  permitted : recipient ∈ info.allowedRecipients
  typed : "finding" ∈ info.allowedMessageTypes
  direct : (sender, recipient) ∉ turn.bus.escalationPaths
  prompt : turn.receivedAt - turn.sentAt ≤ 300

def Informed (before after : World) (payload : JsonDict) (recipient : String) : Prop :=
  ∃ publication ∈ after.published.drop before.published.length,
    publication.channel = recipient ∧ publication.payload = payload

/-- Everybody gets the finding of a job that completes, and nobody that of a job that fails. -/
def AllOrNothing (defn : AgentDefinition) (payload : JsonDict) (jobId : String) (before after : World) : Prop :=
  ((∀ recipient, recipient ∈ defn.busRecipients ∨ recipient = "critic" → Informed before after payload recipient) ∧
      after.stored jobId = some .completed) ∨
    ((∀ recipient, recipient ∈ defn.busRecipients ∨ recipient = "critic" →
        ¬ Informed before after payload recipient) ∧
      after.stored jobId = some .failed)

def signedFinding (library : BusLibrary) (turn : BusTurn) (info : RegisteredAgent) (sender recipient : String)
    (payload : JsonDict) : Json :=
  .obj (SecureAgentBus.envelope library turn.sentAt info sender recipient "finding" payload)

/-- The bus, the wire and everyone who listens take the payload for the recipient. -/
def Taken (deps : WorkerDeps) (library : BusLibrary) (turns : String → BusTurn) (transport : BusTransport BusListener)
    (sender : String) (payload : JsonDict) (recipient : String) : Prop :=
  ∃ info, Admits (turns recipient) sender recipient info ∧
    deps.publish recipient (signedFinding library (turns recipient) info sender recipient payload) = .ok () ∧
    ∀ listener ∈ transport.publish recipient, listener.answer (transport.handOver recipient
      (signedFinding library (turns recipient) info sender recipient payload)) = .ok ()

def Refused (deps : WorkerDeps) (library : BusLibrary) (turns : String → BusTurn) (sender : String)
    (payload : JsonDict) (recipient : String) : Prop :=
  ∀ info, Admits (turns recipient) sender recipient info →
    ∃ e, deps.publish recipient (signedFinding library (turns recipient) info sender recipient payload) = .error e ∧
      e.caught = true

def pendingFinding (deps : WorkerDeps) (job : WorkerJob) (finding : JsonDict) : PendingFinding :=
  { tenantId := job.tenantId, investigationId := memoryInvestigationId deps job
    sourceAgent := job.persona, sourceJobId := job.jobId, finding }

def Remembers (deps : WorkerDeps) (job : WorkerJob) (finding : JsonDict) : Prop :=
  ∀ append, deps.appendPendingFinding = some append →
    ∃ accepted, append (pendingFinding deps job finding) = .ok accepted

section

variable {deps : WorkerDeps} {job : WorkerJob} {prepared : Prepared}

theorem handle_listener (listener : BusListener) (message : Json) (w : World) :
    outcome (listener.handle message) w = listener.answer message ∧
      (final (listener.handle message) w).jobStore = w.jobStore ∧
      (final (listener.handle message) w).published = w.published := by
  unfold BusListener.handle
  rw [outcome_bind, final_bind]
  refine ⟨outcome_resultOf _ _, ?_, ?_⟩
  · change (final (resultOf (listener.answer message)) (listener.react message w)).jobStore = _
    rw [final_resultOf, listener.keepsJobs]
  · change (final (resultOf (listener.answer message)) (listener.react message w)).published = _
    rw [final_resultOf, listener.keepsPublished]

theorem handle_listeners (listeners : List BusListener) (message : Json) (w : World) :
    outcome (forM (listeners.map fun listener => listener.handle message) id : Effect Unit) w =
        listeners.forM (fun listener => listener.answer message) ∧
      (final (forM (listeners.map fun listener => listener.handle message) id : Effect Unit) w).jobStore = w.jobStore ∧
      (final (forM (listeners.map fun listener => listener.handle message) id : Effect Unit) w).published =
        w.published := by
  induction listeners generalizing w with
  | nil => exact ⟨rfl, rfl, rfl⟩
  | cons listener rest ih =>
    obtain ⟨answered, sameJobs, samePublished⟩ := handle_listener listener message w
    rw [List.map_cons, List.forM_cons, outcome_bind, final_bind]
    simp only [id_eq, answered]
    cases answer : listener.answer message with
    | error e =>
      refine ⟨?_, sameJobs, samePublished⟩
      simp only [List.forM, answer]
      rfl
    | ok u =>
      obtain ⟨later, jobs, published⟩ := ih (final (listener.handle message) w)
      refine ⟨?_, jobs.trans sameJobs, published.trans samePublished⟩
      simp only [later, List.forM, answer]
      rfl

def spread (deps : WorkerDeps) (transport : BusTransport BusListener) (job : WorkerJob) (payload : JsonDict) :
    List String → List Publication × Except PyExc Unit
  | [] => ([], .ok ())
  | recipient :: rest =>
    match publishTo deps job payload recipient with
    | .error e => ([], .error e)
    | .ok envelope =>
      match heard transport recipient envelope with
      | .error e => ([{ channel := recipient, payload, message := envelope }], .error e)
      | .ok _ =>
        let later := spread deps transport job payload rest
        ({ channel := recipient, payload, message := envelope } :: later.1, later.2)

theorem spread_payload (transport : BusTransport BusListener) (payload : JsonDict) (recipients : List String) :
    ∀ publication ∈ (spread deps transport job payload recipients).1, publication.payload = payload := by
  induction recipients with
  | nil => simp [spread]
  | cons recipient rest ih =>
    simp only [spread]
    cases publishTo deps job payload recipient with
    | error e => simp
    | ok envelope =>
      dsimp only
      cases heard transport recipient envelope with
      | error e => simp
      | ok _ =>
        intro publication member
        rcases List.mem_cons.mp member with rfl | member
        · rfl
        · exact ih publication member

theorem spread_channels (deps : WorkerDeps) (job : WorkerJob) (transport : BusTransport BusListener)
    (payload : JsonDict) (recipients : List String) :
    (spread deps transport job payload recipients).1.map Publication.channel <+: recipients ∧
      ((spread deps transport job payload recipients).2 = .ok () →
        (spread deps transport job payload recipients).1.map Publication.channel = recipients) := by
  induction recipients with
  | nil => exact ⟨List.prefix_rfl, fun _ => rfl⟩
  | cons recipient rest ih =>
    simp only [spread]
    cases publishTo deps job payload recipient with
    | error e => exact ⟨List.nil_prefix, nofun⟩
    | ok envelope =>
      dsimp only
      cases heard transport recipient envelope with
      | error e => exact ⟨List.prefix_append [recipient] rest, nofun⟩
      | ok _ =>
        refine ⟨List.cons_prefix_cons.mpr ⟨rfl, ih.1⟩, fun complete => ?_⟩
        rw [List.map_cons, ih.2 complete]

theorem spread_ok_iff {transport : BusTransport BusListener} {payload : JsonDict} {recipients : List String} :
    (spread deps transport job payload recipients).2 = .ok () ↔
      ∀ recipient ∈ recipients, ∃ envelope, publishTo deps job payload recipient = .ok envelope ∧
        heard transport recipient envelope = .ok () := by
  induction recipients with
  | nil => simp [spread]
  | cons recipient rest ih =>
    rw [List.forall_mem_cons, ← ih]
    simp only [spread]
    cases publishTo deps job payload recipient with
    | error e => simp
    | ok envelope =>
      dsimp only
      cases answered : heard transport recipient envelope <;> simp [answered]

theorem run_publishAmong (transport : BusTransport BusListener) {payload : JsonDict} {recipient : String}
    {envelope : Json} (sent : publishTo deps job payload recipient = .ok envelope) (w : World) :
    outcome (publishAmong deps (transport.calls BusListener.handle) job payload recipient) w =
        heard transport recipient envelope ∧
      (final (publishAmong deps (transport.calls BusListener.handle) job payload recipient) w).published =
        w.published ++ [{ channel := recipient, payload, message := envelope }] ∧
      (final (publishAmong deps (transport.calls BusListener.handle) job payload recipient) w).jobStore =
        w.jobStore := by
  obtain ⟨answered, sameJobs, samePublished⟩ := handle_listeners (transport.publish recipient)
    (transport.handOver recipient envelope) (w.publish { channel := recipient, payload, message := envelope })
  unfold publishAmong
  rw [sent]
  exact ⟨answered, samePublished, sameJobs⟩

theorem run_publishFindingAmong (deps : WorkerDeps) (job : WorkerJob) (prepared : Prepared)
    (transport : BusTransport BusListener) (result : Json) (w : World) :
    outcome (publishFindingAmong deps (transport.calls BusListener.handle) job prepared result) w =
        (spread deps transport job (findingPayload deps job prepared result) (recipients prepared.defn)).2 ∧
      (final (publishFindingAmong deps (transport.calls BusListener.handle) job prepared result) w).published =
        w.published ++
          (spread deps transport job (findingPayload deps job prepared result) (recipients prepared.defn)).1 ∧
      (final (publishFindingAmong deps (transport.calls BusListener.handle) job prepared result) w).jobStore =
        w.jobStore := by
  unfold publishFindingAmong
  generalize findingPayload deps job prepared result = payload
  generalize recipients prepared.defn = names
  induction names generalizing w with
  | nil => exact ⟨rfl, (List.append_nil _).symm, rfl⟩
  | cons recipient rest ih =>
    rw [List.forM_cons, outcome_bind, final_bind]
    simp only [spread]
    cases sent : publishTo deps job payload recipient with
    | error e =>
      unfold publishAmong
      rw [sent]
      exact ⟨rfl, (List.append_nil _).symm, rfl⟩
    | ok envelope =>
      obtain ⟨answered, published, sameJobs⟩ := run_publishAmong transport sent w
      rw [answered]
      dsimp only
      cases heard transport recipient envelope with
      | error e => exact ⟨rfl, published, sameJobs⟩
      | ok _ =>
        obtain ⟨ended, later, jobs⟩ :=
          ih (final (publishAmong deps (transport.calls BusListener.handle) job payload recipient) w)
        refine ⟨ended, ?_, jobs.trans sameJobs⟩
        rw [published, List.append_assoc] at later
        exact later

theorem remember_runs {finding : JsonDict} (remembered : Remembers deps job finding) (w : World) :
    ∃ t, remember deps job (.obj finding) w = .ok () t := by
  simp only [remember]
  cases writer : deps.appendPendingFinding with
  | none => exact ⟨w, rfl⟩
  | some append =>
    obtain ⟨accepted, taken⟩ := remembered append writer
    change ∃ t, (resultOf (append (pendingFinding deps job finding)) >>= _) w = .ok () t
    rw [taken]
    cases accepted <;> exact ⟨_, rfl⟩

theorem remember_raises {finding : JsonDict} (unremembered : ¬ Remembers deps job finding) (w : World) :
    ∃ e, remember deps job (.obj finding) w = .error e w := by
  unfold Remembers at unremembered
  push Not at unremembered
  obtain ⟨append, writer, refused⟩ := unremembered
  simp only [remember, writer]
  change ∃ e, (resultOf (append (pendingFinding deps job finding)) >>= _) w = .error e w
  cases answer : append (pendingFinding deps job finding) with
  | ok accepted => exact absurd answer (refused accepted)
  | error e => exact ⟨e, rfl⟩

theorem recordFinding_runs (prepared : Prepared) {finding : JsonDict} (remembered : Remembers deps job finding)
    (w : World) :
    ∃ run t, recordFinding deps job prepared (.obj finding) w = .ok run t := by
  obtain ⟨t, kept⟩ := remember_runs remembered w
  unfold recordFinding
  rw [run_bind, kept]
  dsimp only
  rw [run_bind, run_appendFinding]
  dsimp only
  rw [run_bind, run_markPersonaTerminal]
  exact ⟨_, _, rfl⟩

theorem recordFinding_raises (prepared : Prepared) {finding : JsonDict}
    (unremembered : ¬ Remembers deps job finding) (w : World) :
    ∃ e, recordFinding deps job prepared (.obj finding) w = .error e w := by
  obtain ⟨e, refused⟩ := remember_raises unremembered w
  refine ⟨e, ?_⟩
  unfold recordFinding
  rw [run_bind, refused]

theorem conclude_runs {transport : BusTransport BusListener} {finding : JsonDict} {w : World}
    (reached : (spread deps transport job (findingPayload deps job prepared (.obj finding))
      (recipients prepared.defn)).2 = .ok ())
    (remembered : Remembers deps job finding) :
    ∃ run t, (publishFindingAmong deps (transport.calls BusListener.handle) job prepared (.obj finding) >>=
        fun _ => recordFinding deps job prepared (.obj finding)) w = .ok run t ∧
      t.published = w.published ++
        (spread deps transport job (findingPayload deps job prepared (.obj finding)) (recipients prepared.defn)).1 ∧
      t.jobStore = w.jobStore.markCompleted job.jobId := by
  obtain ⟨ended, published, sameJobs⟩ := run_publishFindingAmong deps job prepared transport (.obj finding) w
  rw [reached] at ended
  obtain ⟨run, t, recorded⟩ := recordFinding_runs prepared remembered
    (final (publishFindingAmong deps (transport.calls BusListener.handle) job prepared (.obj finding)) w)
  obtain ⟨-, -, -, samePublished, completed, -⟩ := recordFinding_ok recorded
  refine ⟨run, t, ?_, samePublished.trans published, by rw [completed, sameJobs]⟩
  rcases run_cases (publishFindingAmong deps (transport.calls BusListener.handle) job prepared (.obj finding)) w with
    ⟨u, ran, -⟩ | ⟨e, -, raised⟩
  · rw [run_bind, ran]
    exact recorded
  · rw [raised] at ended
    cases ended

theorem conclude_raises {transport : BusTransport BusListener} {finding : JsonDict} {w : World}
    (stopped : ¬ ((spread deps transport job (findingPayload deps job prepared (.obj finding))
      (recipients prepared.defn)).2 = .ok () ∧ Remembers deps job finding)) :
    ∃ e t, (publishFindingAmong deps (transport.calls BusListener.handle) job prepared (.obj finding) >>=
        fun _ => recordFinding deps job prepared (.obj finding)) w = .error e t ∧
      (∀ first, (spread deps transport job (findingPayload deps job prepared (.obj finding))
        (recipients prepared.defn)).2 = .error first → first = e) ∧
      t.published = w.published ++
        (spread deps transport job (findingPayload deps job prepared (.obj finding)) (recipients prepared.defn)).1 ∧
      t.jobStore = w.jobStore := by
  obtain ⟨ended, published, sameJobs⟩ := run_publishFindingAmong deps job prepared transport (.obj finding) w
  rcases run_cases (publishFindingAmong deps (transport.calls BusListener.handle) job prepared (.obj finding)) w with
    ⟨u, ran, returned⟩ | ⟨e, ran, raised⟩
  · have reached := ended.symm.trans returned
    have unremembered : ¬ Remembers deps job finding := fun remembered => stopped ⟨reached, remembered⟩
    obtain ⟨e, refused⟩ := recordFinding_raises prepared unremembered
      (final (publishFindingAmong deps (transport.calls BusListener.handle) job prepared (.obj finding)) w)
    refine ⟨e, _, ?_, fun first other => ?_, published, sameJobs⟩
    · rw [run_bind, ran]
      exact refused
    · rw [reached] at other
      cases other
  · refine ⟨e, _, ?_, fun first other => ?_, published, sameJobs⟩
    · rw [run_bind, ran]
    · rw [← ended, raised] at other
      exact (Except.error.inj other).symm

theorem informed_iff {transport : BusTransport BusListener} {payload : JsonDict} {names : List String}
    {before after : World} {recipient : String}
    (published : after.published = before.published ++ (spread deps transport job payload names).1) :
    Informed before after payload recipient ↔
      recipient ∈ (spread deps transport job payload names).1.map Publication.channel := by
  unfold Informed
  rw [published, List.drop_left, List.mem_map]
  constructor
  · intro given
    obtain ⟨publication, member, channel, -⟩ := given
    exact ⟨publication, member, channel⟩
  · intro given
    obtain ⟨publication, member, channel⟩ := given
    exact ⟨publication, member, channel, spread_payload transport payload names publication member⟩

section

variable {sessionId : String} {w w' : World} {result : Json} {finding : JsonDict}
variable {transport : BusTransport BusListener}
variable (started : prepare deps job sessionId w = .ok prepared w')
variable (returned : (deps.arun prepared.call).outcome = .ok result)
variable (made : outcome (findingOf deps job prepared result) w' = .ok (.obj finding))

include started returned made

theorem executeAmong_completes
    (reached : (spread deps transport job (findingPayload deps job prepared (.obj finding))
      (recipients prepared.defn)).2 = .ok ())
    (remembered : Remembers deps job finding) :
    (final (executeAmong deps (transport.calls BusListener.handle) job sessionId) w).published = w.published ++
        (spread deps transport job (findingPayload deps job prepared (.obj finding)) (recipients prepared.defn)).1 ∧
      (final (executeAmong deps (transport.calls BusListener.handle) job sessionId) w).stored job.jobId =
        some .completed := by
  obtain ⟨v, silent, unended, body⟩ := bodyAmong_made (transport.calls BusListener.handle) started returned made
  obtain ⟨run, t, concluded, published, completed⟩ := conclude_runs reached remembered
  have ended := body.trans concluded
  unfold executeAmong
  constructor
  · rw [published_settle, final, ended, ← silent]
    exact published
  · exact stored_markCompleted unended.known ((jobStore_settle_returned ended).trans completed)

theorem executeAmong_stops
    (stopped : ¬ ((spread deps transport job (findingPayload deps job prepared (.obj finding))
      (recipients prepared.defn)).2 = .ok () ∧ Remembers deps job finding)) :
    ∃ e, (∀ first, (spread deps transport job (findingPayload deps job prepared (.obj finding))
        (recipients prepared.defn)).2 = .error first → first = e) ∧
      (final (executeAmong deps (transport.calls BusListener.handle) job sessionId) w).published = w.published ++
        (spread deps transport job (findingPayload deps job prepared (.obj finding)) (recipients prepared.defn)).1 ∧
      (final (executeAmong deps (transport.calls BusListener.handle) job sessionId) w).stored job.jobId ≠
        some .completed ∧
      ((final (executeAmong deps (transport.calls BusListener.handle) job sessionId) w).stored job.jobId =
        some .failed ↔ e.caught = true) := by
  obtain ⟨v, silent, unended, body⟩ := bodyAmong_made (transport.calls BusListener.handle) started returned made
  obtain ⟨e, t, concluded, first, published, sameJobs⟩ := conclude_raises (w := v) stopped
  have ended := body.trans concluded
  have jobs := @jobStore_settle_raised deps job _ _ _ _ ended
  unfold executeAmong
  refine ⟨e, first, ?_, ?_⟩
  · rw [published_settle, final, ended, ← silent]
    exact published
  · by_cases caught : e.caught = true
    · rw [if_pos caught, sameJobs] at jobs
      have stored := stored_markFailed unended.known jobs
      rw [stored]
      exact ⟨by decide, fun _ => caught, fun _ => rfl⟩
    · rw [if_neg caught, sameJobs] at jobs
      obtain ⟨uncompleted, unfailed⟩ := unended.stored_ne jobs
      exact ⟨uncompleted, fun failed => absurd failed unfailed, fun taken => absurd taken caught⟩

theorem all_or_nothing_spread_iff :
    AllOrNothing prepared.defn (findingPayload deps job prepared (.obj finding)) job.jobId w
        (final (executeAmong deps (transport.calls BusListener.handle) job sessionId) w) ↔
      (∃ e, spread deps transport job (findingPayload deps job prepared (.obj finding)) (recipients prepared.defn) =
          ([], .error e) ∧ e.caught = true) ∨
        (spread deps transport job (findingPayload deps job prepared (.obj finding)) (recipients prepared.defn)).2 =
          .ok () ∧ Remembers deps job finding := by
  obtain ⟨leading, complete⟩ := spread_channels deps job transport
    (findingPayload deps job prepared (.obj finding)) (recipients prepared.defn)
  by_cases done : (spread deps transport job (findingPayload deps job prepared (.obj finding))
      (recipients prepared.defn)).2 = .ok () ∧ Remembers deps job finding
  · obtain ⟨published, stored⟩ := executeAmong_completes started returned made done.1 done.2
    constructor
    · intro _
      exact .inr done
    · intro _
      refine .inl ⟨fun recipient named => (informed_iff published).mpr ?_, stored⟩
      rw [complete done.1]
      exact mem_recipients.mpr named
  · obtain ⟨e, first, published, uncompleted, failed⟩ := executeAmong_stops started returned made done
    constructor
    · intro either
      rcases either with ⟨-, completed⟩ | ⟨uninformed, stored⟩
      · exact absurd completed uncompleted
      · left
        refine ⟨e, ?_, failed.mp stored⟩
        -- whoever is reached is among the recipients, so nobody is
        have nobody : (spread deps transport job (findingPayload deps job prepared (.obj finding))
            (recipients prepared.defn)).1.map Publication.channel = [] := by
          apply List.eq_nil_iff_forall_not_mem.mpr
          intro recipient member
          exact uninformed recipient (mem_recipients.mp (leading.mem member)) ((informed_iff published).mpr member)
        apply Prod.ext (List.map_eq_nil_iff.mp nobody)
        cases stopped : (spread deps transport job (findingPayload deps job prepared (.obj finding))
            (recipients prepared.defn)).2 with
        | ok _ => exact absurd ((complete stopped).symm.trans nobody) (recipients_ne_nil prepared.defn)
        | error other => rw [first other stopped]
    · intro either
      rcases either with ⟨other, stopped, caught⟩ | finished
      · right
        constructor
        · intro recipient _ informed
          rw [informed_iff published, stopped] at informed
          cases informed
        · rw [first other (by rw [stopped])] at caught
          exact failed.mpr caught
      · exact absurd finished done

end

theorem heard_ok_iff {transport : BusTransport BusListener} {recipient : String} {message : Json} :
    heard transport recipient message = .ok () ↔
      ∀ listener ∈ transport.publish recipient, listener.answer (transport.handOver recipient message) = .ok () := by
  unfold heard
  induction transport.publish recipient with
  | nil => simp [List.forM, pure, Except.pure]
  | cons listener rest ih =>
    rw [List.forall_mem_cons, ← ih]
    change (listener.answer (transport.handOver recipient message) >>= fun _ => _) = _ ↔ _
    rw [except_bind_ok]
    constructor
    · intro given
      obtain ⟨_, first, others⟩ := given
      exact ⟨first, others⟩
    · intro given
      obtain ⟨first, others⟩ := given
      exact ⟨(), first, others⟩

section

variable {library : BusLibrary} {turns : String → BusTurn} {payload : JsonDict} {recipient : String}
variable (ascii : ∀ body, (library.digest body).toList.all fun c => c.val < 128)
variable (read : ∀ name, library.fromisoformat (.str (library.isoformat (turns name).sentAt)) = .ok (turns name).sentAt)

include ascii read

theorem publishTo_signed {info : RegisteredAgent}
    (sent : ((turns recipient).bus.sendMessage library (turns recipient).sentAt job.persona recipient "finding"
      payload).2 =
        .ok (SecureAgentBus.envelope library (turns recipient).sentAt info job.persona recipient "finding" payload)) :
    publishTo (deps.overBus library turns) job payload recipient =
      if 300 < (turns recipient).receivedAt - (turns recipient).sentAt then
        .error (.securityViolation "Message expired (possible replay attack)")
      else
        (deps.publish recipient (signedFinding library (turns recipient) info job.persona recipient payload)).map
          fun _ => signedFinding library (turns recipient) info job.persona recipient payload := by
  unfold publishTo
  change (((turns recipient).bus.sendMessage library (turns recipient).sentAt job.persona recipient "finding"
    payload).2.map Json.obj >>= _) = _
  rw [sent]
  change ((SecureAgentBus.receiveMessage library (turns recipient).receivedAt recipient
    (SecureAgentBus.envelope library (turns recipient).sentAt info job.persona recipient "finding" payload)).map _ >>=
      _) = _
  rw [SecureAgentBus.receiveMessage_envelope info job.persona recipient "finding" payload ascii (read recipient)]
  split
  · rfl
  · change (deps.publish recipient (signedFinding library (turns recipient) info job.persona recipient payload) >>= _) = _
    cases deps.publish recipient (signedFinding library (turns recipient) info job.persona recipient payload) <;> rfl

theorem publishTo_admitted {info : RegisteredAgent} (admitted : Admits (turns recipient) job.persona recipient info) :
    publishTo (deps.overBus library turns) job payload recipient =
      (deps.publish recipient (signedFinding library (turns recipient) info job.persona recipient payload)).map
        fun _ => signedFinding library (turns recipient) info job.persona recipient payload := by
  rw [publishTo_signed ascii read, if_neg (Rat.not_lt.mpr admitted.prompt)]
  apply SecureAgentBus.sendMessage_ok_iff.mpr
  exact ⟨info, ⟨admitted.registered, admitted.closed, admitted.permitted, admitted.typed,
    fun path => absurd path admitted.direct⟩, rfl⟩

theorem publishTo_unadmitted (unadmitted : ∀ info, ¬ Admits (turns recipient) job.persona recipient info) :
    ∃ text, publishTo (deps.overBus library turns) job payload recipient = .error (.securityViolation text) := by
  cases sent : ((turns recipient).bus.sendMessage library (turns recipient).sentAt job.persona recipient "finding"
      payload).2 with
  | error e =>
    obtain ⟨text, rfl⟩ := SecureAgentBus.sendMessage_raises sent
    refine ⟨text, ?_⟩
    unfold publishTo
    change (((turns recipient).bus.sendMessage library (turns recipient).sentAt job.persona recipient "finding"
      payload).2.map Json.obj >>= _) = _
    rw [sent]
    rfl
  | ok message =>
    obtain ⟨info, ⟨registered, closed, permitted, typed, approved⟩, rfl⟩ := SecureAgentBus.sendMessage_ok_iff.mp sent
    have late : 300 < (turns recipient).receivedAt - (turns recipient).sentAt := by
      by_contra prompt
      apply unadmitted info
      exact ⟨registered, closed, permitted, typed, fun path => absurd (approved path).1 (by decide),
        Rat.not_lt.mp prompt⟩
    rw [publishTo_signed ascii read sent, if_pos late]
    exact ⟨_, rfl⟩

theorem taken_iff {transport : BusTransport BusListener} :
    Taken deps library turns transport job.persona payload recipient ↔
      ∃ envelope, publishTo (deps.overBus library turns) job payload recipient = .ok envelope ∧
        heard transport recipient envelope = .ok () := by
  constructor
  · intro given
    obtain ⟨info, admitted, published, answered⟩ := given
    refine ⟨_, ?_, heard_ok_iff.mpr answered⟩
    rw [publishTo_admitted ascii read admitted, published]
    rfl
  · intro given
    obtain ⟨envelope, sent, answered⟩ := given
    by_cases admitted : ∃ info, Admits (turns recipient) job.persona recipient info
    · obtain ⟨info, admitted⟩ := admitted
      rw [publishTo_admitted ascii read admitted] at sent
      cases published : deps.publish recipient
          (signedFinding library (turns recipient) info job.persona recipient payload) with
      | error e =>
        rw [published] at sent
        cases sent
      | ok _ =>
        rw [published] at sent
        cases sent
        exact ⟨info, admitted, published, heard_ok_iff.mp answered⟩
    · push Not at admitted
      obtain ⟨text, refused⟩ := publishTo_unadmitted ascii read admitted
      rw [refused] at sent
      cases sent

theorem refused_iff :
    Refused deps library turns job.persona payload recipient ↔
      ∃ e, publishTo (deps.overBus library turns) job payload recipient = .error e ∧ e.caught = true := by
  by_cases admitted : ∃ info, Admits (turns recipient) job.persona recipient info
  · obtain ⟨info, admitted⟩ := admitted
    rw [publishTo_admitted ascii read admitted]
    constructor
    · intro refused
      obtain ⟨e, answer, caught⟩ := refused info admitted
      exact ⟨e, by rw [answer]; rfl, caught⟩
    · intro given other again
      obtain ⟨e, failed, caught⟩ := given
      have same : other = info := Option.some.inj (again.registered.symm.trans admitted.registered)
      rw [same]
      cases answer : deps.publish recipient
          (signedFinding library (turns recipient) info job.persona recipient payload) with
      | error first =>
        rw [answer] at failed
        cases failed
        exact ⟨_, rfl, caught⟩
      | ok _ =>
        rw [answer] at failed
        cases failed
  · push Not at admitted
    obtain ⟨text, refused⟩ := publishTo_unadmitted ascii read admitted
    constructor
    · intro _
      exact ⟨_, refused, rfl⟩
    · intro _ info allowed
      exact absurd allowed (admitted info)

end

theorem spread_nothing_iff {transport : BusTransport BusListener} {payload : JsonDict} {names : List String}
    {e : PyExc} :
    spread deps transport job payload names = ([], .error e) ↔
      ∃ first, names.head? = some first ∧ publishTo deps job payload first = .error e := by
  cases names with
  | nil => simp [spread]
  | cons first rest =>
    simp only [spread, List.head?_cons, Option.some.injEq, exists_eq_left']
    cases publishTo deps job payload first with
    | error other => simp
    | ok envelope =>
      dsimp only
      cases heard transport first envelope <;> simp

end

/-- A finding goes to everybody and the job completes, or to nobody and it fails, exactly when
    the first recipient is refused, or every recipient is served, every handler returns and the
    memory takes the finding. -/
theorem all_or_nothing_iff {deps : WorkerDeps} {library : BusLibrary} {turns : String → BusTurn}
    {transport : BusTransport BusListener} {job : WorkerJob} {sessionId : String} {w w' : World} {prepared : Prepared}
    {result : Json} {finding : JsonDict}
    (ascii : ∀ body, (library.digest body).toList.all fun c => c.val < 128)
    (read : ∀ name, library.fromisoformat (.str (library.isoformat (turns name).sentAt)) = .ok (turns name).sentAt)
    (started : prepare (deps.overBus library turns) job sessionId w = .ok prepared w')
    (returned : (deps.arun prepared.call).outcome = .ok result)
    (made : outcome (findingOf (deps.overBus library turns) job prepared result) w' = .ok (.obj finding)) :
    AllOrNothing prepared.defn (findingPayload deps job prepared (.obj finding)) job.jobId w
        (final (executeAmong (deps.overBus library turns) (transport.calls BusListener.handle) job sessionId) w) ↔
      (∃ first, (recipients prepared.defn).head? = some first ∧ Refused deps library turns job.persona
          (findingPayload deps job prepared (.obj finding)) first) ∨
        (∀ recipient, recipient ∈ prepared.defn.busRecipients ∨ recipient = "critic" →
            Taken deps library turns transport job.persona (findingPayload deps job prepared (.obj finding)) recipient) ∧
          Remembers deps job finding := by
  refine (all_or_nothing_spread_iff started returned made).trans (or_congr ?_ (and_congr ?_ Iff.rfl))
  · constructor
    · intro given
      obtain ⟨e, stopped, caught⟩ := given
      obtain ⟨first, leading, refused⟩ := spread_nothing_iff.mp stopped
      exact ⟨first, leading, (refused_iff ascii read).mpr ⟨e, refused, caught⟩⟩
    · intro given
      obtain ⟨first, leading, refused⟩ := given
      obtain ⟨e, stopped, caught⟩ := (refused_iff ascii read).mp refused
      exact ⟨e, spread_nothing_iff.mpr ⟨first, leading, stopped⟩, caught⟩
  · rw [spread_ok_iff]
    constructor
    · intro reached recipient named
      exact (taken_iff ascii read).mpr (reached recipient (mem_recipients.mpr named))
    · intro taken recipient member
      exact (taken_iff ascii read).mp (taken recipient (mem_recipients.mp member))

theorem completed_lists_critic {deps : WorkerDeps} {library : BusLibrary} {turns : String → BusTurn}
    {transport : BusTransport BusListener} {job : WorkerJob} {sessionId : String} {w w' : World} {prepared : Prepared}
    {result : Json} {finding : JsonDict} {registry : AgentRegistry} {policy : BusPolicy}
    (ascii : ∀ body, (library.digest body).toList.all fun c => c.val < 128)
    (read : ∀ name, library.fromisoformat (.str (library.isoformat (turns name).sentAt)) = .ok (turns name).sentAt)
    (started : prepare (deps.overBus library turns) job sessionId w = .ok prepared w')
    (returned : (deps.arun prepared.call).outcome = .ok result)
    (made : outcome (findingOf (deps.overBus library turns) job prepared result) w' = .ok (.obj finding))
    (known : deps.registry = registry.get)
    (agents : ∀ name, (turns name).bus.agentRegistry = (buildAgentBus registry policy).agentRegistry)
    (paths : ∀ name, (turns name).bus.escalationPaths = policy.paths)
    (completed : (final (executeAmong (deps.overBus library turns) (transport.calls BusListener.handle) job sessionId)
      w).stored job.jobId = some .completed) :
    "critic" ∈ prepared.defn.busRecipients ∧
      ∀ recipient ∈ prepared.defn.busRecipients, (job.persona, recipient) ∉ policy.paths := by
  have own : registry.agents.get? job.persona = some prepared.defn := by
    obtain ⟨-, registered, -⟩ := prepare_ok started
    change deps.registry job.persona = _ at registered
    rw [known, AgentRegistry.get] at registered
    cases found : registry.agents.get? job.persona with
    | none =>
      rw [found] at registered
      cases registered
    | some defn =>
      rw [found] at registered
      rw [Except.ok.inj registered]
  have admitted : ∀ recipient ∈ recipients prepared.defn,
      recipient ∈ prepared.defn.busRecipients ∧ (job.persona, recipient) ∉ policy.paths := by
    intro recipient member
    by_contra unlisted
    have stopped : ¬ ((spread (deps.overBus library turns) transport job
        (findingPayload (deps.overBus library turns) job prepared (.obj finding)) (recipients prepared.defn)).2 = .ok () ∧
          Remembers (deps.overBus library turns) job finding) := by
      intro given
      obtain ⟨reached, -⟩ := given
      obtain ⟨info, admits, -⟩ := (taken_iff ascii read).mpr (spread_ok_iff.mp reached recipient member)
      apply unlisted
      have registered := admits.registered
      rw [agents, get?_buildAgentBus, own] at registered
      have direct := admits.direct
      rw [paths] at direct
      refine ⟨?_, direct⟩
      rw [show prepared.defn.busRecipients = info.allowedRecipients from
        congrArg RegisteredAgent.allowedRecipients (Option.some.inj registered)]
      exact admits.permitted
    obtain ⟨e, -, -, uncompleted, -⟩ := executeAmong_stops started returned made stopped
    exact uncompleted completed
  refine ⟨(admitted "critic" (mem_recipients.mpr (.inr rfl))).1, fun recipient member => ?_⟩
  exact (admitted recipient (mem_recipients.mpr (.inl member))).2

def intel : AgentDefinition :=
  { name := "intel", schemaName := some "IntelFinding"
    tools := ["ti_search_in_category", "playbook_search", "playbook_get", "enrich_ioc", "rag_query"]
    skills := ["threat-intel-osint"], trustLevel := "internal"
    busRecipients := ["critic", "soc", "hunter", "redteam"] }

def intelRegistry : AgentRegistry := ⟨⟨[("intel", intel)], by decide⟩, by decide⟩

def intelJob : WorkerJob := { jobId := "job-2", eventId := "evt-1", persona := "intel", correlationId := "inv-1" }

def intelFinding : JsonDict := [("verdict", .str "benign")]

def intelDeps : WorkerDeps :=
  { sampleDeps { outcome := .ok (.obj intelFinding) } with
    registry := intelRegistry.get
    toolRegistry := { names := intel.tools }
    schemas := { names := ["IntelFinding"] } }

def orchestratorTurns (registry : AgentRegistry) : String → BusTurn :=
  fun _ => { bus := buildAgentBus registry {}, sentAt := 0, receivedAt := 0 }

def intelWorker : WorkerDeps := intelDeps.overBus plainLibrary (orchestratorTurns intelRegistry)

def quietBus : BusTransport BusListener := .initial .memory

def intelStarted : World := ({} : World).upsertRunning intelJob "worker:intel:job-2"

def intelPrepared : Prepared :=
  { creds := { sandboxId := "job-2" }, sanitized := "", defn := intel
    call :=
      { name := "intel", userInput := "", sessionId := "worker:intel:job-2"
        sandboxTools := some
          [.gateway "ti_search_in_category" "job-2" "intel" "job-2" "inv-1",
            .gateway "playbook_search" "job-2" "intel" "job-2" "inv-1",
            .gateway "playbook_get" "job-2" "intel" "job-2" "inv-1",
            .gateway "enrich_ioc" "job-2" "intel" "job-2" "inv-1",
            .gateway "rag_query" "job-2" "intel" "job-2" "inv-1",
            .loadSkill ["threat-intel-osint"] "intel" "job-2"]
        jobId := "job-2", eventId := "evt-1", correlationId := "inv-1", investigationId := "inv-1"
        sandboxId := "job-2" } }

def intelRun : World :=
  final (executeAmong intelWorker (quietBus.calls BusListener.handle) intelJob "worker:intel:job-2") {}

theorem all_or_nothing_iff_intel :
    AllOrNothing intel (findingPayload intelDeps intelJob intelPrepared (.obj intelFinding)) "job-2" {} intelRun ↔
      (∃ first, (recipients intel).head? = some first ∧
          Refused intelDeps plainLibrary (orchestratorTurns intelRegistry) "intel"
            (findingPayload intelDeps intelJob intelPrepared (.obj intelFinding)) first) ∨
        (∀ recipient, recipient ∈ intel.busRecipients ∨ recipient = "critic" →
            Taken intelDeps plainLibrary (orchestratorTurns intelRegistry) quietBus "intel"
              (findingPayload intelDeps intelJob intelPrepared (.obj intelFinding)) recipient) ∧
          Remembers intelDeps intelJob intelFinding :=
  all_or_nothing_iff (fun _ => show ("00".toList.all fun c => c.val < 128) = true by decide) (fun _ => rfl)
    (show prepare intelWorker intelJob "worker:intel:job-2" {} = .ok intelPrepared intelStarted from rfl)
    (show (intelDeps.arun intelPrepared.call).outcome = .ok (.obj intelFinding) from rfl) rfl

/-- The finding of the shipped intel agent reaches three of its recipients before the bus
    refuses the fourth, and its job fails. -/
theorem intel_finding_half_published :
    intelRun.published.map Publication.channel = ["critic", "soc", "hunter"] ∧
      intelRun.stored "job-2" = some .failed ∧
      ¬ AllOrNothing intel (findingPayload intelDeps intelJob intelPrepared (.obj intelFinding)) "job-2" {} intelRun := by
  have stored : intelRun.stored "job-2" = some .failed := by decide +kernel
  refine ⟨by decide +kernel, stored, ?_⟩
  intro either
  rcases either with ⟨-, completed⟩ | ⟨uninformed, -⟩
  · rw [stored] at completed
    cases completed
  · apply uninformed "critic" (.inr rfl)
    have sent : intelRun.published.any (fun publication => decide (publication.channel = "critic" ∧
        publication.payload = findingPayload intelDeps intelJob intelPrepared (.obj intelFinding))) = true := by
      decide +kernel
    obtain ⟨publication, member, informed⟩ := List.any_eq_true.mp sent
    exact ⟨publication, member, of_decide_eq_true informed⟩

end CysAgi
