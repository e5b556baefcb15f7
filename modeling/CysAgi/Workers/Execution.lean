import CysAgi.Workers.RunWorkerJob

namespace CysAgi

open Py

def World.publishAll (w : World) (publications : List Publication) : World :=
  { w with published := w.published ++ publications }

theorem World.completed_markPersonaDone_self (w : World) (job : WorkerJob) :
    job.persona ∈ (w.markPersonaDone job).completed job.tenantId job.investigationId :=
  (InMemoryInvestigationStateStore.mem_completed_markPersonaDone ..).mpr (.inr ⟨rfl, rfl, rfl⟩)

namespace RunWorkerJob

section

variable {deps : WorkerDeps} {job : WorkerJob} {prepared : Prepared} {P : World → Prop}

section

variable {Φ : (α : Type) → Effect α → Prop} (c : Compositional Φ)

include c

theorem refineRounds_compositional (ran : ∀ call, Φ Json (awaitAgent (deps.arun call))) (sanitized : String)
    (left begun : Nat) (result : JsonDict) :
    Φ (JsonDict × Nat) (refineRounds deps job sanitized left begun result) := by
  induction left generalizing begun result with
  | zero => exact c.pure _
  | succ left ih =>
    apply c.bind (ran _)
    intro revised
    cases revised with
    | obj revised =>
      apply Compositional.ite (c.pure _)
      apply c.bind (ran _)
      intro updated
      cases updated with
      | obj updated => exact Compositional.ite (c.pure _) (ih _ _)
      | _ => exact c.pure _
    | _ => exact c.pure _

theorem maybeSelfRefine_compositional (ran : ∀ call, Φ Json (awaitAgent (deps.arun call))) (sanitized : String)
    (result : Json) : Φ Json (maybeSelfRefine deps job sanitized result) := by
  cases result with
  | obj result =>
    have rounds : Φ (JsonDict × Nat) (refineRounds deps job sanitized deps.selfRefineMax.toNat 0 result) :=
      refineRounds_compositional c ran sanitized _ 0 result
    exact Compositional.ite (c.pure _) (c.bind rounds fun _ => c.pure _)
  | _ => exact c.pure _

theorem findingOf_compositional (ran : ∀ call, Φ Json (awaitAgent (deps.arun call)))
    (unwrapped : ∀ result, Φ Json (resultOf (unwrapRawResponse deps result)))
    (known : ∀ name, Φ (Option String) (resultOf (deps.schemas.get name)))
    (checked : ∀ schema result, Φ Json (resultOf (validated deps schema result))) (result : Json) :
    Φ Json (findingOf deps job prepared result) := by
  apply c.bind (unwrapped result)
  intro result
  apply c.bind (maybeSelfRefine_compositional c ran prepared.sanitized result)
  intro refined
  apply c.bind (known _)
  intro schema
  exact checked schema refined

theorem jobInput_compositional (read : Φ World get)
    (queried : ∀ query, deps.queryInvestigation = some query → ∀ tenantId investigationId,
      Φ (List MemoryEntry) (resultOf (query tenantId investigationId))) (job : WorkerJob) :
    Φ String (jobInput deps job) := by
  have context : Φ JsonDict (investigationContext deps job) := by
    apply c.bind read
    intro w
    apply c.bind _ fun _ => c.pure _
    cases reader : deps.queryInvestigation with
    | none => exact c.pure _
    | some query => exact queried query reader _ _
  exact c.bind context fun _ => c.pure _

theorem prepare_compositional (created : Φ SandboxCredentials (resultOf (deps.acreate job.jobId job.persona)))
    {sessionId : String} (started : Φ PUnit (modify fun w => w.upsertRunning job sessionId))
    (read : ∀ job, Φ String (jobInput deps job)) (cleaned : ∀ text, Φ String (resultOf (deps.sanitize text)))
    (known : Φ AgentDefinition (resultOf (deps.registry job.persona)))
    (bound : ∀ creds defn, Φ (List BoundTool) (resultOf (resolveTools deps job creds defn))) :
    Φ Prepared (prepare deps job sessionId) := by
  apply c.bind created
  intro creds
  apply c.bind started
  intro _
  apply c.bind (read _)
  intro rawInput
  apply c.bind (cleaned rawInput)
  intro sanitized
  apply c.bind known
  intro defn
  exact c.bind (bound creds defn) fun _ => c.pure _

theorem publishFinding_compositional
    (sent : ∀ payload recipient, Φ Json (resultOf (publishTo deps job payload recipient)))
    (published : ∀ publication, Φ PUnit (modify fun w => w.publish publication)) (result : Json) :
    Φ PUnit (publishFinding deps job prepared result) := by
  apply c.loop
  intro recipient _
  exact c.bind (sent _ recipient) fun _ => published _

theorem remember_compositional
    (stored : ∀ append, deps.appendPendingFinding = some append → ∀ finding, Φ Bool (resultOf (append finding)))
    (remembered : ∀ finding, Φ PUnit (modify fun w => w.appendPendingFinding finding)) (result : Json) :
    Φ PUnit (remember deps job result) := by
  cases result with
  | obj finding =>
    simp only [remember]
    cases writer : deps.appendPendingFinding with
    | none => exact c.pure _
    | some append =>
      apply c.bind (stored append writer _)
      intro accepted
      exact Compositional.ite (remembered _) (c.pure _)
  | _ => exact c.pure _

theorem appendFinding_compositional
    (appended : ∀ tenantId investigationId finding,
      Φ PUnit (modify fun w => w.appendFinding tenantId investigationId finding)) (result : Json) :
    Φ PUnit (appendFinding deps job result) := by
  cases result with
  | obj finding => exact Compositional.ite (appended _ _ _) (c.pure _)
  | _ => exact c.pure _

theorem recordFinding_compositional {result : Json} (remembering : Φ PUnit (remember deps job result))
    (appending : Φ PUnit (appendFinding deps job result))
    (marked : Φ PUnit (modify fun w => w.markPersonaDone job))
    (completed : Φ PUnit (modify fun w => w.markCompleted job.jobId))
    (ended : Φ RunResult (resultOf (succeeded job prepared result))) :
    Φ RunResult (recordFinding deps job prepared result) := by
  have marking : Φ PUnit (markPersonaTerminal deps job) := Compositional.ite marked (c.pure _)
  apply c.bind remembering
  intro _
  apply c.bind appending
  intro _
  apply c.bind marking
  intro _
  exact c.bind completed fun _ => ended

end

theorem findingOf_blind (deps : WorkerDeps) (job : WorkerJob) (prepared : Prepared) (result : Json) :
    Blind (findingOf deps job prepared result) :=
  findingOf_compositional Blind.compositional (fun call => awaitAgent_blind (deps.arun call))
    (fun _ => Blind.resultOf _) (fun _ => Blind.resultOf _) (fun _ _ => Blind.resultOf _) result

theorem findingOf_preserves (paused : ∀ w pending preview, P w → P (w.pauseForHitl pending preview))
    (result : Json) : Preserves P (findingOf deps job prepared result) :=
  findingOf_compositional (Preserves.compositional P) (fun call => awaitAgent_preserves paused (deps.arun call))
    (fun _ => Preserves.resultOf _) (fun _ => Preserves.resultOf _) (fun _ _ => Preserves.resultOf _) result

theorem jobInput_preserves (deps : WorkerDeps) (job : WorkerJob) : Preserves P (jobInput deps job) :=
  jobInput_compositional (Preserves.compositional P) Preserves.get (fun _ _ _ _ => Preserves.resultOf _) job

theorem final_jobInput (deps : WorkerDeps) (job : WorkerJob) (w : World) : final (jobInput deps job) w = w :=
  jobInput_preserves (P := fun v => v = w) deps job w rfl

theorem prepare_preserves {sessionId : String} (started : ∀ w, P w → P (w.upsertRunning job sessionId)) :
    Preserves P (prepare deps job sessionId) :=
  prepare_compositional (Preserves.compositional P) (Preserves.resultOf _) (Preserves.update started)
    (jobInput_preserves deps) (fun _ => Preserves.resultOf _) (Preserves.resultOf _) fun _ _ => Preserves.resultOf _

theorem prepare_ok {sessionId : String} {w w' : World}
    (done : prepare deps job sessionId w = .ok prepared w') :
    w' = w.upsertRunning job sessionId ∧ deps.registry job.persona = .ok prepared.defn ∧
      prepared.call.name = job.persona ∧ prepared.call.sessionId = sessionId ∧
      prepared.call.profileId = defaultProfileId ∧
      ∃ tools, resolveTools deps job prepared.creds prepared.defn = .ok tools ∧
        prepared.call.sandboxTools = if tools = [] then none else some tools := by
  unfold prepare at done
  obtain ⟨creds, _, created, done⟩ := run_bind_ok.mp done
  obtain ⟨-, rfl⟩ := resultOf_ok.mp created
  obtain ⟨_, _, started, done⟩ := run_bind_ok.mp done
  cases started
  obtain ⟨rawInput, t, read, done⟩ := run_bind_ok.mp done
  have still : t = w.upsertRunning job sessionId := by
    rw [← final_jobInput deps { job with sandboxId := creds.sandboxId, status := .running }
      (w.upsertRunning job sessionId), final, read]
  obtain ⟨sanitized, _, cleaned, done⟩ := run_bind_ok.mp done
  obtain ⟨-, rfl⟩ := resultOf_ok.mp cleaned
  obtain ⟨defn, _, known, done⟩ := run_bind_ok.mp done
  obtain ⟨registered, rfl⟩ := resultOf_ok.mp known
  obtain ⟨tools, _, resolved, done⟩ := run_bind_ok.mp done
  obtain ⟨bound, rfl⟩ := resultOf_ok.mp resolved
  cases done
  exact ⟨still, registered, rfl, rfl, rfl, tools, bound, rfl⟩

theorem resolveTools_gateway {creds : SandboxCredentials} {defn : AgentDefinition} {tools : List BoundTool}
    (gateway : deps.useToolGateway = true) (bound : resolveTools deps job creds defn = .ok tools) :
    ∀ tool ∈ tools,
      (∃ name, tool = .gateway name creds.sandboxId job.persona job.jobId job.correlationId) ∨
        ∃ skills, tool = .loadSkill skills job.persona job.jobId := by
  unfold resolveTools at bound
  rw [if_pos gateway] at bound
  obtain ⟨sandboxed, resolved, made⟩ := except_bind_ok.mp bound
  have each := McpToolRegistry.resolve_gateway resolved
  cases made
  intro tool member
  split at member
  · exact .inl (each tool member)
  · rcases List.mem_append.mp member with member | member
    · exact .inl (each tool member)
    · exact .inr ⟨_, List.mem_singleton.mp member⟩

theorem mem_recipients {defn : AgentDefinition} {recipient : String} :
    recipient ∈ recipients defn ↔ recipient ∈ defn.busRecipients ∨ recipient = "critic" := by
  rw [recipients, List.mem_eraseDups, List.mem_append, List.mem_singleton]

theorem recipients_ne_nil (defn : AgentDefinition) : recipients defn ≠ [] :=
  List.ne_nil_of_mem (mem_recipients.mpr (.inr rfl))

def deliver (deps : WorkerDeps) (job : WorkerJob) (payload : JsonDict) :
    List String → List Publication × Except PyExc Unit
  | [] => ([], .ok ())
  | recipient :: rest =>
    match publishTo deps job payload recipient with
    | .error e => ([], .error e)
    | .ok envelope =>
      let later := deliver deps job payload rest
      ({ channel := recipient, payload, message := envelope } :: later.1, later.2)

theorem deliver_payload (deps : WorkerDeps) (job : WorkerJob) (payload : JsonDict) (recipients : List String) :
    ∀ publication ∈ (deliver deps job payload recipients).1, publication.payload = payload := by
  induction recipients with
  | nil => simp [deliver]
  | cons recipient rest ih =>
    simp only [deliver]
    split
    · simp
    · intro publication member
      rcases List.mem_cons.mp member with rfl | member
      · rfl
      · exact ih publication member

theorem deliver_channels {payload : JsonDict} {recipients : List String}
    (complete : (deliver deps job payload recipients).2 = .ok ()) :
    (deliver deps job payload recipients).1.map Publication.channel = recipients := by
  induction recipients with
  | nil => rfl
  | cons recipient rest ih =>
    simp only [deliver] at complete ⊢
    split at complete
    · cases complete
    · simp only [List.map_cons, ih complete]

theorem run_publishFinding (result : Json) (w : World) :
    publishFinding deps job prepared result w =
      let delivery := deliver deps job (findingPayload deps job prepared result) (recipients prepared.defn)
      match delivery.2 with
      | .ok _ => .ok () (w.publishAll delivery.1)
      | .error e => .error e (w.publishAll delivery.1) := by
  unfold publishFinding
  generalize findingPayload deps job prepared result = payload
  generalize recipients prepared.defn = names
  induction names generalizing w with
  | nil => simp [deliver, World.publishAll]
  | cons recipient rest ih =>
    rw [List.forM_cons, run_bind, run_bind, run_resultOf, deliver]
    cases publishTo deps job payload recipient with
    | error e => simp [World.publishAll]
    | ok envelope =>
      dsimp only
      rw [run_modify]
      dsimp only
      rw [ih]
      dsimp only
      cases (deliver deps job payload rest).2 <;> simp [World.publishAll, World.publish]

def recorded (deps : WorkerDeps) (job : WorkerJob) (finding : JsonDict)
    (store : InMemoryInvestigationStateStore) : InMemoryInvestigationStateStore :=
  let appended :=
    if JsonDict.has finding "error" then store
    else store.appendFinding job.tenantId (memoryInvestigationId deps job)
      [("persona", .str job.persona), ("job_id", .str job.jobId), ("finding", .obj finding)]
  if deps.hasInvestigationStore then
    appended.markPersonaDone job.tenantId job.investigationId job.persona
  else store

theorem findings_recorded (wired : deps.hasInvestigationStore = true) {finding : JsonDict}
    (clean : JsonDict.has finding "error" = false) (store : InMemoryInvestigationStateStore) :
    (recorded deps job finding store).findings job.tenantId (memoryInvestigationId deps job) =
      store.findings job.tenantId (memoryInvestigationId deps job) ++
        [[("persona", .str job.persona), ("job_id", .str job.jobId), ("finding", .obj finding)]] := by
  simp [recorded, wired, clean]

theorem completed_recorded (wired : deps.hasInvestigationStore = true) (finding : JsonDict)
    (store : InMemoryInvestigationStateStore) :
    job.persona ∈ (recorded deps job finding store).completed job.tenantId job.investigationId := by
  rw [recorded, if_pos wired]
  exact (InMemoryInvestigationStateStore.mem_completed_markPersonaDone ..).mpr (.inr ⟨rfl, rfl, rfl⟩)

theorem remember_ok {result : Json} {w t : World} (done : remember deps job result w = .ok () t) :
    t.published = w.published ∧ t.jobStore = w.jobStore ∧ t.investigations = w.investigations := by
  cases result with
  | obj finding =>
    simp only [remember] at done
    cases writer : deps.appendPendingFinding with
    | none =>
      rw [writer] at done
      cases done
      exact ⟨rfl, rfl, rfl⟩
    | some append =>
      rw [writer] at done
      obtain ⟨stored, _, written, done⟩ := run_bind_ok.mp done
      obtain ⟨-, rfl⟩ := resultOf_ok.mp written
      cases stored <;> cases done <;> exact ⟨rfl, rfl, rfl⟩
  | _ =>
    cases done
    exact ⟨rfl, rfl, rfl⟩

theorem run_appendFinding (finding : JsonDict) (w : World) :
    appendFinding deps job (.obj finding) w =
      .ok () (if deps.hasInvestigationStore ∧ ¬ JsonDict.has finding "error" then
        w.appendFinding job.tenantId (memoryInvestigationId deps job)
          [("persona", .str job.persona), ("job_id", .str job.jobId), ("finding", .obj finding)]
      else w) := by
  simp only [appendFinding]
  split <;> rfl

theorem run_markPersonaTerminal (w : World) :
    markPersonaTerminal deps job w =
      .ok () (if deps.hasInvestigationStore then w.markPersonaDone job else w) := by
  unfold markPersonaTerminal
  split <;> rfl

def completedWorld (deps : WorkerDeps) (job : WorkerJob) (w : World) : World :=
  (if deps.hasInvestigationStore then w.markPersonaDone job else w).markCompleted job.jobId

theorem recordFinding_ok {result : Json} {w t : World} {run : RunResult}
    (done : recordFinding deps job prepared result w = .ok run t) :
    ∃ finding, result = .obj finding ∧ run.success = true ∧ t.published = w.published ∧
      t.jobStore = w.jobStore.markCompleted job.jobId ∧ t.investigations = recorded deps job finding w.investigations := by
  unfold recordFinding at done
  obtain ⟨_, remembered, kept, afterKept⟩ := run_bind_ok.mp done
  obtain ⟨_, appended, written, afterWritten⟩ := run_bind_ok.mp afterKept
  obtain ⟨_, marked, personaDone, afterMarked⟩ := run_bind_ok.mp afterWritten
  obtain ⟨_, completed, settled, last⟩ := run_bind_ok.mp afterMarked
  obtain ⟨success, rfl⟩ := resultOf_ok.mp last
  cases settled
  cases result with
  | obj finding =>
    rw [run_appendFinding] at written
    rw [run_markPersonaTerminal] at personaDone
    cases written
    cases personaDone
    cases success
    obtain ⟨samePublished, sameJobs, sameInvestigations⟩ := remember_ok kept
    refine ⟨finding, rfl, rfl, ?_, ?_, ?_⟩
    · rw [← samePublished]
      simp only [World.markCompleted]
      split <;> split <;> rfl
    · rw [← sameJobs]
      simp only [World.markCompleted]
      split <;> split <;> rfl
    · rw [← sameInvestigations]
      unfold recorded
      simp only [World.markCompleted]
      by_cases wired : deps.hasInvestigationStore = true
      · by_cases bad : JsonDict.has finding "error" = true
        · simp [wired, bad, World.markPersonaDone]
        · simp [wired, bad, World.markPersonaDone, World.appendFinding]
      · simp [wired]
  | _ => cases success

theorem finish_ok {result : Json} {w t : World} {run : RunResult}
    (done : finish deps job prepared result w = .ok run t) :
    ∃ finding v, findingOf deps job prepared result w = .ok (.obj finding) v ∧ run.success = true ∧
      (deliver deps job (findingPayload deps job prepared (.obj finding)) (recipients prepared.defn)).2 = .ok () ∧
      t.published = v.published ++
        (deliver deps job (findingPayload deps job prepared (.obj finding)) (recipients prepared.defn)).1 ∧
      t.jobStore = v.jobStore.markCompleted job.jobId ∧
      t.investigations = recorded deps job finding v.investigations := by
  unfold finish at done
  obtain ⟨result, v, found, afterFound⟩ := run_bind_ok.mp done
  obtain ⟨_, published, out, last⟩ := run_bind_ok.mp afterFound
  obtain ⟨finding, rfl, success, samePublished, completed, investigated⟩ := recordFinding_ok last
  rw [run_publishFinding] at out
  dsimp only at out
  cases delivery : (deliver deps job (findingPayload deps job prepared (.obj finding))
    (recipients prepared.defn)).2 with
  | error e =>
    rw [delivery] at out
    cases out
  | ok _ =>
    rw [delivery] at out
    cases out
    exact ⟨finding, v, found, success, delivery, samePublished, completed, investigated⟩

theorem conclude_blind (deps : WorkerDeps) (job : WorkerJob) (prepared : Prepared) (result : Json) :
    Blind (publishFinding deps job prepared result >>= fun _ => recordFinding deps job prepared result) := by
  have publishing : Blind (publishFinding deps job prepared result) :=
    publishFinding_compositional Blind.compositional (fun _ _ => Blind.resultOf _) (fun _ => Blind.update _) result
  have remembering : Blind (remember deps job result) :=
    remember_compositional Blind.compositional (fun _ _ _ => Blind.resultOf _) (fun _ => Blind.update _) result
  have appending : Blind (appendFinding deps job result) :=
    appendFinding_compositional Blind.compositional (fun _ _ _ => Blind.update _) result
  have recording : Blind (recordFinding deps job prepared result) :=
    recordFinding_compositional Blind.compositional remembering appending (Blind.update _) (Blind.update _)
      (Blind.resultOf _)
  exact Blind.bind publishing fun _ => recording

theorem outcome_finish_congr {first second : Json} {v w : World}
    (same : outcome (findingOf deps job prepared first) v = outcome (findingOf deps job prepared second) w) :
    outcome (finish deps job prepared first) v = outcome (finish deps job prepared second) w := by
  unfold finish
  rw [outcome_bind, outcome_bind, same]
  cases outcome (findingOf deps job prepared second) w with
  | ok finding => exact conclude_blind deps job prepared finding _ _
  | error e => rfl

theorem recordFinding_preserves (remembered : ∀ w finding, P w → P (w.appendPendingFinding finding))
    (appended : ∀ w tenantId investigationId finding, P w → P (w.appendFinding tenantId investigationId finding))
    (completed : ∀ w, P w → P (completedWorld deps job w)) (result : Json) :
    Preserves P (recordFinding deps job prepared result) := by
  have remembering : Preserves P (remember deps job result) :=
    remember_compositional (Preserves.compositional P) (fun _ _ _ => Preserves.resultOf _)
      (fun finding => Preserves.update fun w held => remembered w finding held) result
  have appending : Preserves P (appendFinding deps job result) :=
    appendFinding_compositional (Preserves.compositional P)
      (fun _ _ finding => Preserves.update fun w held => appended w _ _ finding held) result
  apply Preserves.bind remembering
  intro _
  apply Preserves.bind appending
  -- the persona is marked before the record, and the property need not hold in between
  intro _ w start
  have ended := completed w start
  unfold completedWorld at ended
  rw [final_bind]
  simp only [outcome, final, run_markPersonaTerminal, run_bind, run_modify, run_resultOf]
  cases succeeded job prepared result <;> exact ended

theorem publishFinding_preserves (published : ∀ w publication, P w → P (w.publish publication)) (result : Json) :
    Preserves P (publishFinding deps job prepared result) :=
  publishFinding_compositional (Preserves.compositional P) (fun _ _ => Preserves.resultOf _)
    (fun publication => Preserves.update fun w held => published w publication held) result

theorem finish_preserves (paused : ∀ w pending preview, P w → P (w.pauseForHitl pending preview))
    (published : ∀ w publication, P w → P (w.publish publication))
    (remembered : ∀ w finding, P w → P (w.appendPendingFinding finding))
    (appended : ∀ w tenantId investigationId finding, P w → P (w.appendFinding tenantId investigationId finding))
    (completed : ∀ w, P w → P (completedWorld deps job w)) (prepared : Prepared) (result : Json) :
    Preserves P (finish deps job prepared result) := by
  apply Preserves.bind (findingOf_preserves paused result)
  intro finding
  apply Preserves.bind (publishFinding_preserves published finding)
  intro _
  exact recordFinding_preserves remembered appended completed finding

theorem body_preserves {sessionId : String} (started : ∀ w, P w → P (w.upsertRunning job sessionId))
    (paused : ∀ w pending preview, P w → P (w.pauseForHitl pending preview))
    (published : ∀ w publication, P w → P (w.publish publication))
    (remembered : ∀ w finding, P w → P (w.appendPendingFinding finding))
    (appended : ∀ w tenantId investigationId finding, P w → P (w.appendFinding tenantId investigationId finding))
    (completed : ∀ w, P w → P (completedWorld deps job w)) : Preserves P (body deps job sessionId) := by
  apply Preserves.bind (prepare_preserves started)
  intro prepared
  apply Preserves.bind (awaitAgent_preserves paused _)
  intro result
  exact finish_preserves paused published remembered appended completed prepared result

def publications (deps : WorkerDeps) (job : WorkerJob) (prepared : Prepared) : Except PyExc Json → List Publication
  | .ok finding => (deliver deps job (findingPayload deps job prepared finding) (recipients prepared.defn)).1
  | .error _ => []

theorem published_finish (result : Json) (w : World) :
    (final (finish deps job prepared result) w).published =
      w.published ++ publications deps job prepared (outcome (findingOf deps job prepared result) w) := by
  have silent : (final (findingOf deps job prepared result) w).published = w.published :=
    findingOf_preserves (P := fun v => v.published = w.published) (fun _ _ _ same => same) result w rfl
  unfold finish
  rw [final_bind]
  cases outcome (findingOf deps job prepared result) w with
  | error e => simpa [publications] using silent
  | ok finding =>
    have recording : ∀ v, (final (recordFinding deps job prepared finding) v).published = v.published := fun v =>
      recordFinding_preserves (P := fun u => u.published = v.published) (fun _ _ same => same)
        (fun _ _ _ _ same => same)
        (fun u same => by
          unfold completedWorld
          split <;> exact same) finding v rfl
    dsimp only [publications]
    rw [final_bind]
    simp only [outcome, final, run_publishFinding] at recording silent ⊢
    cases (deliver deps job (findingPayload deps job prepared finding) (recipients prepared.defn)).2 with
    | error e => simp [World.publishAll, silent]
    | ok _ =>
      dsimp only
      rw [recording]
      simp [World.publishAll, silent]

def failedWorld (deps : WorkerDeps) (job : WorkerJob) (w : World) : World :=
  if deps.hasInvestigationStore then (w.markFailed job.jobId).markPersonaDone job else w.markFailed job.jobId

theorem jobStore_failedWorld (w : World) : (failedWorld deps job w).jobStore = w.jobStore.markFailed job.jobId := by
  unfold failedWorld
  split <;> rfl

theorem published_failedWorld (w : World) : (failedWorld deps job w).published = w.published := by
  unfold failedWorld
  split <;> rfl

theorem run_markFailed (w : World) : markFailed deps job w = .ok () (failedWorld deps job w) := by
  unfold markFailed
  rw [run_bind, run_modify]
  exact run_markPersonaTerminal _

theorem sendToDlq_ok {e : PyExc} {w t : World} (done : sendToDlq deps job e w = .ok () t) :
    t.published = w.published ∧ t.jobStore = w.jobStore ∧ t.investigations = w.investigations := by
  unfold sendToDlq at done
  cases queue : deps.sendToDlq with
  | none =>
    rw [queue] at done
    cases done
    exact ⟨rfl, rfl, rfl⟩
  | some send =>
    rw [queue] at done
    obtain ⟨_, _, sent, done⟩ := run_bind_ok.mp done
    obtain ⟨-, rfl⟩ := resultOf_ok.mp sent
    cases done
    exact ⟨rfl, rfl, rfl⟩

theorem onFailure_ok {e : PyExc} {v u : World} {run : RunResult} (done : onFailure deps job e v = .ok run u) :
    run.success = false ∧ u.published = v.published ∧
      u.jobStore = (failedWorld deps job v).jobStore ∧
      u.investigations = (failedWorld deps job v).investigations := by
  have expected : ∀ failure, onExpected deps job failure v = .ok run u → run.success = false ∧
      u.published = v.published ∧ u.jobStore = (failedWorld deps job v).jobStore ∧
      u.investigations = (failedWorld deps job v).investigations := by
    intro failure ran
    unfold onExpected at ran
    rw [run_bind, run_markFailed] at ran
    cases ran
    exact ⟨rfl, published_failedWorld v, rfl, rfl⟩
  have unexpected : ∀ failure, onUnexpected deps job failure v = .ok run u → run.success = false ∧
      u.published = v.published ∧ u.jobStore = (failedWorld deps job v).jobStore ∧
      u.investigations = (failedWorld deps job v).investigations := by
    intro failure ran
    unfold onUnexpected at ran
    rw [run_bind, run_modify] at ran
    obtain ⟨_, marked, failing, rest⟩ := run_bind_ok.mp ran
    obtain ⟨_, sent, sending, last⟩ := run_bind_ok.mp rest
    rw [run_markFailed] at failing
    cases failing
    cases last
    obtain ⟨samePublished, sameJobs, sameInvestigations⟩ := sendToDlq_ok sending
    refine ⟨rfl, ?_, ?_, ?_⟩
    · rw [samePublished, published_failedWorld]
      rfl
    · rw [sameJobs, jobStore_failedWorld, jobStore_failedWorld]
      rfl
    · rw [sameInvestigations]
      unfold failedWorld
      split <;> rfl
  cases e with
  | baseException message => cases done
  | jobBudgetExceeded message => exact expected _ done
  | securityViolation message => exact expected _ done
  | _ => exact unexpected _ done

theorem destroySandbox_ok {u t : World} : destroySandbox deps job u = .ok () t ↔
    deps.adestroy job.jobId = .ok () ∧ t = u.destroySandbox job.jobId := by
  unfold destroySandbox
  cases deps.adestroy job.jobId <;> simp [run_bind, eq_comm]

theorem settle_ok {body : Effect RunResult} {w t : World} {run : RunResult} :
    settle deps job body w = .ok run t ↔
      deps.adestroy job.jobId = .ok () ∧ ∃ u, t = u.destroySandbox job.jobId ∧
        (body w = .ok run u ∨ ∃ e v, body w = .error e v ∧ onFailure deps job e v = .ok run u) := by
  unfold settle
  rw [run_ensuring_ok]
  constructor
  · intro given
    obtain ⟨u, caught, _, gone⟩ := given
    obtain ⟨closed, same⟩ := destroySandbox_ok.mp gone
    exact ⟨closed, u, same, run_tryCatch_ok.mp caught⟩
  · intro given
    obtain ⟨closed, u, same, caught⟩ := given
    exact ⟨u, run_tryCatch_ok.mpr caught, (), destroySandbox_ok.mpr ⟨closed, same⟩⟩

theorem onFailure_preserves (noted : ∀ w persona, P w → P (w.recordAgentFailure persona))
    (failing : ∀ w, P w → P (failedWorld deps job w)) (lettered : ∀ w letter, P w → P (w.deadLetter letter))
    (e : PyExc) : Preserves P (onFailure deps job e) := by
  have marking : Preserves P (markFailed deps job) := by
    intro w start
    rw [final, run_markFailed]
    exact failing w start
  have expected : ∀ e, Preserves P (onExpected deps job e) := fun e =>
    Preserves.bind marking fun _ => Preserves.pure _
  have sending : ∀ e, Preserves P (sendToDlq deps job e) := by
    intro e
    unfold sendToDlq
    cases deps.sendToDlq with
    | none => exact Preserves.pure _
    | some send =>
      exact Preserves.bind (Preserves.resultOf _) fun _ => Preserves.update fun w held => lettered w _ held
  have unexpected : ∀ e, Preserves P (onUnexpected deps job e) := fun e =>
    Preserves.bind (Preserves.update fun w held => noted w _ held) fun _ =>
      Preserves.bind marking fun _ => Preserves.bind (sending e) fun _ => Preserves.pure _
  cases e with
  | baseException message => exact Preserves.throw _
  | jobBudgetExceeded message => exact expected _
  | securityViolation message => exact expected _
  | _ => exact unexpected _

theorem settle_keeps {body : Effect RunResult} {w : World} (ended : P (final body w))
    (noted : ∀ w persona, P w → P (w.recordAgentFailure persona))
    (failing : ∀ w, P w → P (failedWorld deps job w)) (lettered : ∀ w letter, P w → P (w.deadLetter letter))
    (destroyed : ∀ w runId, P w → P (w.destroySandbox runId)) : P (final (settle deps job body) w) := by
  have destroying : Preserves P (destroySandbox deps job) :=
    Preserves.bind (Preserves.resultOf _) fun _ => Preserves.update fun w held => destroyed w _ held
  unfold settle
  rw [final_ensuring]
  apply destroying
  rw [final, run_tryCatch]
  unfold final at ended
  cases ran : body w with
  | ok run t => simpa [ran] using ended
  | error e t =>
    rw [ran] at ended
    exact onFailure_preserves noted failing lettered e t ended

theorem published_settle {body : Effect RunResult} {w : World} :
    (final (settle deps job body) w).published = (final body w).published := by
  exact settle_keeps (P := fun u => u.published = (final body w).published) rfl (fun _ _ same => same)
    (fun u same => (published_failedWorld u).trans same) (fun _ _ same => same) (fun _ _ same => same)

theorem jobStore_destroySandbox (w : World) : (final (destroySandbox deps job) w).jobStore = w.jobStore := by
  unfold destroySandbox
  rw [final_bind, outcome_resultOf]
  cases deps.adestroy job.jobId <;> rfl

theorem jobStore_onFailure (e : PyExc) (w : World) :
    (final (onFailure deps job e) w).jobStore =
      if e.caught then w.jobStore.markFailed job.jobId else w.jobStore := by
  have expected : ∀ failure, (final (onExpected deps job failure) w).jobStore = w.jobStore.markFailed job.jobId := by
    intro failure
    unfold onExpected
    rw [final, run_bind, run_markFailed]
    exact jobStore_failedWorld w
  have lettered : ∀ failure v, (final (sendToDlq deps job failure) v).jobStore = v.jobStore := by
    intro failure v
    unfold sendToDlq
    cases deps.sendToDlq with
    | none => rfl
    | some send =>
      dsimp only
      rw [final_bind, outcome_resultOf]
      cases send (handledJob deps job) failure.message <;> rfl
  have unexpected : ∀ failure,
      (final (onUnexpected deps job failure) w).jobStore = w.jobStore.markFailed job.jobId := by
    intro failure
    have sent := lettered failure (failedWorld deps job (w.recordAgentFailure job.persona))
    rw [jobStore_failedWorld] at sent
    unfold onUnexpected
    rw [final, run_bind, run_modify]
    dsimp only
    rw [run_bind, run_markFailed]
    dsimp only
    rw [run_bind]
    unfold final at sent
    cases ran : sendToDlq deps job failure (failedWorld deps job (w.recordAgentFailure job.persona)) <;>
      rw [ran] at sent <;> exact sent
  cases e with
  | baseException message => rfl
  | jobBudgetExceeded message => exact expected _
  | securityViolation message => exact expected _
  | _ => exact unexpected _

theorem jobStore_settle_returned {body : Effect RunResult} {w t : World} {run : RunResult}
    (ran : body w = .ok run t) : (final (settle deps job body) w).jobStore = t.jobStore := by
  unfold settle
  rw [final_ensuring, jobStore_destroySandbox, final, run_tryCatch, ran]

theorem jobStore_settle_raised {body : Effect RunResult} {w t : World} {e : PyExc} (raised : body w = .error e t) :
    (final (settle deps job body) w).jobStore =
      if e.caught then t.jobStore.markFailed job.jobId else t.jobStore := by
  unfold settle
  rw [final_ensuring, jobStore_destroySandbox, final, run_tryCatch, raised]
  exact jobStore_onFailure e t

theorem settle_congr {first second : Effect RunResult} {v w : World} (same : first v = second w) :
    settle deps job first v = settle deps job second w := by
  unfold settle ensuring
  rw [run_tryCatch, run_tryCatch, same]

structure World.SameJobs (v w : World) : Prop where
  jobStore : w.jobStore = v.jobStore
  completed : ∀ tenantId investigationId,
    w.completed tenantId investigationId = v.completed tenantId investigationId
  queue : w.queue = v.queue
  dispatched : w.dispatched = v.dispatched

theorem World.SameJobs.of_eq {v w : World} (jobs : w.jobStore = v.jobStore)
    (investigations : w.investigations = v.investigations) (queue : w.queue = v.queue)
    (dispatched : w.dispatched = v.dispatched) : World.SameJobs v w :=
  ⟨jobs, fun _ _ => by rw [World.completed, World.completed, investigations], queue, dispatched⟩

structure WorkerInvariant (deps : WorkerDeps) (job : WorkerJob) (P : World → Prop) : Prop where
  paused : ∀ w pending preview, P w → P (w.pauseForHitl pending preview)
  unrelated : ∀ v w, World.SameJobs v w → P v → P w
  completed : ∀ w, P w → P (completedWorld deps job w)
  failed : ∀ w, P w → P (failedWorld deps job w)

theorem WorkerInvariant.settle (inv : WorkerInvariant deps job P) {body : Effect RunResult}
    (ran : Preserves P body) : Preserves P (settle deps job body) := fun w start =>
  settle_keeps (ran w start) (fun v _ held => inv.unrelated v _ (.of_eq rfl rfl rfl rfl) held) inv.failed
    (fun v _ held => inv.unrelated v _ (.of_eq rfl rfl rfl rfl) held)
    (fun v _ held => inv.unrelated v _ (.of_eq rfl rfl rfl rfl) held)

theorem WorkerInvariant.published (inv : WorkerInvariant deps job P) (w : World) (publication : Publication)
    (held : P w) : P (w.publish publication) := inv.unrelated w _ (.of_eq rfl rfl rfl rfl) held

theorem WorkerInvariant.remembered (inv : WorkerInvariant deps job P) (w : World) (finding : PendingFinding)
    (held : P w) : P (w.appendPendingFinding finding) := inv.unrelated w _ (.of_eq rfl rfl rfl rfl) held

theorem WorkerInvariant.appended (inv : WorkerInvariant deps job P) (w : World) (tenantId investigationId : String)
    (data : JsonDict) (held : P w) : P (w.appendFinding tenantId investigationId data) := by
  refine inv.unrelated w _ ⟨rfl, fun _ _ => ?_, rfl, rfl⟩ held
  exact InMemoryInvestigationStateStore.completed_appendFinding ..

theorem WorkerInvariant.finish (inv : WorkerInvariant deps job P) (prepared : Prepared) (result : Json) :
    Preserves P (finish deps job prepared result) :=
  finish_preserves inv.paused inv.published inv.remembered inv.appended inv.completed prepared result

theorem WorkerInvariant.body (inv : WorkerInvariant deps job P) {sessionId : String}
    (started : ∀ w, P w → P (w.upsertRunning job sessionId)) : Preserves P (body deps job sessionId) :=
  body_preserves started inv.paused inv.published inv.remembered inv.appended inv.completed

theorem WorkerInvariant.execute (inv : WorkerInvariant deps job P) {sessionId : String}
    (started : ∀ w, P w → P (w.upsertRunning job sessionId)) : Preserves P (execute deps job sessionId) :=
  inv.settle (inv.body started)

theorem known_invariant (deps : WorkerDeps) (job : WorkerJob) (jobId : String) :
    WorkerInvariant deps job fun w => ∃ record, w.jobStore.get jobId = some record where
  paused _ _ _ known := InMemoryJobStore.known_set known _ _
  unrelated v w same known := by rwa [same.jobStore]
  completed w known := by
    unfold completedWorld
    split <;> exact InMemoryJobStore.known_modify known _ _
  failed w known := by
    unfold failedWorld
    split <;> exact InMemoryJobStore.known_modify known _ _

theorem execute_prepared {sessionId : String} {w w' : World}
    (started : prepare deps job sessionId w = .ok prepared w') :
    execute deps job sessionId w =
      settle deps job (awaitAgent (deps.arun prepared.call) >>= finish deps job prepared) w' := by
  unfold execute body
  refine settle_congr ?_
  rw [run_bind, started]

theorem settled_terminal {result : Effect RunResult} {w t : World} {run : RunResult}
    (completes : ∀ w u run, result w = .ok run u → ∃ v : World, u.jobStore = v.jobStore.markCompleted job.jobId)
    (done : settle deps job result w = .ok run t) :
    ∀ record, t.jobStore.get job.jobId = some record → record.status.Terminal := by
  intro record found
  obtain ⟨-, u, rfl, ran | ⟨e, v, -, handled⟩⟩ := settle_ok.mp done
  · obtain ⟨v, same⟩ := completes w u run ran
    rw [show (u.destroySandbox job.jobId).jobStore = u.jobStore from rfl, same] at found
    exact .inl (InMemoryJobStore.status_of_markCompleted found)
  · obtain ⟨-, -, same, -⟩ := onFailure_ok handled
    rw [show (u.destroySandbox job.jobId).jobStore = u.jobStore from rfl, same, jobStore_failedWorld] at found
    exact .inr (InMemoryJobStore.status_of_markFailed found)

end

end RunWorkerJob

end CysAgi
