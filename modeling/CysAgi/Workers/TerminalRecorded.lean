import CysAgi.Base.Transition
import CysAgi.Hitl.PauseSurvival
import CysAgi.Workers.Orchestrator

namespace CysAgi

open Py RunWorkerJob

structure Execution where
  deps : WorkerDeps
  job : WorkerJob
  prepared : Prepared

structure WorkerSystem where
  world : World := {}
  enqueued : List WorkerJob := []
  executions : List Execution := []
  resumptions : List String := []

inductive WorkerStep where
  | enqueue (job : WorkerJob)
  | executeStart (deps : WorkerDeps) (job : WorkerJob) (sessionId : String)
  | pause (pending : PendingHitlAction) (preview : JsonDict)
  | executeReturn (execution : Nat) (outcome : Except PyExc Json)
  | resumeStart (env : ResumeEnv) (jobId : String) (request : JobResumeRequest)
  | resumeReturn (resumption : Nat) (outcome : Except PyExc Json)

namespace WorkerSystem

/-- Job ids are fresh. A worker has the investigation store, as the orchestrator wires it. -/
def step (s : WorkerSystem) : WorkerStep → Option WorkerSystem
  | .enqueue job =>
    if job.jobId ∈ s.enqueued.map WorkerJob.jobId then none
    else some { s with world := s.world.enqueue job, enqueued := s.enqueued ++ [job] }
  | .executeStart deps job sessionId =>
    if job ∈ s.enqueued ∧ deps.hasInvestigationStore then
      match prepare deps job sessionId s.world with
      | .ok prepared w => some { s with world := w, executions := s.executions ++ [{ deps, job, prepared }] }
      | .error e w => some { s with world := final (settle deps job (throw e)) w }
    else none
  | .pause pending preview => some { s with world := s.world.pauseForHitl pending preview }
  | .executeReturn execution outcome =>
    (s.executions[execution]?).map fun e =>
      { s with
        world := final (settle e.deps e.job (resultOf outcome >>= finish e.deps e.job e.prepared)) s.world
        executions := s.executions.eraseIdx execution }
  | .resumeStart env jobId request =>
    match beginResume env jobId request s.world with
    | .ok (.resumed _ _) w => some { s with world := w, resumptions := s.resumptions ++ [jobId] }
    | .ok .rejected w => some { s with world := w }
    | .error _ w => some { s with world := w }
  | .resumeReturn resumption outcome =>
    (s.resumptions[resumption]?).map fun jobId =>
      { s with
        world := match outcome with
          | .ok _ => s.world.markCompleted jobId
          | .error _ => s.world
        resumptions := s.resumptions.eraseIdx resumption }

section

variable {s t : WorkerSystem}

theorem step_enqueue {job : WorkerJob} (taken : s.step (.enqueue job) = some t) :
    job.jobId ∉ s.enqueued.map WorkerJob.jobId ∧
      t = { s with world := s.world.enqueue job, enqueued := s.enqueued ++ [job] } := by
  simp only [step] at taken
  split at taken
  · cases taken
  · rename_i fresh
    exact ⟨fresh, (Option.some.inj taken).symm⟩

theorem step_executeStart {deps : WorkerDeps} {job : WorkerJob} {sessionId : String}
    (taken : s.step (.executeStart deps job sessionId) = some t) :
    (job ∈ s.enqueued ∧ deps.hasInvestigationStore = true) ∧
      ((∃ prepared, outcome (prepare deps job sessionId) s.world = .ok prepared ∧
          t = { s with
            world := final (prepare deps job sessionId) s.world
            executions := s.executions ++ [{ deps, job, prepared }] }) ∨
        ∃ e, outcome (prepare deps job sessionId) s.world = .error e ∧
          t = { s with
            world := final (settle deps job (throw e)) (final (prepare deps job sessionId) s.world) }) := by
  simp only [step] at taken
  split at taken
  · rename_i allowed
    refine ⟨allowed, ?_⟩
    unfold outcome final
    cases ran : prepare deps job sessionId s.world with
    | ok prepared w =>
      rw [ran] at taken
      exact .inl ⟨prepared, rfl, (Option.some.inj taken).symm⟩
    | error e w =>
      rw [ran] at taken
      exact .inr ⟨e, rfl, (Option.some.inj taken).symm⟩
  · cases taken

theorem step_resumeStart {env : ResumeEnv} {jobId : String} {request : JobResumeRequest}
    (taken : s.step (.resumeStart env jobId request) = some t) :
    (t = s ∧ ∀ record pending, ¬ Accepted env s.world jobId request record pending) ∨
      ∃ record pending, Accepted env s.world jobId request record pending ∧
        ((request.decision = "reject" ∧
            t = { s with
              world := (s.world.recordApproval (approvalOf env jobId request pending)).markFailed jobId }) ∨
          (request.decision ≠ "reject" ∧
            t = { s with
              world := (s.world.recordApproval (approvalOf env jobId request pending)).markRunning jobId
              resumptions := s.resumptions ++ [jobId] })) := by
  simp only [step] at taken
  rcases beginResume_cases env jobId request s.world with
    ⟨e, refused, unaccepted⟩ | ⟨record, pending, accepted, ⟨reject, done⟩ | ⟨other, done⟩⟩
  · rw [refused] at taken
    exact .inl ⟨(Option.some.inj taken).symm, unaccepted⟩
  · rw [done] at taken
    exact .inr ⟨record, pending, accepted, .inl ⟨reject, (Option.some.inj taken).symm⟩⟩
  · rw [done] at taken
    exact .inr ⟨record, pending, accepted, .inr ⟨other, (Option.some.inj taken).symm⟩⟩

end

/-- The persona of each of these jobs is recorded where its dependents look it up. -/
def PersonaRecorded (s : WorkerSystem) (jobId : String) : Prop :=
  ∀ job ∈ s.enqueued, job.jobId = jobId → job.persona ∈ s.world.completed job.tenantId job.investigationId

def TerminalRecorded (enqueued : List WorkerJob) (w : World) : Prop :=
  ∀ job ∈ enqueued, ∀ record, w.jobStore.get job.jobId = some record → record.status.Terminal →
    job.persona ∈ w.completed job.tenantId job.investigationId

/-- A resume ends a job only after the worker's own run of it has. -/
def EndsAfterWorker (s : WorkerSystem) : WorkerStep → Prop
  | .resumeStart env jobId request =>
    request.decision = "reject" → (∃ record pending, Accepted env s.world jobId request record pending) →
      s.PersonaRecorded jobId
  | .resumeReturn resumption (.ok _) =>
    ∀ jobId, s.resumptions[resumption]? = some jobId → s.PersonaRecorded jobId
  | _ => True

structure Consistent (s : WorkerSystem) : Prop where
  unique : ∀ a ∈ s.enqueued, ∀ b ∈ s.enqueued, a.jobId = b.jobId → a = b
  executing : ∀ e ∈ s.executions, e.job ∈ s.enqueued ∧ e.deps.hasInvestigationStore = true
  resuming : ∀ jobId ∈ s.resumptions, ∃ record, s.world.jobStore.get jobId = some record

theorem completed_markPersonaDone (w : World) (job : WorkerJob) {persona tenantId investigationId : String}
    (done : persona ∈ w.completed tenantId investigationId) :
    persona ∈ (w.markPersonaDone job).completed tenantId investigationId :=
  (InMemoryInvestigationStateStore.mem_completed_markPersonaDone ..).mpr (.inl done)

theorem terminalRecorded_of_ended {enqueued : List WorkerJob} {v w : World} {job : WorkerJob}
    (unique : ∀ other ∈ enqueued, other.jobId = job.jobId → other = job)
    (frame : ∀ jobId, jobId ≠ job.jobId → w.jobStore.get jobId = v.jobStore.get jobId)
    (kept : ∀ persona tenantId investigationId, persona ∈ v.completed tenantId investigationId →
      persona ∈ w.completed tenantId investigationId)
    (own : job.persona ∈ w.completed job.tenantId job.investigationId)
    (held : TerminalRecorded enqueued v) : TerminalRecorded enqueued w := by
  intro other member record stored terminal
  by_cases same : other.jobId = job.jobId
  · rw [unique other member same]
    exact own
  · rw [frame other.jobId same] at stored
    exact kept _ _ _ (held other member record stored terminal)

theorem terminalRecorded_of_open {enqueued : List WorkerJob} {v w : World} (jobId : String)
    (frame : ∀ other, other ≠ jobId → w.jobStore.get other = v.jobStore.get other)
    (opened : ∀ record, w.jobStore.get jobId = some record → ¬ record.status.Terminal)
    (same : ∀ tenantId investigationId, w.completed tenantId investigationId = v.completed tenantId investigationId)
    (held : TerminalRecorded enqueued v) : TerminalRecorded enqueued w := by
  intro job member record stored terminal
  by_cases own : job.jobId = jobId
  · rw [own] at stored
    exact absurd terminal (opened record stored)
  · rw [frame job.jobId own] at stored
    rw [same]
    exact held job member record stored terminal

theorem terminalRecorded_pause {enqueued : List WorkerJob} {w : World} (pending : PendingHitlAction)
    (preview : JsonDict) (held : TerminalRecorded enqueued w) :
    TerminalRecorded enqueued (w.pauseForHitl pending preview) := by
  refine terminalRecorded_of_open pending.jobId
    (fun other ne => InMemoryJobStore.get_pauseForHitl_of_ne _ _ _ ne) (fun record stored terminal => ?_)
    (fun _ _ => rfl) held
  obtain ⟨paused, found, awaiting, -⟩ := InMemoryJobStore.get_pauseForHitl_self w.jobStore pending preview
  have current : paused = record := Option.some.inj (found.symm.trans stored)
  rw [← current, awaiting.1] at terminal
  exact absurd terminal (by decide)

theorem terminalRecorded_running {enqueued : List WorkerJob} {w : World} (job : WorkerJob) (sessionId : String)
    (held : TerminalRecorded enqueued w) : TerminalRecorded enqueued (w.upsertRunning job sessionId) := by
  refine terminalRecorded_of_open _ (fun other ne => InMemoryJobStore.get_upsertRunning_of_ne _ _ _ _ _ _ _ ne)
    (fun record stored terminal => ?_) (fun _ _ => rfl) held
  obtain ⟨written, found, running, -⟩ := InMemoryJobStore.get_upsertRunning_self w.jobStore job.jobId sessionId
    job.persona job.correlationId job.tenantId job.eventId
  have current : written = record := Option.some.inj (found.symm.trans stored)
  rw [← current, running] at terminal
  exact absurd terminal (by decide)

theorem terminalRecorded_invariant {enqueued : List WorkerJob} {deps : WorkerDeps} {job : WorkerJob}
    (unique : ∀ other ∈ enqueued, other.jobId = job.jobId → other = job)
    (wired : deps.hasInvestigationStore = true) :
    WorkerInvariant deps job (TerminalRecorded enqueued) where
  paused _ pending preview held := terminalRecorded_pause pending preview held
  unrelated v w same held := by
    intro other member record stored terminal
    rw [same.jobStore] at stored
    rw [same.completed]
    exact held other member record stored terminal
  completed w held := by
    unfold completedWorld
    rw [if_pos wired]
    exact terminalRecorded_of_ended (v := w) unique (fun jobId ne => InMemoryJobStore.get_markCompleted_of_ne _ _ ne)
      (fun _ _ _ done => completed_markPersonaDone w job done) (World.completed_markPersonaDone_self w job) held
  failed w held := by
    unfold failedWorld
    rw [if_pos wired]
    exact terminalRecorded_of_ended unique (fun jobId ne => InMemoryJobStore.get_markFailed_of_ne _ _ ne)
      (fun _ _ _ done => completed_markPersonaDone (w.markFailed job.jobId) job done)
      (World.completed_markPersonaDone_self (w.markFailed job.jobId) job) held

theorem consistent_initial : Consistent {} := ⟨by simp, by simp, by simp⟩

theorem known_step {s t : WorkerSystem} {action : WorkerStep} (taken : s.step action = some t) {jobId : String}
    (known : ∃ record, s.world.jobStore.get jobId = some record) :
    ∃ record, t.world.jobStore.get jobId = some record := by
  cases action with
  | enqueue job =>
    obtain ⟨-, rfl⟩ := step_enqueue taken
    exact InMemoryJobStore.known_set known _ _
  | executeStart deps job sessionId =>
    have started : Preserves (fun w => ∃ record, w.jobStore.get jobId = some record)
        (prepare deps job sessionId) := prepare_preserves fun w known => InMemoryJobStore.known_set known _ _
    obtain ⟨-, (⟨prepared, -, rfl⟩ | ⟨e, -, rfl⟩)⟩ := step_executeStart taken
    · exact started s.world known
    · exact (known_invariant deps job jobId).settle (Preserves.throw e) _ (started s.world known)
  | pause pending preview =>
    cases taken
    exact InMemoryJobStore.known_set known _ _
  | executeReturn execution outcome =>
    obtain ⟨e, -, rfl⟩ := Option.map_eq_some_iff.mp taken
    have body := Preserves.bind (Preserves.resultOf outcome)
      ((known_invariant e.deps e.job jobId).finish e.prepared)
    exact (known_invariant e.deps e.job jobId).settle body s.world known
  | resumeStart env target request =>
    rcases step_resumeStart taken with ⟨rfl, -⟩ | ⟨record, pending, -, ⟨-, rfl⟩ | ⟨-, rfl⟩⟩
    · exact known
    · exact InMemoryJobStore.known_modify known _ _
    · exact InMemoryJobStore.known_modify known _ _
  | resumeReturn resumption outcome =>
    obtain ⟨target, -, rfl⟩ := Option.map_eq_some_iff.mp taken
    cases outcome with
    | ok result => exact InMemoryJobStore.known_modify known _ _
    | error e => exact known

theorem Consistent.step {s t : WorkerSystem} {action : WorkerStep} (inv : s.Consistent)
    (taken : s.step action = some t) : t.Consistent := by
  have resuming : ∀ jobId ∈ s.resumptions, ∃ record, t.world.jobStore.get jobId = some record :=
    fun jobId member => known_step taken (inv.resuming jobId member)
  cases action with
  | enqueue job =>
    obtain ⟨fresh, rfl⟩ := step_enqueue taken
    have absent : ∀ other ∈ s.enqueued, other.jobId ≠ job.jobId := by
      intro other member same
      exact fresh (List.mem_map.mpr ⟨other, member, same⟩)
    refine ⟨fun a first b second same => ?_, fun e member => ?_, resuming⟩
    · rcases List.mem_append.mp first with first | first <;>
        rcases List.mem_append.mp second with second | second
      · exact inv.unique a first b second same
      · rw [List.mem_singleton.mp second] at same
        exact absurd same (absent a first)
      · rw [List.mem_singleton.mp first] at same
        exact absurd same.symm (absent b second)
      · rw [List.mem_singleton.mp first, List.mem_singleton.mp second]
    · exact ⟨List.mem_append_left _ (inv.executing e member).1, (inv.executing e member).2⟩
  | executeStart deps job sessionId =>
    obtain ⟨allowed, (⟨prepared, -, rfl⟩ | ⟨e, -, rfl⟩)⟩ := step_executeStart taken
    · refine ⟨inv.unique, fun e member => ?_, resuming⟩
      rcases List.mem_append.mp member with member | member
      · exact inv.executing e member
      · rw [List.mem_singleton.mp member]
        exact allowed
    · exact ⟨inv.unique, inv.executing, resuming⟩
  | pause pending preview =>
    cases taken
    exact ⟨inv.unique, inv.executing, resuming⟩
  | executeReturn execution outcome =>
    obtain ⟨e, -, rfl⟩ := Option.map_eq_some_iff.mp taken
    exact ⟨inv.unique, fun other member => inv.executing other (List.mem_of_mem_eraseIdx member), resuming⟩
  | resumeStart env jobId request =>
    rcases step_resumeStart taken with ⟨rfl, -⟩ | ⟨record, pending, accepted, ⟨-, rfl⟩ | ⟨-, rfl⟩⟩
    · exact inv
    · exact ⟨inv.unique, inv.executing, resuming⟩
    · refine ⟨inv.unique, inv.executing, fun other member => ?_⟩
      rcases List.mem_append.mp member with member | member
      · exact resuming other member
      · rw [List.mem_singleton.mp member]
        exact known_step taken ⟨record, accepted.found⟩
  | resumeReturn resumption outcome =>
    obtain ⟨jobId, -, rfl⟩ := Option.map_eq_some_iff.mp taken
    exact ⟨inv.unique, inv.executing, fun other member => resuming other (List.mem_of_mem_eraseIdx member)⟩

theorem terminalRecorded_ended_iff {s : WorkerSystem} {w : World} {jobId : String}
    (frame : ∀ other, other ≠ jobId → w.jobStore.get other = s.world.jobStore.get other)
    (ended : ∃ record, w.jobStore.get jobId = some record ∧ record.status.Terminal)
    (same : ∀ tenantId investigationId,
      w.completed tenantId investigationId = s.world.completed tenantId investigationId)
    (held : TerminalRecorded s.enqueued s.world) :
    TerminalRecorded s.enqueued w ↔ s.PersonaRecorded jobId := by
  obtain ⟨record, stored, terminal⟩ := ended
  constructor
  · intro recorded job member own
    have done := recorded job member record (by rw [own, stored]) terminal
    rwa [same] at done
  · intro done job member other found terminal
    rw [same]
    by_cases own : job.jobId = jobId
    · exact done job member own
    · rw [frame job.jobId own] at found
      exact held job member other found terminal

theorem step_exact {s t : WorkerSystem} {action : WorkerStep} (inv : s.Consistent)
    (held : TerminalRecorded s.enqueued s.world) (taken : s.step action = some t) :
    TerminalRecorded t.enqueued t.world ↔ s.EndsAfterWorker action := by
  have unique : ∀ job ∈ s.enqueued, ∀ other ∈ s.enqueued, other.jobId = job.jobId → other = job :=
    fun job member other found same => inv.unique other found job member same
  cases action with
  | enqueue job =>
    obtain ⟨-, rfl⟩ := step_enqueue taken
    refine ⟨fun _ => trivial, fun _ other member record stored terminal => ?_⟩
    by_cases own : other.jobId = job.jobId
    · rw [own, World.enqueue, InMemoryJobStore.get_upsertPending_self] at stored
      cases stored
      simp [WorkerJobStatus.Terminal] at terminal
    · rcases List.mem_append.mp member with member | member
      · rw [World.enqueue, InMemoryJobStore.get_upsertPending_of_ne _ _ _ _ _ _ own] at stored
        exact held other member record stored terminal
      · exact absurd (congrArg WorkerJob.jobId (List.mem_singleton.mp member)) own
  | executeStart deps job sessionId =>
    have started : Preserves (TerminalRecorded s.enqueued) (prepare deps job sessionId) :=
      prepare_preserves fun _ before => terminalRecorded_running job sessionId before
    obtain ⟨⟨member, wired⟩, (⟨prepared, -, rfl⟩ | ⟨e, -, rfl⟩)⟩ := step_executeStart taken
    · exact ⟨fun _ => trivial, fun _ => started s.world held⟩
    · have worker := terminalRecorded_invariant (unique job member) wired
      exact ⟨fun _ => trivial, fun _ => worker.settle (Preserves.throw e) _ (started s.world held)⟩
  | pause pending preview =>
    cases taken
    exact ⟨fun _ => trivial, fun _ => terminalRecorded_pause pending preview held⟩
  | executeReturn execution outcome =>
    obtain ⟨e, here, rfl⟩ := Option.map_eq_some_iff.mp taken
    obtain ⟨member, wired⟩ := inv.executing e (List.mem_of_getElem? here)
    have worker := terminalRecorded_invariant (unique e.job member) wired
    have body := Preserves.bind (Preserves.resultOf outcome) (worker.finish e.prepared)
    exact ⟨fun _ => trivial, fun _ => worker.settle body s.world held⟩
  | resumeStart env jobId request =>
    rcases step_resumeStart taken with ⟨rfl, unaccepted⟩ | ⟨record, pending, accepted, ⟨reject, rfl⟩ | ⟨other, rfl⟩⟩
    · refine iff_of_true held fun _ some_accepted => ?_
      obtain ⟨record, pending, accepted⟩ := some_accepted
      exact absurd accepted (unaccepted record pending)
    · have covered := terminalRecorded_ended_iff (s := s)
        (w := (s.world.recordApproval (approvalOf env jobId request pending)).markFailed jobId)
        (fun other ne => InMemoryJobStore.get_markFailed_of_ne _ _ ne)
        ⟨{ record with status := .failed }, by
          rw [World.markFailed, InMemoryJobStore.get_markFailed_self]
          exact congrArg (Option.map _) accepted.found, .inr rfl⟩ (fun _ _ => rfl) held
      exact ⟨fun recorded _ _ => covered.mp recorded,
        fun allowed => covered.mpr (allowed reject ⟨record, pending, accepted⟩)⟩
    · refine ⟨fun _ reject => absurd reject other, fun _ => ?_⟩
      refine terminalRecorded_of_open _ (fun other ne => InMemoryJobStore.get_markRunning_of_ne _ _ ne)
        (fun record stored terminal => ?_) (fun _ _ => rfl) held
      rw [InMemoryJobStore.status_of_markRunning stored] at terminal
      exact absurd terminal (by decide)
  | resumeReturn resumption outcome =>
    obtain ⟨jobId, here, rfl⟩ := Option.map_eq_some_iff.mp taken
    cases outcome with
    | error e => exact ⟨fun _ => trivial, fun _ => held⟩
    | ok result =>
      obtain ⟨record, stored⟩ := inv.resuming jobId (List.mem_of_getElem? here)
      have covered := terminalRecorded_ended_iff (s := s) (w := s.world.markCompleted jobId)
        (fun other ne => InMemoryJobStore.get_markCompleted_of_ne _ _ ne)
        ⟨{ record with status := .completed }, by
          rw [World.markCompleted, InMemoryJobStore.get_markCompleted_self, stored]
          rfl, .inl rfl⟩ (fun _ _ => rfl) held
      constructor
      · intro recorded other same
        rw [here] at same
        cases same
        exact covered.mp recorded
      · exact fun allowed => covered.mpr (allowed jobId here)

/-- In a run every terminal job is recorded throughout exactly when each resume ends its job
    after the worker has recorded the persona. -/
theorem terminal_recorded_iff {actions : List WorkerStep} {s : WorkerSystem}
    (reached : Transition.run step {} actions = some s) :
    Transition.Always step (fun s => TerminalRecorded s.enqueued s.world) {} actions ↔
      Transition.Guarded step EndsAfterWorker {} actions :=
  Transition.always_iff_guarded Consistent (fun _ _ _ inv _ _ taken => Consistent.step inv taken)
    (fun _ _ _ inv held taken => step_exact inv held taken) consistent_initial
    (fun job member => by cases member) reached

theorem run_pauses (pauses : List (PendingHitlAction × JsonDict)) (s : WorkerSystem) :
    Transition.run step s (pauses.map fun pause => .pause pause.1 pause.2) =
      some { s with world := s.world.pauseAll pauses } := by
  induction pauses generalizing s with
  | nil => rfl
  | cons pause rest ih =>
    rw [List.map_cons, Transition.run]
    exact ih { s with world := s.world.pauseForHitl pause.1 pause.2 }

theorem execute_is_run {s : WorkerSystem} {deps : WorkerDeps} {job : WorkerJob} {sessionId : String}
    {prepared : Prepared} {w : World} (allowed : job ∈ s.enqueued ∧ deps.hasInvestigationStore)
    (started : prepare deps job sessionId s.world = .ok prepared w) :
    (Transition.run step s
        (.executeStart deps job sessionId ::
          ((deps.arun prepared.call).pauses.map fun pause => .pause pause.1 pause.2) ++
            [.executeReturn s.executions.length (deps.arun prepared.call).outcome])).map world =
      some (final (execute deps job sessionId) s.world) := by
  have ended : final (execute deps job sessionId) s.world =
      final (settle deps job (resultOf (deps.arun prepared.call).outcome >>= finish deps job prepared))
        (w.pauseAll (deps.arun prepared.call).pauses) := by
    have afterPauses : (awaitAgent (deps.arun prepared.call) >>= finish deps job prepared) w =
        (resultOf (deps.arun prepared.call).outcome >>= finish deps job prepared)
          (w.pauseAll (deps.arun prepared.call).pauses) := by
      rw [run_bind, run_bind, run_awaitAgent]
    unfold final
    rw [execute_prepared started, settle_congr afterPauses]
  have begun : s.step (.executeStart deps job sessionId) =
      some { s with world := w, executions := s.executions ++ [{ deps, job, prepared }] } := by
    simp only [step, if_pos allowed, started]
  rw [List.cons_append, Transition.run, begun, Option.bind_some, Transition.run_append, run_pauses]
  simp [Transition.run, step, ended]

def completedSteps : List WorkerStep :=
  [.enqueue sampleJob, .executeStart (sampleDeps interruptedRun) sampleJob "worker:soc:job-1",
    .executeReturn 0 (.ok (.obj [("verdict", .str "benign")]))]

theorem terminal_recorded_iff_completed :
    Transition.Always step (fun s => TerminalRecorded s.enqueued s.world) {} completedSteps ↔
      Transition.Guarded step EndsAfterWorker {} completedSteps :=
  terminal_recorded_iff
    (Option.some_get (show (Transition.run step {} completedSteps).isSome = true by decide)).symm

/-- A paused job is rejected while its worker awaits the runtime, or after that worker was
    cancelled: it has failed, and no dependent of its persona will ever be ready. -/
theorem rejected_job_unrecorded :
    let start : List WorkerStep :=
      [.enqueue sampleJob, .executeStart (sampleDeps interruptedRun) sampleJob "worker:soc:job-1",
        .pause samplePause.1 samplePause.2]
    let reject : WorkerStep := .resumeStart sampleEnv "job-1" { decision := "reject" }
    let seen := fun (s : WorkerSystem) =>
      ((s.world.jobStore.get "job-1").map JobRecord.status, s.world.completed "default" "inv-1")
    (Transition.run step {} (start ++ [reject])).map seen = some (some .failed, []) ∧
      (Transition.run step {} (start ++ [.executeReturn 0 (.error (.baseException "CancelledError")), reject])).map
        seen = some (some .failed, []) := by
  decide

end WorkerSystem

end CysAgi
