import CysAgi.Hitl.PauseSurvival

namespace CysAgi

open Py RunWorkerJob

/-- When the worker's `execute` returns, seen from the resume of its paused job. -/
inductive Schedule where
  | returnFirst
  | returnBetween
  | returnLast
  deriving DecidableEq

structure Observed where
  published : List Publication
  findings : List JsonDict
  personaDone : Bool
  status : Option WorkerJobStatus
  deriving DecidableEq

def observe (deps : WorkerDeps) (job : WorkerJob) (w : World) : Observed :=
  { published := w.published
    findings := w.investigations.findings job.tenantId (memoryInvestigationId deps job)
    personaDone := (w.completed job.tenantId job.investigationId).contains job.persona
    status := (w.jobStore.get job.jobId).map JobRecord.status }

def resumedWorld (env : ResumeEnv) (jobId : String) (request : JobResumeRequest) (w : World) : Option World :=
  match beginResume env jobId request w with
  | .ok (.resumed _ _) t => some t
  | _ => none

/-- The rest of a paused job's life, none when its resume is refused. The interrupted call of
    the runtime returns the given dict, the resumed one returns as well: its result goes to
    the caller of the resume alone. -/
def pausedRun (env : ResumeEnv) (deps : WorkerDeps) (job : WorkerJob) (prepared : Prepared)
    (request : JobResumeRequest) (interrupted : Json) (w : World) : Schedule → Option World
  | .returnFirst =>
    (resumedWorld env job.jobId request (final (settle deps job (finish deps job prepared interrupted)) w)).map
      fun t => t.markCompleted job.jobId
  | .returnBetween =>
    (resumedWorld env job.jobId request w).map
      fun t => (final (settle deps job (finish deps job prepared interrupted)) t).markCompleted job.jobId
  | .returnLast =>
    (resumedWorld env job.jobId request w).map
      fun t => final (settle deps job (finish deps job prepared interrupted)) (t.markCompleted job.jobId)

section

variable {env : ResumeEnv} {deps : WorkerDeps} {job : WorkerJob} {prepared : Prepared}

/-- The effects of a job whose finding was made and delivered, from any world that has a
    record of it. -/
def finishedEffects (deps : WorkerDeps) (job : WorkerJob) (prepared : Prepared) (finding : JsonDict) (w : World) :
    Observed :=
  { published := w.published ++
      (deliver deps job (findingPayload deps job prepared (.obj finding)) (recipients prepared.defn)).1
    findings := (recorded deps job finding w.investigations).findings job.tenantId (memoryInvestigationId deps job)
    personaDone :=
      ((recorded deps job finding w.investigations).completed job.tenantId job.investigationId).contains job.persona
    status := some .completed }

theorem finishedEffects_once (wired : deps.hasInvestigationStore = true) {finding : JsonDict}
    (clean : JsonDict.has finding "error" = false)
    (complete : (deliver deps job (findingPayload deps job prepared (.obj finding)) (recipients prepared.defn)).2 =
      .ok ()) (w : World) :
    ∃ sent, finishedEffects deps job prepared finding w =
        { published := w.published ++ sent
          findings := w.investigations.findings job.tenantId (memoryInvestigationId deps job) ++
            [[("persona", .str job.persona), ("job_id", .str job.jobId), ("finding", .obj finding)]]
          personaDone := true
          status := some .completed } ∧
      sent.map Publication.channel = recipients prepared.defn ∧ (recipients prepared.defn).Nodup ∧
      ∀ publication ∈ sent, publication.payload = findingPayload deps job prepared (.obj finding) := by
  refine ⟨_, ?_, deliver_channels complete, nodup_eraseDups _, deliver_payload _ _ _ _⟩
  unfold finishedEffects
  rw [findings_recorded wired clean, List.contains_iff_mem.mpr (completed_recorded wired finding w.investigations)]

theorem settle_finish_observed {first second : Json} {v w u : World} {run : RunResult}
    (done : settle deps job (finish deps job prepared first) v = .ok run u) (success : run.success = true)
    (same : outcome (findingOf deps job prepared second) w = outcome (findingOf deps job prepared first) v)
    (known : ∃ record, w.jobStore.get job.jobId = some record) :
    ∃ finding, outcome (findingOf deps job prepared first) v = .ok (.obj finding) ∧
      (deliver deps job (findingPayload deps job prepared (.obj finding)) (recipients prepared.defn)).2 = .ok () ∧
      observe deps job (final (settle deps job (finish deps job prepared second)) w) =
        finishedEffects deps job prepared finding w ∧
      ∃ record, (final (settle deps job (finish deps job prepared second)) w).jobStore.get job.jobId =
        some record ∧ record.status = .completed := by
  obtain ⟨closed, ended, -, ran | ⟨e, t, -, handled⟩⟩ := settle_ok.mp done
  · have returned : outcome (finish deps job prepared second) w = .ok run := by
      rw [outcome_finish_congr same, outcome, ran]
    obtain ⟨finding, _, found, -⟩ := finish_ok ran
    have made : outcome (findingOf deps job prepared first) v = .ok (.obj finding) := by rw [outcome, found]
    obtain ⟨last, ranSecond⟩ : ∃ last, finish deps job prepared second w = .ok run last := by
      unfold outcome at returned
      split at returned
      · cases returned
        exact ⟨_, ‹_›⟩
      · cases returned
    obtain ⟨finding', x, foundSecond, -, delivered, published, completed, investigated⟩ := finish_ok ranSecond
    have sameFinding : finding' = finding := by
      have madeSecond : outcome (findingOf deps job prepared second) w = .ok (.obj finding') := by
        rw [outcome, foundSecond]
      rw [same, made] at madeSecond
      cases madeSecond
      rfl
    subst sameFinding
    have ends : final (findingOf deps job prepared second) w = x := by rw [final, foundSecond]
    have silent : x.published = w.published := by
      rw [← ends]
      exact findingOf_preserves (P := fun y => y.published = w.published) (fun _ _ _ same => same) second w rfl
    have untouched : x.investigations = w.investigations := by
      rw [← ends]
      exact findingOf_preserves (P := fun y => y.investigations = w.investigations) (fun _ _ _ same => same)
        second w rfl
    have still : ∃ record, x.jobStore.get job.jobId = some record := by
      rw [← ends]
      exact findingOf_preserves (P := fun y => ∃ record, y.jobStore.get job.jobId = some record)
        (fun _ _ _ held => InMemoryJobStore.known_set held _ _) second w known
    obtain ⟨record, stored⟩ := still
    have marked : last.jobStore.get job.jobId = some { record with status := .completed } := by
      rw [completed, InMemoryJobStore.get_markCompleted_self, stored]
      rfl
    have settled : final (settle deps job (finish deps job prepared second)) w = last.destroySandbox job.jobId := by
      rw [final, settle_ok.mpr ⟨closed, last, rfl, .inl ranSecond⟩]
    refine ⟨finding', made, delivered, ?_, ?_⟩
    · rw [settled]
      unfold observe finishedEffects
      simp only [World.destroySandbox, World.completed, published, silent, investigated, untouched, marked,
        Option.map_some]
    · rw [settled]
      exact ⟨_, marked, rfl⟩
  · have failure := (onFailure_ok handled).1
    rw [success] at failure
    cases failure

theorem resumedWorld_some {jobId : String} {request : JobResumeRequest} {w t : World}
    (resumed : resumedWorld env jobId request w = some t) :
    ∃ record pending, Accepted env w jobId request record pending ∧
      t = (w.recordApproval (approvalOf env jobId request pending)).markRunning jobId := by
  unfold resumedWorld at resumed
  rcases beginResume_cases env jobId request w with
    ⟨e, refused, -⟩ | ⟨record, pending, accepted, ⟨-, done⟩ | ⟨-, done⟩⟩
  · rw [refused] at resumed
    cases resumed
  · rw [done] at resumed
    cases resumed
  · rw [done] at resumed
    exact ⟨record, pending, accepted, (Option.some.inj resumed).symm⟩

theorem resumedWorld_accepted {jobId : String} {request : JobResumeRequest} {w : World} {record : JobRecord}
    {pending : PendingHitlAction} (accepted : Accepted env w jobId request record pending)
    (approve : request.decision = "approve") :
    resumedWorld env jobId request w =
      some ((w.recordApproval (approvalOf env jobId request pending)).markRunning jobId) := by
  unfold resumedWorld
  rw [beginResume_accepted accepted, if_neg (by simp [approve])]

theorem observe_markCompleted {w : World} (known : ∃ record, w.jobStore.get job.jobId = some record) :
    observe deps job (w.markCompleted job.jobId) = { observe deps job w with status := some .completed } := by
  obtain ⟨record, stored⟩ := known
  simp [observe, World.markCompleted, World.completed, stored]

theorem published_pausedRun {request : JobResumeRequest} {interrupted : Json} {w t : World} {schedule : Schedule}
    (ran : pausedRun env deps job prepared request interrupted w schedule = some t) :
    t.published =
      w.published ++ publications deps job prepared (outcome (findingOf deps job prepared interrupted) w) := by
  have finishing : ∀ v, (final (settle deps job (finish deps job prepared interrupted)) v).published =
      v.published ++ publications deps job prepared (outcome (findingOf deps job prepared interrupted) w) := by
    intro v
    rw [published_settle, published_finish, findingOf_blind deps job prepared interrupted v w]
  cases schedule with
  | returnFirst =>
    obtain ⟨u, resumed, rfl⟩ := Option.map_eq_some_iff.mp ran
    obtain ⟨record, pending, -, rfl⟩ := resumedWorld_some resumed
    exact finishing w
  | returnBetween =>
    obtain ⟨u, resumed, rfl⟩ := Option.map_eq_some_iff.mp ran
    obtain ⟨record, pending, -, rfl⟩ := resumedWorld_some resumed
    exact finishing _
  | returnLast =>
    obtain ⟨u, resumed, rfl⟩ := Option.map_eq_some_iff.mp ran
    obtain ⟨record, pending, -, rfl⟩ := resumedWorld_some resumed
    exact finishing _

theorem outcome_of_publications {finding : Json} {other : Except PyExc Json}
    (complete : (deliver deps job (findingPayload deps job prepared finding) (recipients prepared.defn)).2 = .ok ())
    (same : publications deps job prepared other = publications deps job prepared (.ok finding)) :
    other = .ok finding := by
  have channels := deliver_channels complete
  cases sent : (deliver deps job (findingPayload deps job prepared finding) (recipients prepared.defn)).1 with
  | nil =>
    rw [sent] at channels
    exact absurd channels.symm (recipients_ne_nil prepared.defn)
  | cons publication rest =>
    rw [publications, sent] at same
    cases other with
    | error e => cases same
    | ok found =>
      have ofFinding := deliver_payload deps job (findingPayload deps job prepared finding)
        (recipients prepared.defn) publication (by rw [sent]; exact List.mem_cons_self ..)
      have ofFound := deliver_payload deps job (findingPayload deps job prepared found)
        (recipients prepared.defn) publication (by
          rw [show (deliver deps job (findingPayload deps job prepared found) (recipients prepared.defn)).1 = _
            from same]
          exact List.mem_cons_self ..)
      have payloads := ofFound.symm.trans ofFinding
      have data : found = finding := by simpa [findingPayload] using payloads
      rw [data]

theorem execute_uninterrupted {sessionId : String} {w w' : World} {result : Json}
    (started : prepare deps job sessionId w = .ok prepared w')
    (uninterrupted : deps.arun prepared.call = { outcome := .ok result }) :
    execute deps job sessionId w = settle deps job (finish deps job prepared result) w' := by
  rw [execute_prepared started]
  refine settle_congr ?_
  rw [run_bind, uninterrupted]
  rfl

theorem known_prepared {sessionId : String} {w w' : World}
    (started : prepare deps job sessionId w = .ok prepared w') :
    ∃ record, w'.jobStore.get job.jobId = some record := by
  obtain ⟨rfl, -⟩ := prepare_ok started
  obtain ⟨record, stored, -⟩ := InMemoryJobStore.get_upsertRunning_self w.jobStore job.jobId sessionId job.persona
    job.correlationId job.tenantId job.eventId
  exact ⟨record, stored⟩

theorem returnFirst_refused {first interrupted : Json} {v w u : World} {run : RunResult} {request : JobResumeRequest}
    (done : settle deps job (finish deps job prepared first) v = .ok run u) (success : run.success = true)
    (same : outcome (findingOf deps job prepared interrupted) w = outcome (findingOf deps job prepared first) v)
    (known : ∃ record, w.jobStore.get job.jobId = some record) :
    pausedRun env deps job prepared request interrupted w .returnFirst = none := by
  obtain ⟨-, -, -, -, last, found, completed⟩ := settle_finish_observed done success same known
  rw [pausedRun, Option.map_eq_none_iff]
  cases resumed : resumedWorld env job.jobId request
      (final (settle deps job (finish deps job prepared interrupted)) w) with
  | none => rfl
  | some t =>
    -- once `execute` has returned the job is completed, and a resume of it is refused
    obtain ⟨other, action, answerable, -⟩ := resumedWorld_some resumed
    have current : last = other := Option.some.inj (found.symm.trans answerable.found)
    have waiting := answerable.awaiting.1
    rw [← current, completed] at waiting
    cases waiting

theorem observe_pausedRun {first interrupted : Json} {v w u : World} {run : RunResult} {request : JobResumeRequest}
    {record : JobRecord} {pending : PendingHitlAction}
    (done : settle deps job (finish deps job prepared first) v = .ok run u) (success : run.success = true)
    (same : outcome (findingOf deps job prepared interrupted) w = outcome (findingOf deps job prepared first) v)
    (accepted : Accepted env w job.jobId request record pending) (approve : request.decision = "approve")
    {schedule : Schedule} (late : schedule ≠ .returnFirst) :
    ∃ t finding, pausedRun env deps job prepared request interrupted w schedule = some t ∧
      outcome (findingOf deps job prepared first) v = .ok (.obj finding) ∧
      observe deps job t = finishedEffects deps job prepared finding w := by
  have resumed := resumedWorld_accepted accepted approve
  have running : ∃ record, ((w.recordApproval (approvalOf env job.jobId request pending)).markRunning
      job.jobId).jobStore.get job.jobId = some record :=
    InMemoryJobStore.known_modify ⟨record, accepted.found⟩ _ _
  cases schedule with
  | returnFirst => exact absurd rfl late
  | returnBetween =>
    have alike := (findingOf_blind deps job prepared interrupted
      ((w.recordApproval (approvalOf env job.jobId request pending)).markRunning job.jobId) w).trans same
    obtain ⟨finding, made, -, effects, last, found, -⟩ := settle_finish_observed done success alike running
    refine ⟨_, finding, by rw [pausedRun, resumed]; rfl, made, ?_⟩
    rw [observe_markCompleted ⟨last, found⟩, effects]
    rfl
  | returnLast =>
    have completed : ∃ record, (((w.recordApproval (approvalOf env job.jobId request pending)).markRunning
        job.jobId).markCompleted job.jobId).jobStore.get job.jobId = some record :=
      InMemoryJobStore.known_modify running _ _
    have alike := (findingOf_blind deps job prepared interrupted
      (((w.recordApproval (approvalOf env job.jobId request pending)).markRunning job.jobId).markCompleted
        job.jobId) w).trans same
    obtain ⟨finding, made, -, effects, -⟩ := settle_finish_observed done success alike completed
    refine ⟨_, finding, by rw [pausedRun, resumed]; rfl, made, ?_⟩
    rw [effects]
    rfl

/-- A paused, approved and resumed job ends like the uninterrupted one exactly when the
    approval comes before `execute` returns and the dict of the interrupted call makes the
    finding that the agent's final result makes. -/
theorem resumed_finishes_iff {sessionId : String} {w w' t : World} {result interrupted : Json} {run : RunResult}
    {request : JobResumeRequest} (record : JobRecord) {pending : PendingHitlAction} {preview : JsonDict}
    (started : prepare deps job sessionId w = .ok prepared w')
    (uninterrupted : deps.arun prepared.call = { outcome := .ok result })
    (succeeds : execute deps job sessionId w = .ok run t) (success : run.success = true)
    (accepted : Accepted env (w'.pauseForHitl pending preview) job.jobId request record pending)
    (approve : request.decision = "approve") (schedule : Schedule) :
    (∃ u, pausedRun env deps job prepared request interrupted (w'.pauseForHitl pending preview) schedule = some u ∧
        observe deps job u = observe deps job t) ↔
      schedule ≠ .returnFirst ∧
        outcome (findingOf deps job prepared interrupted) w' = outcome (findingOf deps job prepared result) w' := by
  have done : settle deps job (finish deps job prepared result) w' = .ok run t := by
    rw [← execute_uninterrupted started uninterrupted, succeeds]
  obtain ⟨finding, made, delivered, finished, -⟩ :=
    settle_finish_observed done success rfl (known_prepared started)
  have ends : final (settle deps job (finish deps job prepared result)) w' = t := by rw [final, done]
  rw [ends] at finished
  have blind : outcome (findingOf deps job prepared interrupted) (w'.pauseForHitl pending preview) =
      outcome (findingOf deps job prepared interrupted) w' := findingOf_blind deps job prepared interrupted _ w'
  constructor
  · intro given
    obtain ⟨u, ran, same⟩ := given
    have out : w'.published ++ publications deps job prepared
        (outcome (findingOf deps job prepared interrupted) (w'.pauseForHitl pending preview)) =
          w'.published ++ publications deps job prepared (.ok (.obj finding)) := by
      calc w'.published ++ publications deps job prepared
            (outcome (findingOf deps job prepared interrupted) (w'.pauseForHitl pending preview))
          = u.published := (published_pausedRun ran).symm
        _ = t.published := congrArg Observed.published same
        _ = _ := congrArg Observed.published finished
    -- what goes out is the same, so the interrupted call's dict made the same finding
    have alike := outcome_of_publications delivered (List.append_cancel_left out)
    rw [blind] at alike
    have sameFinding := alike.trans made.symm
    have late : schedule ≠ .returnFirst := by
      intro equal
      subst equal
      rw [returnFirst_refused done success (blind.trans sameFinding) ⟨record, accepted.found⟩] at ran
      cases ran
    exact ⟨late, sameFinding⟩
  · intro given
    obtain ⟨late, alike⟩ := given
    obtain ⟨u, other, ran, madeAgain, effects⟩ :=
      observe_pausedRun done success (blind.trans alike) accepted approve late
    have sameFinding : other = finding := by
      rw [made] at madeAgain
      cases madeAgain
      rfl
    refine ⟨u, ran, ?_⟩
    rw [effects, finished, sameFinding]
    rfl

end

def sampleResult : Json := .obj [("verdict", .str "benign")]

def samplePrepared : Prepared :=
  { creds := { sandboxId := "job-1" }, sanitized := "", defn := { name := "soc", tools := ["shell"] }
    call :=
      { name := "soc", userInput := "", sessionId := "worker:soc:job-1"
        sandboxTools := some [.gateway "shell" "job-1" "soc" "job-1" "inv-1"], jobId := "job-1", eventId := "evt-1"
        correlationId := "inv-1", investigationId := "inv-1", sandboxId := "job-1" } }

def sampleStarted : World := ({} : World).upsertRunning sampleJob "worker:soc:job-1"

theorem resumed_finishes_iff_sample :
    (∃ u, pausedRun sampleEnv (sampleDeps { outcome := .ok sampleResult }) sampleJob samplePrepared
          { decision := "approve" } sampleResult (sampleStarted.pauseForHitl samplePause.1 samplePause.2) .returnLast =
          some u ∧
        observe (sampleDeps { outcome := .ok sampleResult }) sampleJob u =
          observe (sampleDeps { outcome := .ok sampleResult }) sampleJob
            (final (execute (sampleDeps { outcome := .ok sampleResult }) sampleJob "worker:soc:job-1") {})) ↔
      Schedule.returnLast ≠ .returnFirst ∧
        outcome (findingOf (sampleDeps { outcome := .ok sampleResult }) sampleJob samplePrepared sampleResult)
            sampleStarted =
          outcome (findingOf (sampleDeps { outcome := .ok sampleResult }) sampleJob samplePrepared sampleResult)
            sampleStarted :=
  resumed_finishes_iff { sampleRecord with correlationId := "inv-1", eventId := "evt-1" }
    (show prepare (sampleDeps { outcome := .ok sampleResult }) sampleJob "worker:soc:job-1" {} =
      .ok samplePrepared sampleStarted from rfl)
    rfl rfl rfl ⟨by decide, by decide, by decide, by decide, by decide⟩ rfl .returnLast

/-- The reviewer's approval is refused once `execute` has returned, and in every order it is
    the interrupted call's dict that goes out, not the agent's final result. -/
theorem interrupted_dict_goes_out :
    let deps := sampleDeps { outcome := .ok sampleResult }
    let interrupted : Json := .obj [("raw_response", .str "")]
    let paused := sampleStarted.pauseForHitl samplePause.1 samplePause.2
    let data := fun (w : World) => w.published.map fun publication =>
      JsonDict.getD publication.payload "data" .null
    (pausedRun sampleEnv deps sampleJob samplePrepared { decision := "approve" } interrupted paused
        .returnFirst).isNone = true ∧
      (pausedRun sampleEnv deps sampleJob samplePrepared { decision := "approve" } interrupted paused
        .returnBetween).map data = some [interrupted] ∧
      (pausedRun sampleEnv deps sampleJob samplePrepared { decision := "approve" } interrupted paused
        .returnLast).map data = some [interrupted] ∧
      data (final (execute deps sampleJob "worker:soc:job-1") {}) = [sampleResult] := by
  decide

end CysAgi
