import CysAgi.Workers.SequentialChains
import CysAgi.Workers.TerminalRecorded

namespace CysAgi

open Py RunWorkerJob

def World.Known (w : World) (jobId : String) : Prop := ∃ record, w.jobStore.get jobId = some record

structure Unmarked (job : WorkerJob) (before after : World) : Prop where
  queue : after.queue = before.queue
  dispatched : after.dispatched = before.dispatched
  known : before.Known job.jobId → after.Known job.jobId
  done : after.line.done = before.line.done

structure MarksEnded (job : WorkerJob) (before after : World) : Prop where
  queue : after.queue = before.queue
  dispatched : after.dispatched = before.dispatched
  known : before.Known job.jobId → after.Known job.jobId
  marks : ∀ m ∈ after.line.done, m ∈ before.line.done ∨
    m = job.mark ∧ (before.Known job.jobId → after.Ended job.jobId)

theorem World.done_appendFinding (w : World) (tenantId investigationId : String) (finding : JsonDict) :
    (w.appendFinding tenantId investigationId finding).line.done = w.line.done := by
  ext m
  change m.2.2 ∈ (w.investigations.appendFinding tenantId investigationId finding).completed m.1 m.2.1 ↔ _
  rw [InMemoryInvestigationStateStore.completed_appendFinding]
  exact Iff.rfl

section

variable {deps : WorkerDeps} {job : WorkerJob} {before w : World}

theorem Unmarked.marksEnded (held : Unmarked job before w) : MarksEnded job before w :=
  ⟨held.queue, held.dispatched, held.known, fun m member => .inl (by rwa [← held.done])⟩

theorem ended_of_stored {status : WorkerJobStatus} {jobId : String} (stored : w.stored jobId = some status)
    (terminal : status.Terminal) : w.Ended jobId := by
  obtain ⟨record, found, same⟩ := Option.map_eq_some_iff.mp stored
  exact ⟨record, found, by rwa [same]⟩

theorem MarksEnded.ended {after : World} (held : MarksEnded job before w) (queue : after.queue = w.queue)
    (dispatched : after.dispatched = w.dispatched)
    (marks : ∀ m ∈ after.line.done, m ∈ w.line.done ∨ m = job.mark)
    (ended : w.Known job.jobId → after.Ended job.jobId) : MarksEnded job before after := by
  refine ⟨queue.trans held.queue, dispatched.trans held.dispatched, fun known => ?_, fun m member => ?_⟩
  · obtain ⟨record, found, -⟩ := ended (held.known known)
    exact ⟨record, found⟩
  · have own : m = job.mark → m ∈ before.line.done ∨ m = job.mark ∧ (before.Known job.jobId → after.Ended job.jobId) :=
      fun own => .inr ⟨own, fun known => ended (held.known known)⟩
    rcases marks m member with marked | last
    · rcases held.marks m marked with early | ⟨first, -⟩
      · exact .inl early
      · exact own first
    · exact own last

theorem MarksEnded.completedWorld (held : MarksEnded job before w) :
    MarksEnded job before (completedWorld deps job w) := by
  have marked : (RunWorkerJob.completedWorld deps job w).jobStore = w.jobStore.markCompleted job.jobId := by
    unfold RunWorkerJob.completedWorld
    split <;> rfl
  refine held.ended ?_ ?_ (fun m member => ?_)
    fun known => ended_of_stored (stored_markCompleted known marked) (.inl rfl)
  · unfold RunWorkerJob.completedWorld
    split <;> rfl
  · unfold RunWorkerJob.completedWorld
    split <;> rfl
  · unfold RunWorkerJob.completedWorld at member
    split at member
    · exact (w.done_markPersonaDone job m).mp member
    · exact .inl member

theorem MarksEnded.failedWorld (held : MarksEnded job before w) :
    MarksEnded job before (failedWorld deps job w) := by
  refine held.ended ?_ ?_ (fun m member => ?_)
    fun known => ended_of_stored (stored_markFailed known (jobStore_failedWorld w)) (.inr rfl)
  · unfold RunWorkerJob.failedWorld
    split <;> rfl
  · unfold RunWorkerJob.failedWorld
    split <;> rfl
  · unfold RunWorkerJob.failedWorld at member
    split at member
    · exact ((w.markFailed job.jobId).done_markPersonaDone job m).mp member
    · exact .inl member

theorem Unmarked.finish (held : Unmarked job before w) (prepared : Prepared) (result : Json) :
    MarksEnded job before (final (finish deps job prepared result) w) := by
  have found := @findingOf_preserves deps job prepared (Unmarked job before)
    (fun _ _ _ held => { held with known := fun known => InMemoryJobStore.known_set (held.known known) _ _ })
    result w held
  have publishing : ∀ finding, Preserves (Unmarked job before) (publishFinding deps job prepared finding) :=
    publishFinding_preserves fun _ _ held => { held with }
  have recording : ∀ finding, Preserves (MarksEnded job before) (recordFinding deps job prepared finding) :=
    recordFinding_preserves (fun _ _ held => { held with })
      (fun v tenantId investigationId data held => ⟨held.queue, held.dispatched, held.known, fun m member =>
        held.marks m (by rwa [v.done_appendFinding] at member)⟩)
      (fun _ held => held.completedWorld)
  unfold RunWorkerJob.finish
  rw [final_bind]
  cases outcome (findingOf deps job prepared result) w with
  | error e => exact found.marksEnded
  | ok finding =>
    dsimp only
    rw [final_bind]
    have out := (publishing finding _ found).marksEnded
    cases outcome (publishFinding deps job prepared finding) (final (findingOf deps job prepared result) w) with
    | error e => exact out
    | ok _ => exact recording finding _ out

theorem MarksEnded.settle (body : Effect RunResult) (ended : MarksEnded job before (final body w)) :
    MarksEnded job before (final (settle deps job body) w) :=
  settle_keeps ended (fun _ _ held => { held with }) (fun _ held => held.failedWorld) (fun _ _ held => { held with })
    (fun _ _ held => { held with })

end

def WorkerStep.underWay : WorkerStep → Bool
  | .enqueue _ => false
  | .executeStart .. => false
  | _ => true

namespace WorkerSystem

theorem start_marks {s t : WorkerSystem} {deps : WorkerDeps} {job : WorkerJob} {sessionId : String}
    (taken : s.step (.executeStart deps job sessionId) = some t) :
    MarksEnded job s.world t.world ∧ ∀ e ∈ t.executions, e ∈ s.executions ∨ e.job = job := by
  have started : Preserves (Unmarked job s.world) (prepare deps job sessionId) := prepare_preserves
    fun _ held => { held with known := fun known => InMemoryJobStore.known_set (held.known known) _ _ }
  have kept := started s.world ⟨rfl, rfl, id, rfl⟩
  obtain ⟨-, (⟨prepared, -, rfl⟩ | ⟨e, -, rfl⟩)⟩ := step_executeStart taken
  · refine ⟨kept.marksEnded, fun e member => ?_⟩
    rcases List.mem_append.mp member with member | member
    · exact .inl member
    · rw [List.mem_singleton.mp member]
      exact .inr rfl
  · exact ⟨MarksEnded.settle (throw e) kept.marksEnded, fun _ member => .inl member⟩

theorem underWay_marks {s t : WorkerSystem} {action : WorkerStep} (underWay : action.underWay = true)
    (taken : s.step action = some t) :
    t.world.queue = s.world.queue ∧ t.world.dispatched = s.world.dispatched ∧
      (∀ e ∈ t.executions, e ∈ s.executions) ∧
      ∀ m ∈ t.world.line.done, m ∈ s.world.line.done ∨
        ∃ e ∈ s.executions, m = e.job.mark ∧ (s.world.Known e.job.jobId → t.world.Ended e.job.jobId) := by
  have unchanged : ∀ {v : World}, v.line.done = s.world.line.done → ∀ m ∈ v.line.done,
      m ∈ s.world.line.done ∨
        ∃ e ∈ s.executions, m = e.job.mark ∧ (s.world.Known e.job.jobId → v.Ended e.job.jobId) := by
    intro v same m member
    rw [same] at member
    exact .inl member
  cases action with
  | enqueue job => cases underWay
  | executeStart deps job sessionId => cases underWay
  | pause pending preview =>
    cases taken
    exact ⟨rfl, rfl, fun _ => id, unchanged rfl⟩
  | executeReturn execution outcome =>
    obtain ⟨e, running, rfl⟩ := Option.map_eq_some_iff.mp taken
    have member := List.mem_of_getElem? running
    have ended : MarksEnded e.job s.world
        (final (resultOf outcome >>= RunWorkerJob.finish e.deps e.job e.prepared) s.world) := by
      have start : Unmarked e.job s.world s.world := ⟨rfl, rfl, id, rfl⟩
      rw [final_bind, outcome_resultOf, final_resultOf]
      cases outcome with
      | ok result => exact start.finish e.prepared result
      | error _ => exact start.marksEnded
    have settled : MarksEnded e.job s.world (final (settle e.deps e.job
        (resultOf outcome >>= RunWorkerJob.finish e.deps e.job e.prepared)) s.world) := MarksEnded.settle _ ended
    refine ⟨settled.queue, settled.dispatched, fun other left => List.mem_of_mem_eraseIdx left, fun m marked => ?_⟩
    rcases settled.marks m marked with early | ⟨own, ceased⟩
    · exact .inl early
    · exact .inr ⟨e, member, own, ceased⟩
  | resumeStart env jobId request =>
    rcases step_resumeStart taken with ⟨rfl, -⟩ | ⟨record, pending, -, ⟨-, rfl⟩ | ⟨-, rfl⟩⟩
    · exact ⟨rfl, rfl, fun _ => id, unchanged rfl⟩
    · exact ⟨rfl, rfl, fun _ => id, unchanged rfl⟩
    · exact ⟨rfl, rfl, fun _ => id, unchanged rfl⟩
  | resumeReturn resumption outcome =>
    obtain ⟨jobId, -, rfl⟩ := Option.map_eq_some_iff.mp taken
    cases outcome with
    | ok result => exact ⟨rfl, rfl, fun _ => id, unchanged rfl⟩
    | error e => exact ⟨rfl, rfl, fun _ => id, unchanged rfl⟩

end WorkerSystem

/-- The workers of a queue, with every earlier world of their stores. What `execute` does
    between its call of the runtime and its end is one step: nothing is awaited between the
    persona's mark and the job's status. -/
structure ChainSystem where
  workers : WorkerSystem
  past : List World := []

inductive ChainStep where
  | dequeue (deps : WorkerDeps) (position : Nat)
  | work (action : WorkerStep)

namespace ChainSystem

def follow (s : ChainSystem) (workers : WorkerSystem) : ChainSystem :=
  { workers, past := s.past ++ [s.workers.world] }

def step (s : ChainSystem) : ChainStep → Option ChainSystem
  | .dequeue deps position =>
    (s.workers.world.queue[position]?).bind fun job =>
      let taken := s.workers.world.dequeued (s.workers.world.queue.eraseIdx position)
      if taken.DependencyReady job then
        (WorkerSystem.step { s.workers with world := taken.dispatch job } (.executeStart deps job job.sessionId)).map
          s.follow
      else some (s.follow { s.workers with world := taken.aenqueue job })
  | .work action => if action.underWay then (s.workers.step action).map s.follow else none

def HasEnded (s : ChainSystem) (jobId : String) : Prop := ∃ w ∈ s.past ++ [s.workers.world], w.Ended jobId

def Ordered (jobs : List WorkerJob) (s : ChainSystem) : Prop :=
  ∀ (k : Nat) previous job, jobs[k]? = some previous → jobs[k + 1]? = some job →
    job ∈ s.workers.world.dispatched → s.HasEnded previous.jobId

theorem hasEnded_follow {s : ChainSystem} {workers : WorkerSystem} {jobId : String} :
    (s.follow workers).HasEnded jobId ↔ s.HasEnded jobId ∨ workers.world.Ended jobId := by
  unfold HasEnded follow
  simp only [List.mem_append, List.mem_singleton]
  constructor
  · intro given
    obtain ⟨w, (past | rfl), ended⟩ := given
    · exact .inl ⟨w, past, ended⟩
    · exact .inr ended
  · intro either
    rcases either with ⟨w, past, ended⟩ | ended
    · exact ⟨w, .inl past, ended⟩
    · exact ⟨workers.world, .inr rfl, ended⟩

end ChainSystem

/-- The chain's jobs have just been put, under fresh ids, in the queue of the workers. -/
structure ChainQueued (routing : Routing) (personas : List (String × String)) (before : WorkerSystem) : Prop where
  sequential : routing.sequential = true
  ids : ((routing.jobs personas).map WorkerJob.jobId).Nodup
  fresh : ∀ job ∈ routing.jobs personas, job.jobId ∉ before.enqueued.map WorkerJob.jobId
  listed : ∀ job ∈ before.world.queue ++ before.world.dispatched, job ∈ before.enqueued
  executing : ∀ e ∈ before.executions, e.job ∈ before.enqueued ∧ e.deps.hasInvestigationStore = true

theorem ChainQueued.apart {routing : Routing} {personas : List (String × String)} {before : WorkerSystem}
    (queued : ChainQueued routing personas before) {job other : WorkerJob} (inChain : job ∈ routing.jobs personas)
    (listed : other ∈ before.enqueued) : job.jobId ≠ other.jobId := by
  intro same
  exact queued.fresh job inChain (List.mem_map.mpr ⟨other, listed, same.symm⟩)

namespace ChainSystem

def initial (routing : Routing) (personas : List (String × String)) (before : WorkerSystem) : ChainSystem :=
  { workers := { before with
      world := final (enqueueFromRouting routing personas) before.world
      enqueued := before.enqueued ++ routing.jobs personas } }

def marksAtStart (before : WorkerSystem) : Set PersonaMark :=
  {m | m ∈ before.world.line.done ∨ ∃ e ∈ before.executions, e.job.mark = m}

/-- The persona of each job that another one of the chain waits for is named, and is completed
    by that job alone: it is not completed at the start, no job under way and no earlier job of
    the chain has it, nor has any queued job that can run once these have ended. -/
def Distinguished (jobs : List WorkerJob) (before : WorkerSystem) : Prop :=
  ∀ (k : Nat) job, jobs[k]? = some job → k + 1 < jobs.length →
    job.persona ≠ "" ∧
      ¬ Deferral.Reached dependencyRules {other | other ∈ before.world.queue}
        (marksAtStart before ∪ {m | ∃ other ∈ jobs.take k, other.mark = m}) job.mark

/-- What every run keeps: the jobs started are those of the queue, and a mark is there from the
    start or has been left by one of them, which has ended if it is the chain's. -/
structure Sound (jobs : List WorkerJob) (before : WorkerSystem) (started : List WorkerJob) (s : ChainSystem) :
    Prop where
  dispatched : s.workers.world.dispatched = before.world.dispatched ++ started
  origin : ∀ job ∈ s.workers.world.queue ++ started, job ∈ jobs ∨ job ∈ before.world.queue
  executing : ∀ e ∈ s.workers.executions, e ∈ before.executions ∨ e.job ∈ started
  known : ∀ job ∈ jobs, s.workers.world.Known job.jobId
  marked : ∀ m ∈ s.workers.world.line.done,
    m ∈ marksAtStart before ∨ ∃ job ∈ started, job.mark = m ∧ (job ∈ jobs → s.HasEnded job.jobId)
  linked : Deferral.LinkedBy dependencyRules (fun job => job ∈ jobs → s.HasEnded job.jobId) (marksAtStart before)
    started

section

variable {jobs started : List WorkerJob} {before : WorkerSystem} {s t : ChainSystem}

theorem Sound.marked_follow (sound : Sound jobs before started s) (workers : WorkerSystem)
    {longer : List WorkerJob} (grown : ∀ job ∈ started, job ∈ longer)
    (marks : ∀ m ∈ workers.world.line.done, m ∈ s.workers.world.line.done ∨ m ∈ marksAtStart before ∨
      ∃ job ∈ longer, m = job.mark ∧ (s.workers.world.Known job.jobId → workers.world.Ended job.jobId)) :
    ∀ m ∈ workers.world.line.done, m ∈ marksAtStart before ∨
      ∃ job ∈ longer, job.mark = m ∧ (job ∈ jobs → (s.follow workers).HasEnded job.jobId) := by
  intro m member
  rcases marks m member with known | old | ⟨job, place, rfl, ended⟩
  · rcases sound.marked m known with old | ⟨job, place, left, ended⟩
    · exact .inl old
    · exact .inr ⟨job, grown job place, left, fun inChain => hasEnded_follow.mpr (.inl (ended inChain))⟩
  · exact .inl old
  · exact .inr ⟨job, place, rfl, fun inChain => hasEnded_follow.mpr (.inr (ended (sound.known job inChain)))⟩

theorem Sound.linked_follow (sound : Sound jobs before started s) (workers : WorkerSystem) :
    Deferral.LinkedBy dependencyRules (fun job => job ∈ jobs → (s.follow workers).HasEnded job.jobId)
      (marksAtStart before) started :=
  sound.linked.mono fun _ ended inChain => hasEnded_follow.mpr (.inl (ended inChain))

theorem Sound.work (sound : Sound jobs before started s) {action : WorkerStep} {workers : WorkerSystem}
    (underWay : action.underWay = true) (taken : s.workers.step action = some workers) :
    Sound jobs before started (s.follow workers) := by
  obtain ⟨queue, dispatched, executions, marks⟩ := WorkerSystem.underWay_marks underWay taken
  refine ⟨dispatched.trans sound.dispatched, fun job member => ?_, fun e member => ?_, fun job member => ?_, ?_,
    sound.linked_follow workers⟩
  · exact sound.origin job (by rwa [← queue])
  · exact sound.executing e (executions e member)
  · exact WorkerSystem.known_step taken (sound.known job member)
  · apply sound.marked_follow workers fun _ => id
    intro m member
    rcases marks m member with known | ⟨e, running, left, ended⟩
    · exact .inl known
    · rcases sound.executing e running with old | place
      · exact .inr (.inl (.inr ⟨e, old, left.symm⟩))
      · exact .inr (.inr ⟨e.job, place, left, ended⟩)

theorem Sound.requeue (sound : Sound jobs before started s) {position : Nat} {job : WorkerJob}
    (found : s.workers.world.queue[position]? = some job) :
    Sound jobs before started (s.follow { s.workers with
      world := (s.workers.world.dequeued (s.workers.world.queue.eraseIdx position)).aenqueue job }) := by
  refine ⟨sound.dispatched, fun other member => ?_, sound.executing, sound.known, ?_, sound.linked_follow _⟩
  · apply sound.origin other
    rcases List.mem_append.mp member with waiting | ran
    · apply List.mem_append_left
      rcases List.mem_append.mp waiting with behind | last
      · exact List.mem_of_mem_eraseIdx behind
      · rw [List.mem_singleton.mp last]
        exact List.mem_of_getElem? found
    · exact List.mem_append_right _ ran
  · exact sound.marked_follow _ (fun _ => id) fun m member => .inl member

theorem Sound.dispatch (sound : Sound jobs before started s) {deps : WorkerDeps} {position : Nat} {job : WorkerJob}
    {workers : WorkerSystem} (found : s.workers.world.queue[position]? = some job)
    (ready : (s.workers.world.dequeued (s.workers.world.queue.eraseIdx position)).DependencyReady job)
    (taken : WorkerSystem.step { s.workers with
        world := (s.workers.world.dequeued (s.workers.world.queue.eraseIdx position)).dispatch job }
      (.executeStart deps job job.sessionId) = some workers) :
    Sound jobs before (started ++ [job]) (s.follow workers) := by
  obtain ⟨marks, executions⟩ := WorkerSystem.start_marks taken
  have dispatched : workers.world.dispatched = s.workers.world.dispatched ++ [job] := marks.dispatched
  refine ⟨?_, fun other member => ?_, fun e member => ?_, fun other member => ?_, ?_, ?_⟩
  · rw [show (s.follow workers).workers.world.dispatched = _ from dispatched, sound.dispatched, List.append_assoc]
  · apply sound.origin other
    rw [show (s.follow workers).workers.world.queue = _ from marks.queue] at member
    rcases List.mem_append.mp member with waiting | ran
    · exact List.mem_append_left _ (List.mem_of_mem_eraseIdx waiting)
    · rcases List.mem_append.mp ran with ran | last
      · exact List.mem_append_right _ ran
      · rw [List.mem_singleton.mp last]
        exact List.mem_append_left _ (List.mem_of_getElem? found)
  · rcases executions e member with running | own
    · exact (sound.executing e running).imp_right (List.mem_append_left _)
    · rw [own]
      exact .inr (List.mem_append_right _ (List.mem_singleton_self job))
  · exact WorkerSystem.known_step taken (sound.known other member)
  · apply sound.marked_follow workers fun _ => List.mem_append_left _
    intro m member
    rcases marks.marks m member with known | ⟨left, ended⟩
    · exact .inl known
    · exact .inr (.inr ⟨job, List.mem_append_right _ (List.mem_singleton_self job), left, ended⟩)
  · apply (sound.linked_follow workers).append
    intro m needed
    have set : m ∈ s.workers.world.line.done := (World.ready_line_iff _ job).mpr ready m needed
    rcases sound.marked m set with old | ⟨other, place, left, ended⟩
    · exact .inl old
    · exact .inr ⟨other, place, left, fun inChain => hasEnded_follow.mpr (.inl (ended inChain))⟩

theorem Sound.step (sound : Sound jobs before started s) {action : ChainStep} (taken : s.step action = some t) :
    ∃ longer, Sound jobs before longer t := by
  cases action with
  | dequeue deps position =>
    obtain ⟨job, found, taken⟩ := Option.bind_eq_some_iff.mp taken
    dsimp only at taken
    split at taken
    · rename_i ready
      obtain ⟨workers, began, rfl⟩ := Option.map_eq_some_iff.mp taken
      exact ⟨_, sound.dispatch found ready began⟩
    · cases taken
      exact ⟨_, sound.requeue found⟩
  | work action =>
    simp only [ChainSystem.step] at taken
    split at taken
    · rename_i underWay
      obtain ⟨workers, worked, rfl⟩ := Option.map_eq_some_iff.mp taken
      exact ⟨_, sound.work underWay worked⟩
    · cases taken

end

section

variable {routing : Routing} {personas : List (String × String)} {before : WorkerSystem}

theorem foldl_enqueue_of_ne {jobs : List WorkerJob} {jobId : String} (others : ∀ job ∈ jobs, job.jobId ≠ jobId)
    (w : World) : (jobs.foldl World.enqueue w).stored jobId = w.stored jobId := by
  induction jobs generalizing w with
  | nil => rfl
  | cons job rest ih =>
    rw [List.foldl_cons, ih fun other member => others other (List.mem_cons_of_mem _ member)]
    unfold World.stored World.enqueue
    rw [InMemoryJobStore.get_upsertPending_of_ne _ _ _ _ _ _ (Ne.symm (others job List.mem_cons_self))]

theorem foldl_enqueue_pending {jobs : List WorkerJob} (ids : (jobs.map WorkerJob.jobId).Nodup) (w : World) :
    ∀ job ∈ jobs, (jobs.foldl World.enqueue w).stored job.jobId = some .pending := by
  induction jobs generalizing w with
  | nil => simp
  | cons first rest ih =>
    obtain ⟨fresh, others⟩ := List.nodup_cons.mp ids
    intro job member
    rcases List.mem_cons.mp member with rfl | member
    · rw [List.foldl_cons, foldl_enqueue_of_ne]
      · simp [World.stored, World.enqueue]
      · intro other later same
        exact fresh (List.mem_map.mpr ⟨other, later, same⟩)
    · exact ih others (w.enqueue first) job member

theorem done_initial (routing : Routing) (personas : List (String × String)) (before : WorkerSystem) :
    (initial routing personas before).workers.world.line.done = before.world.line.done := by
  obtain ⟨-, investigations, -⟩ := foldl_enqueue (routing.jobs personas) before.world
  change ((routing.jobs personas).foldl World.enqueue before.world).line.done = _
  unfold World.line World.completed
  rw [investigations]

theorem sound_initial (queued : ChainQueued routing personas before) :
    Sound (routing.jobs personas) before [] (initial routing personas before) := by
  obtain ⟨queue, -, dispatched⟩ := foldl_enqueue (routing.jobs personas) before.world
  refine ⟨dispatched.trans (List.append_nil _).symm, fun job member => ?_, fun e member => .inl member,
    fun job member => ?_, fun m member => .inl (.inl ?_), ?_⟩
  · rw [List.append_nil, show (initial routing personas before).workers.world.queue = _ from queue] at member
    exact (List.mem_append.mp member).symm
  · have pending := foldl_enqueue_pending queued.ids before.world job member
    obtain ⟨record, found, -⟩ := Option.map_eq_some_iff.mp pending
    exact ⟨record, found⟩
  · rwa [done_initial] at member
  · intro front job back split
    simp at split

theorem sound_reached (queued : ChainQueued routing personas before) {actions : List ChainStep} {s : ChainSystem}
    (reached : Transition.run step (initial routing personas before) actions = some s) :
    ∃ started, Sound (routing.jobs personas) before started s := by
  apply Transition.invariant_run (P := fun s => ∃ started, Sound (routing.jobs personas) before started s) _ _ reached
  · intro s action t given taken
    obtain ⟨started, sound⟩ := given
    exact sound.step taken
  · exact ⟨[], sound_initial queued⟩

theorem split_next {jobs : List WorkerJob} {k : Nat} {previous job : WorkerJob} (place : jobs[k]? = some previous)
    (next : jobs[k + 1]? = some job) : jobs = jobs.take k ++ previous :: job :: jobs.drop (k + 2) := by
  obtain ⟨bound, here⟩ := List.getElem?_eq_some_iff.mp place
  obtain ⟨bound', there⟩ := List.getElem?_eq_some_iff.mp next
  rw [← there, ← here, ← List.drop_eq_getElem_cons bound', ← List.drop_eq_getElem_cons bound, List.take_append_drop]

theorem ordered_of_distinguished (queued : ChainQueued routing personas before)
    (distinguished : Distinguished (routing.jobs personas) before) {started : List WorkerJob} {s : ChainSystem}
    (sound : Sound (routing.jobs personas) before started s) : Ordered (routing.jobs personas) s := by
  intro k previous job place next ran
  have inChain := List.mem_of_getElem? next
  have began : job ∈ started := by
    rw [sound.dispatched] at ran
    rcases List.mem_append.mp ran with old | new
    · exact absurd rfl (queued.apart inChain (queued.listed job (List.mem_append_right _ old)))
    · exact new
  obtain ⟨front, back, split⟩ := List.append_of_mem began
  have chained : ∀ (j : Nat) first second, (routing.jobs personas)[j]? = some first →
      (routing.jobs personas)[j + 1]? = some second → second.dependency = some first.mark := by
    intro j first second here there
    have bound := (List.getElem?_eq_some_iff.mp there).1
    exact Routing.dependency_next queued.sequential (split_next here there) (distinguished j first here bound).1
  obtain ⟨-, ended⟩ := sound.linked.ended_before
    (fun other member => sound.origin other (List.mem_append_right _ member)) chained
    (fun j other here bound => (distinguished j other here bound).2) place next split
  exact ended (List.mem_of_getElem? place)

end

end ChainSystem

end CysAgi
