import CysAgi.Base.Deferral
import CysAgi.Hitl.PauseSurvival
import CysAgi.Workers.Orchestrator
import CysAgi.Workers.PersonaMarked

namespace CysAgi

open Py

abbrev PersonaMark := String × String × String

namespace WorkerJob

def mark (job : WorkerJob) : PersonaMark := (job.tenantId, job.investigationId, job.persona)

def dependency (job : WorkerJob) : Option PersonaMark :=
  if job.dependsOnPersona = "" then none else some (job.tenantId, job.investigationId, job.dependsOnPersona)

end WorkerJob

def dependencyRules : Deferral.Rules WorkerJob PersonaMark := { mark := WorkerJob.mark, needs := WorkerJob.dependency }

namespace World

def line (w : World) : Deferral.Line WorkerJob PersonaMark :=
  { done := {m | m.2.2 ∈ w.completed m.1 m.2.1}, queue := w.queue, ran := w.dispatched }

theorem ready_line_iff (w : World) (job : WorkerJob) :
    Deferral.Ready dependencyRules w.line job ↔ w.DependencyReady job := by
  unfold Deferral.Ready DependencyReady dependencyRules WorkerJob.dependency
  by_cases free : job.dependsOnPersona = ""
  · simp [free]
  · simp [free, line]

end World

structure OnlyMarks (job : WorkerJob) (before after : World) : Prop where
  queue : after.queue = before.queue
  dispatched : after.dispatched = before.dispatched
  kept : ∀ m ∈ before.line.done, m ∈ after.line.done
  only : ∀ m ∈ after.line.done, m ∈ before.line.done ∨ m = job.mark

theorem World.done_markPersonaDone (w : World) (job : WorkerJob) (m : PersonaMark) :
    m ∈ (w.markPersonaDone job).line.done ↔ m ∈ w.line.done ∨ m = job.mark := by
  obtain ⟨tenantId, investigationId, persona⟩ := m
  simp only [World.line, Set.mem_ofPred_eq, WorkerJob.mark, Prod.mk.injEq]
  exact InMemoryInvestigationStateStore.mem_completed_markPersonaDone ..

theorem OnlyMarks.markPersonaDone {job : WorkerJob} {before after : World} (held : OnlyMarks job before after) :
    OnlyMarks job before (after.markPersonaDone job) := by
  refine ⟨held.queue, held.dispatched, fun m known => ?_, fun m known => ?_⟩
  · exact (after.done_markPersonaDone job m).mpr (.inl (held.kept m known))
  · rcases (after.done_markPersonaDone job m).mp known with known | own
    · exact held.only m known
    · exact .inr own

theorem onlyMarks_invariant (deps : WorkerDeps) (job : WorkerJob) (before : World) :
    RunWorkerJob.WorkerInvariant deps job (OnlyMarks job before) where
  paused _ _ _ held := ⟨held.queue, held.dispatched, held.kept, held.only⟩
  unrelated v w same held := by
    have marks : w.line.done = v.line.done := by simp only [World.line, same.completed]
    refine ⟨same.queue.trans held.queue, same.dispatched.trans held.dispatched, ?_, ?_⟩
    · rw [marks]
      exact held.kept
    · rw [marks]
      exact held.only
  completed w held := by
    unfold RunWorkerJob.completedWorld
    split
    · exact { held.markPersonaDone with }
    · exact { held with }
  failed w held := by
    unfold RunWorkerJob.failedWorld
    have failing : OnlyMarks job before (w.markFailed job.jobId) := { held with }
    split
    · exact failing.markPersonaDone
    · exact failing

/-- `RunWorkerJob.execute` marks the persona of its job on every outcome. -/
def AlwaysMarks (deps : WorkerDeps) : Prop :=
  ∀ job w, RunWorkerJob.Marked job (final (RunWorkerJob.execute deps job job.sessionId) w)

theorem line_execute {deps : WorkerDeps} (marks : AlwaysMarks deps) (job : WorkerJob) (w : World) :
    (final (RunWorkerJob.execute deps job job.sessionId) w).line =
      { done := insert job.mark w.line.done, queue := w.queue, ran := w.dispatched } := by
  have ended : OnlyMarks job w (final (RunWorkerJob.execute deps job job.sessionId) w) :=
    (onlyMarks_invariant deps job w).execute (fun _ held => { held with }) w ⟨rfl, rfl, fun _ => id, fun _ => .inl⟩
  have own : job.mark ∈ (final (RunWorkerJob.execute deps job job.sessionId) w).line.done := marks job w
  have done : (final (RunWorkerJob.execute deps job job.sessionId) w).line.done = insert job.mark w.line.done := by
    ext m
    rw [Set.mem_insert_iff]
    constructor
    · intro known
      exact (ended.only m known).symm
    · intro either
      rcases either with rfl | known
      · exact own
      · exact ended.kept m known
  rw [← done, ← ended.queue, ← ended.dispatched]
  rfl

theorem line_processNext {o : WorkerOrchestrator} (marks : AlwaysMarks o.deps) (w : World) :
    (final o.processNext w).line = Deferral.step dependencyRules w.line := by
  rw [WorkerOrchestrator.final_processNext]
  cases queue : w.queue with
  | nil => exact (Deferral.step_empty queue).symm
  | cons job rest =>
    dsimp only
    have first : w.line.queue = job :: rest := queue
    by_cases ready : (w.dequeued rest).DependencyReady job
    · rw [Deferral.step_ready first ((w.ready_line_iff job).mpr ready), WorkerOrchestrator.final_runJob_ready ready]
      exact line_execute marks job (o.started job (w.dequeued rest))
    · rw [Deferral.step_waiting first ((w.ready_line_iff job).not.mpr ready),
        WorkerOrchestrator.final_runJob_waiting ready]
      rfl

namespace Routing

variable {routing : Routing}

def investigation (routing : Routing) : String × String :=
  (routing.tenantId, orElse routing.correlationId routing.eventId)

theorem mem_jobsFrom {previous : String} {personas : List (String × String)} {job : WorkerJob}
    (member : job ∈ routing.jobsFrom previous personas) :
    job.mark = (routing.investigation.1, routing.investigation.2, job.persona) := by
  induction personas generalizing previous with
  | nil => cases member
  | cons entry rest ih =>
    simp only [jobsFrom, List.mem_cons] at member
    rcases member with rfl | member
    · simp only [WorkerJob.mark, WorkerJob.investigationId, investigation, orElse]
      split <;> simp_all
    · exact ih member

theorem map_persona_jobsFrom (routing : Routing) (previous : String) (personas : List (String × String)) :
    (routing.jobsFrom previous personas).map WorkerJob.persona = personas.map Prod.fst := by
  induction personas generalizing previous with
  | nil => rfl
  | cons entry rest ih => simp only [jobsFrom, List.map_cons, ih]

theorem dependsOn_jobsFrom (sequential : routing.sequential = true) {previous : String}
    {personas : List (String × String)} {before after : List WorkerJob} {job : WorkerJob}
    (split : routing.jobsFrom previous personas = before ++ job :: after) :
    job.dependsOnPersona = (before.getLast?.map WorkerJob.persona).getD previous := by
  induction personas generalizing previous before with
  | nil => simp [jobsFrom] at split
  | cons entry rest ih =>
    simp only [jobsFrom, sequential, if_true] at split
    cases before with
    | nil =>
      obtain ⟨rfl, -⟩ := List.cons.inj split
      rfl
    | cons first before =>
      obtain ⟨rfl, later⟩ := List.cons.inj split
      rw [ih later, List.getLast?_cons]
      cases before.getLast? <;> rfl

theorem dependsOn_next (sequential : routing.sequential = true) {personas : List (String × String)}
    {before after : List WorkerJob} {previous job : WorkerJob}
    (split : routing.jobs personas = before ++ previous :: job :: after) : job.dependsOnPersona = previous.persona := by
  have longer : routing.jobsFrom "" personas = (before ++ [previous]) ++ job :: after := by
    rw [List.append_assoc]
    exact split
  rw [dependsOn_jobsFrom sequential longer]
  simp

theorem dependency_next (sequential : routing.sequential = true) {personas : List (String × String)}
    {before after : List WorkerJob} {previous job : WorkerJob}
    (split : routing.jobs personas = before ++ previous :: job :: after) (named : previous.persona ≠ "") :
    job.dependency = some previous.mark := by
  have mine : job.mark = _ := mem_jobsFrom (show job ∈ routing.jobs personas by simp [split])
  have its : previous.mark = _ := mem_jobsFrom (show previous ∈ routing.jobs personas by simp [split])
  unfold WorkerJob.mark at mine its
  unfold WorkerJob.dependency WorkerJob.mark
  rw [dependsOn_next sequential split, if_neg named, its]
  simp only [Prod.mk.injEq] at mine
  rw [mine.1, mine.2.1]

end Routing

/-- A sequential routing to pairwise distinct personas. -/
structure Chain where
  routing : Routing
  personas : List (String × String)
  sequential : routing.sequential = true
  distinct : (personas.map Prod.fst).Nodup

namespace Chain

def jobs (chain : Chain) : List WorkerJob := chain.routing.jobs chain.personas

def Precedes (chain : Chain) (previous job : WorkerJob) : Prop :=
  ∃ before after, chain.jobs = before ++ previous :: job :: after

theorem mark_of_mem {chain : Chain} {job : WorkerJob} (member : job ∈ chain.jobs) :
    job.mark = (chain.routing.investigation.1, chain.routing.investigation.2, job.persona) :=
  Routing.mem_jobsFrom member

theorem dependency_of_precedes {chain : Chain} {previous job : WorkerJob} (precedes : chain.Precedes previous job)
    (named : previous.persona ≠ "") : job.dependency = some previous.mark := by
  obtain ⟨before, after, split⟩ := precedes
  exact Routing.dependency_next chain.sequential split named

theorem linked_jobs (chain : Chain) (done : Set PersonaMark) : Deferral.Linked dependencyRules done chain.jobs := by
  intro before job after split m needed
  refine .inr ?_
  have waits := Routing.dependsOn_jobsFrom chain.sequential split
  cases last : before.getLast? with
  | none =>
    have free : job.dependsOnPersona = "" := by rw [waits, last]; rfl
    simp [dependencyRules, WorkerJob.dependency, free] at needed
  | some previous =>
    obtain ⟨front, rfl⟩ := List.getLast?_eq_some_iff.mp last
    have named : previous.persona ≠ "" := by
      intro empty
      have free : job.dependsOnPersona = "" := by rw [waits, last]; exact empty
      simp [dependencyRules, WorkerJob.dependency, free] at needed
    have precedes : chain.Precedes previous job := ⟨front, after, by simp [split]⟩
    have same : m = previous.mark := by
      have stored : job.dependency = some m := needed
      rw [dependency_of_precedes precedes named] at stored
      exact (Option.some.inj stored).symm
    rw [same]
    exact List.mem_map.mpr ⟨previous, by simp, rfl⟩

theorem nodup_marks (chain : Chain) : (chain.jobs.map WorkerJob.mark).Nodup := by
  have same : chain.jobs.map WorkerJob.mark = (chain.personas.map Prod.fst).map fun persona =>
      (chain.routing.investigation.1, chain.routing.investigation.2, persona) := by
    rw [← Routing.map_persona_jobsFrom chain.routing "" chain.personas, List.map_map]
    exact List.map_congr_left fun job member => mark_of_mem member
  rw [same]
  exact chain.distinct.map fun a b equal => by simpa using equal

end Chain

/-- The jobs of chains with an investigation each wait in one queue, in any order, and no
    persona of these investigations is done. -/
structure ChainsQueued (chains : List Chain) (w : World) : Prop where
  queued : w.queue.Perm (chains.flatMap Chain.jobs)
  own : (chains.map fun chain => chain.routing.investigation).Nodup
  fresh : ∀ chain ∈ chains, w.completed chain.routing.investigation.1 chain.routing.investigation.2 = []
  unstarted : w.dispatched = []

namespace ChainsQueued

variable {chains : List Chain} {w : World}

theorem nodup_marks (own : (chains.map fun chain => chain.routing.investigation).Nodup) :
    ((chains.flatMap Chain.jobs).map WorkerJob.mark).Nodup := by
  rw [List.map_flatMap, List.nodup_flatMap]
  refine ⟨fun chain _ => chain.nodup_marks, ?_⟩
  rw [List.Nodup, List.pairwise_map] at own
  refine own.imp fun {first second} apart m left right => apart ?_
  obtain ⟨job, member, rfl⟩ := List.mem_map.mp left
  obtain ⟨other, present, same⟩ := List.mem_map.mp right
  rw [Chain.mark_of_mem member, Chain.mark_of_mem present] at same
  simp only [Prod.mk.injEq] at same
  exact Prod.ext same.1.symm same.2.1.symm

theorem enqueueFromRouting {chains : List Chain} {w : World} (queued : ChainsQueued chains w)
    (chain : Chain)
    (own : chain.routing.investigation ∉ chains.map fun chain => chain.routing.investigation)
    (fresh : w.completed chain.routing.investigation.1 chain.routing.investigation.2 = []) :
    ChainsQueued (chains ++ [chain]) (final (enqueueFromRouting chain.routing chain.personas) w) := by
  obtain ⟨queue, investigations, dispatched⟩ := foldl_enqueue chain.jobs w
  have ends : final (CysAgi.enqueueFromRouting chain.routing chain.personas) w = chain.jobs.foldl World.enqueue w := rfl
  rw [ends]
  refine ⟨?_, ?_, fun other known => ?_, dispatched.trans queued.unstarted⟩
  · rw [queue]
    simpa using queued.queued.append_right chain.jobs
  · rw [List.map_append, List.map_singleton]
    rw [← List.concat_eq_append]
    exact queued.own.concat own
  · unfold World.completed
    rw [investigations]
    rcases List.mem_append.mp known with known | known
    · exact queued.fresh other known
    · rw [List.mem_singleton.mp known]
      exact fresh

theorem sound (queued : ChainsQueued chains w) :
    Deferral.Sound dependencyRules w.line.done (chains.flatMap Chain.jobs) w.line := by
  have none_ran : w.line.ran = [] := queued.unstarted
  refine ⟨?_, fun m => ?_, ?_⟩
  · rw [none_ran]
    exact queued.queued
  · simp [none_ran]
  · rw [none_ran]
    intro before job after split
    simp at split

theorem mem_before (queued : ChainsQueued chains w) {s : Deferral.Line WorkerJob PersonaMark}
    (sound : Deferral.Sound dependencyRules w.line.done (chains.flatMap Chain.jobs) s)
    {before after : List WorkerJob} {previous job : WorkerJob} (split : s.ran = before ++ job :: after)
    {chain : Chain} (known : chain ∈ chains) (precedes : chain.Precedes previous job)
    (named : previous.persona ≠ "") : previous ∈ before := by
  have waits : previous.mark ∈ job.dependency := Chain.dependency_of_precedes precedes named
  obtain ⟨front, back, chained⟩ := precedes
  have place : previous ∈ chain.jobs := by simp [chained]
  rcases sound.linked before job after split previous.mark waits with early | marked
  · have done : previous.persona ∈ w.completed previous.tenantId previous.investigationId := early
    have mark := Chain.mark_of_mem place
    simp only [WorkerJob.mark, Prod.mk.injEq] at mark
    rw [mark.1, mark.2.1, queued.fresh chain known] at done
    cases done
  · obtain ⟨other, earlier, same⟩ := List.mem_map.mp marked
    have ran : other ∈ s.ran := by
      rw [split]
      exact List.mem_append_left _ earlier
    have listed : previous ∈ chains.flatMap Chain.jobs := List.mem_flatMap.mpr ⟨chain, known, place⟩
    have its : other ∈ chains.flatMap Chain.jobs := sound.kept.subset (List.mem_append_left _ ran)
    -- one mark, one job: the marks of all the chains' jobs are distinct
    rw [← List.inj_on_of_nodup_map (nodup_marks queued.own) its listed same]
    exact earlier

end ChainsQueued

namespace WorkerOrchestrator

def afterCalls (o : WorkerOrchestrator) (calls : Nat) (w : World) : World :=
  (fun v => final o.processNext v)^[calls] w

theorem line_afterCalls {o : WorkerOrchestrator} (marks : AlwaysMarks o.deps) (calls : Nat) (w : World) :
    (o.afterCalls calls w).line = (Deferral.step dependencyRules)^[calls] w.line :=
  (Function.Semiconj.iterate_right (line_processNext marks) calls) w

/-- Chains in one queue: no job is ever lost or added, after n(n+1)/2 calls the queue is
    empty and each job has been executed once, and at any time each executed job comes after
    its predecessor, unless the predecessor has no persona to wait for. -/
theorem chains_run_once {o : WorkerOrchestrator} (marks : AlwaysMarks o.deps) {chains : List Chain} {w : World}
    (queued : ChainsQueued chains w) :
    (∀ calls, ((o.afterCalls calls w).dispatched ++ (o.afterCalls calls w).queue).Perm w.queue) ∧
      (o.afterCalls (w.queue.length * (w.queue.length + 1) / 2) w).queue = [] ∧
      (∀ job ∈ w.queue,
        (o.afterCalls (w.queue.length * (w.queue.length + 1) / 2) w).dispatched.count job = 1) ∧
      ∀ calls before job after, (o.afterCalls calls w).dispatched = before ++ job :: after →
        ∀ chain ∈ chains, ∀ previous, chain.Precedes previous job → previous.persona ≠ "" → previous ∈ before := by
  have sound : ∀ calls, Deferral.Sound dependencyRules w.line.done (chains.flatMap Chain.jobs)
      (o.afterCalls calls w).line := by
    intro calls
    rw [line_afterCalls marks]
    exact queued.sound.iterate calls
  have kept : ∀ calls, ((o.afterCalls calls w).dispatched ++ (o.afterCalls calls w).queue).Perm w.queue :=
    fun calls => (sound calls).kept.trans queued.queued.symm
  have linked : Deferral.Linked dependencyRules w.line.done (chains.flatMap Chain.jobs) :=
    Deferral.linked_flatMap fun chain _ => chain.linked_jobs _
  have empty : (o.afterCalls (w.queue.length * (w.queue.length + 1) / 2) w).queue = [] := by
    change (World.line _).queue = []
    rw [line_afterCalls marks]
    exact Deferral.drains (fun _ held => held.step) (fun _ held => held.exists_ready linked) queued.sound
  have marksApart := ChainsQueued.nodup_marks queued.own
  have counted : ∀ job ∈ w.queue,
      (o.afterCalls (w.queue.length * (w.queue.length + 1) / 2) w).dispatched.count job = 1 := by
    intro job member
    have all := kept (w.queue.length * (w.queue.length + 1) / 2)
    rw [empty, List.append_nil] at all
    rw [all.count_eq]
    exact List.count_eq_one_of_mem (queued.queued.nodup_iff.mpr marksApart.of_map) member
  exact ⟨kept, empty, counted, fun calls _ _ _ split _ known _ precedes named =>
    queued.mem_before (sound calls) split known precedes named⟩

def sampleOrchestrator : WorkerOrchestrator :=
  { deps := sampleDeps { outcome := .ok (.obj [("response", .str "done")]) } }

theorem sample_uncancelled : RunWorkerJob.Uncancelled sampleOrchestrator.deps := by
  constructor
  case queryInvestigation => exact fun query wired => nomatch wired
  case appendPendingFinding => exact fun append wired => nomatch wired
  all_goals
    intros
    rename_i failed
    cases failed

def sampleChains : List Chain :=
  [{ routing := { eventId := "evt-1", sequential := true }, personas := [("soc", "00"), ("intel", "01")]
     sequential := rfl, distinct := by decide },
    { routing := { eventId := "evt-2", sequential := true }, personas := [("soc", "02"), ("dfir", "03")]
      sequential := rfl, distinct := by decide }]

def sampleQueue : World := { queue := (sampleChains.flatMap Chain.jobs).reverse }

theorem chains_run_once_sample :
    (∀ calls, ((sampleOrchestrator.afterCalls calls sampleQueue).dispatched ++
        (sampleOrchestrator.afterCalls calls sampleQueue).queue).Perm sampleQueue.queue) ∧
      (sampleOrchestrator.afterCalls 10 sampleQueue).queue = [] ∧
      (∀ job ∈ sampleQueue.queue, (sampleOrchestrator.afterCalls 10 sampleQueue).dispatched.count job = 1) ∧
      ∀ calls before job after, (sampleOrchestrator.afterCalls calls sampleQueue).dispatched = before ++ job :: after →
        ∀ chain ∈ sampleChains, ∀ previous, chain.Precedes previous job → previous.persona ≠ "" →
          previous ∈ before :=
  chains_run_once (fun job w => RunWorkerJob.execute_marks sample_uncancelled rfl job job.sessionId w)
    ⟨List.reverse_perm _, by decide, by decide, rfl⟩

def namelessChain : Chain :=
  { routing := { eventId := "evt-1", sequential := true }, personas := [("", "00"), ("soc", "01")]
    sequential := rfl, distinct := by decide }

def namelessQueue : World := { queue := namelessChain.jobs.reverse }

/-- The second job of that chain waits for nothing, so it runs before the first when it is
    ahead in the queue. -/
theorem nameless_predecessor_overtaken :
    ChainsQueued [namelessChain] namelessQueue ∧
      ∃ first second, namelessChain.Precedes first second ∧
        (sampleOrchestrator.afterCalls 2 namelessQueue).dispatched = [second, first] := by
  refine ⟨⟨List.reverse_perm _, by decide, by decide, rfl⟩, _, _, ⟨[], [], rfl⟩, ?_⟩
  decide

end WorkerOrchestrator

end CysAgi
