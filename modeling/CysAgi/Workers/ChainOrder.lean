import CysAgi.Workers.ChainSystem

namespace CysAgi

open Py RunWorkerJob

namespace ChainSystem

section

variable {routing : Routing} {personas : List (String × String)} {before : WorkerSystem}

def brokenDeps : WorkerDeps :=
  { sampleDeps { outcome := .ok (.obj []) } with acreate := fun _ _ => .error (.exception "sandbox unavailable") }

def broken (job : WorkerJob) (w : World) : World :=
  (((w.recordAgentFailure job.persona).markFailed job.jobId).markPersonaDone job).destroySandbox job.jobId

theorem step_broken {s : WorkerSystem} {job : WorkerJob} (member : job ∈ s.enqueued) (w : World)
    (sessionId : String) : WorkerSystem.step { s with world := w } (.executeStart brokenDeps job sessionId) =
      some { s with world := broken job w } := by
  simp only [WorkerSystem.step]
  rw [if_pos ⟨member, rfl⟩]
  rfl

theorem stored_broken_of_ne {job : WorkerJob} {jobId : String} (other : jobId ≠ job.jobId) (w : World) :
    (broken job w).stored jobId = w.stored jobId := by
  change (InMemoryJobStore.get (w.jobStore.markFailed job.jobId) jobId).map _ = _
  rw [InMemoryJobStore.get_markFailed_of_ne _ _ other]
  rfl

theorem done_broken (job : WorkerJob) (w : World) (m : PersonaMark) :
    m ∈ (broken job w).line.done ↔ m ∈ w.line.done ∨ m = job.mark :=
  World.done_markPersonaDone ((w.recordAgentFailure job.persona).markFailed job.jobId) job m

def lost (e : Execution) (w : World) : World :=
  final (settle e.deps e.job (resultOf (.error (.exception "")) >>= RunWorkerJob.finish e.deps e.job e.prepared)) w

theorem onlyMarks_lost (e : Execution) (w : World) : OnlyMarks e.job w (lost e w) := by
  have inv := onlyMarks_invariant e.deps e.job w
  have part := Preserves.bind (Preserves.resultOf (.error (.exception ""))) (inv.finish e.prepared)
  exact inv.settle part w ⟨rfl, rfl, fun _ => id, fun _ => .inl⟩

theorem marked_lost {e : Execution} (wired : e.deps.hasInvestigationStore = true) (w : World) :
    e.job.mark ∈ (lost e w).line.done := by
  apply settle_marks wired e.job
  · intro run t returned
    cases returned
  · intro error t raised
    cases raised
    trivial

theorem stored_lost_of_ne {e : Execution} {jobId : String} (other : jobId ≠ e.job.jobId) (w : World) :
    (lost e w).stored jobId = w.stored jobId := by
  apply settle_keeps (P := fun v => v.stored jobId = w.stored jobId) rfl (fun _ _ same => same) _
    (fun _ _ same => same) (fun _ _ same => same)
  intro v same
  rw [World.stored, jobStore_failedWorld, InMemoryJobStore.get_markFailed_of_ne _ _ other]
  exact same

structure Holding (jobs : List WorkerJob) (before : WorkerSystem) (kept : List WorkerJob) (s : ChainSystem) :
    Prop where
  listed : ∀ job ∈ before.world.queue ++ jobs, job ∈ s.workers.enqueued
  others : ∀ job ∈ before.world.queue, job ∈ s.workers.world.queue ∨ job.mark ∈ s.workers.world.line.done
  waiting : ∀ job ∈ kept, job ∈ s.workers.world.queue
  pending : ∀ v ∈ s.past ++ [s.workers.world], ∀ job ∈ kept, v.stored job.jobId = some .pending

namespace Holding

variable {jobs kept : List WorkerJob} {s : ChainSystem}

theorem fewer {fewer : List WorkerJob} (holding : Holding jobs before kept s) (sub : ∀ job ∈ fewer, job ∈ kept) :
    Holding jobs before fewer s :=
  ⟨holding.listed, holding.others, fun job member => holding.waiting job (sub job member),
    fun v place job member => holding.pending v place job (sub job member)⟩

theorem unended (holding : Holding jobs before kept s) {job : WorkerJob} (member : job ∈ kept) :
    ¬ s.HasEnded job.jobId := by
  intro given
  obtain ⟨v, place, record, found, terminal⟩ := given
  have pending := holding.pending v place job member
  rw [World.stored, found] at pending
  rw [Option.some.inj pending] at terminal
  exact absurd terminal (by decide)

theorem take (holding : Holding jobs before kept s) {job : WorkerJob} (member : job ∈ s.workers.world.queue)
    (listed : job ∈ before.world.queue ++ jobs) (ready : s.workers.world.DependencyReady job)
    (apart : ∀ other ∈ kept, other.jobId ≠ job.jobId) :
    ∃ t, Transition.Leads step s t ∧ Holding jobs before kept t ∧
      (∀ m, m ∈ t.workers.world.line.done ↔ m ∈ s.workers.world.line.done ∨ m = job.mark) ∧
      job ∈ t.workers.world.dispatched ∧ t.workers.executions = s.workers.executions := by
  obtain ⟨position, found⟩ := List.mem_iff_getElem?.mp member
  have taken : s.step (.dequeue brokenDeps position) = some (s.follow { s.workers with
      world := broken job ((s.workers.world.dequeued (s.workers.world.queue.eraseIdx position)).dispatch job) }) := by
    simp only [ChainSystem.step, found, Option.bind_some]
    have free : (s.workers.world.dequeued (s.workers.world.queue.eraseIdx position)).DependencyReady job := ready
    rw [if_pos free, step_broken (holding.listed job listed)]
    rfl
  have left : ∀ other ∈ s.workers.world.queue, other ≠ job → other ∈ s.workers.world.queue.eraseIdx position := by
    intro other place differs
    obtain ⟨i, here⟩ := List.mem_iff_getElem?.mp place
    apply List.mem_eraseIdx_iff_getElem?.mpr
    refine ⟨i, fun same => ?_, here⟩
    rw [same, found] at here
    exact differs (Option.some.inj here).symm
  have marked := done_broken job
    ((s.workers.world.dequeued (s.workers.world.queue.eraseIdx position)).dispatch job)
  refine ⟨_, .single taken,
    ⟨holding.listed, fun other place => ?_, fun other place => ?_, fun v place other keep => ?_⟩, marked,
    List.mem_append_right _ (List.mem_singleton_self job), rfl⟩
  · by_cases own : other = job
    · rw [own]
      exact .inr ((marked _).mpr (.inr rfl))
    · rcases holding.others other place with waits | set
      · exact .inl (left other waits own)
      · exact .inr ((marked _).mpr (.inl set))
  · apply left other (holding.waiting other place)
    intro same
    exact apart other place (congrArg WorkerJob.jobId same)
  · rcases List.mem_append.mp place with past | last
    · exact holding.pending v past other keep
    · rw [List.mem_singleton.mp last]
      apply (stored_broken_of_ne (apart other keep) _).trans
      exact holding.pending s.workers.world (List.mem_append_right _ (List.mem_singleton_self _)) other keep

theorem lose (holding : Holding jobs before kept s) {e : Execution} {rest : List Execution}
    (running : s.workers.executions = e :: rest) (wired : e.deps.hasInvestigationStore = true)
    (apart : ∀ other ∈ kept, other.jobId ≠ e.job.jobId) :
    ∃ t, Transition.Leads step s t ∧ Holding jobs before kept t ∧
      (∀ m, m ∈ s.workers.world.line.done ∨ m = e.job.mark → m ∈ t.workers.world.line.done) ∧
      t.workers.executions = rest := by
  have taken : s.step (.work (.executeReturn 0 (.error (.exception "")))) =
      some (s.follow { s.workers with world := lost e s.workers.world, executions := rest }) := by
    simp only [ChainSystem.step, WorkerStep.underWay, if_true, WorkerSystem.step, running, List.getElem?_cons_zero,
      Option.map_some, List.eraseIdx_cons_zero]
    rfl
  have only := onlyMarks_lost e s.workers.world
  have grown : ∀ m, m ∈ s.workers.world.line.done ∨ m = e.job.mark → m ∈ (lost e s.workers.world).line.done := by
    intro m either
    rcases either with old | rfl
    · exact only.kept m old
    · exact marked_lost wired s.workers.world
  refine ⟨_, .single taken,
    ⟨holding.listed, fun other place => ?_, fun other place => ?_, fun v place other keep => ?_⟩, grown, rfl⟩
  · change other ∈ (lost e s.workers.world).queue ∨ _
    rw [only.queue]
    exact (holding.others other place).imp_right fun set => grown _ (.inl set)
  · change other ∈ (lost e s.workers.world).queue
    rw [only.queue]
    exact holding.waiting other place
  · rcases List.mem_append.mp place with past | last
    · exact holding.pending v past other keep
    · rw [List.mem_singleton.mp last]
      apply (stored_lost_of_ne (apart other keep) s.workers.world).trans
      exact holding.pending s.workers.world (List.mem_append_right _ (List.mem_singleton_self _)) other keep

theorem lose_all (holding : Holding jobs before kept s)
    (wired : ∀ e ∈ s.workers.executions, e.deps.hasInvestigationStore = true)
    (apart : ∀ e ∈ s.workers.executions, ∀ other ∈ kept, other.jobId ≠ e.job.jobId) :
    ∃ t, Transition.Leads step s t ∧ Holding jobs before kept t ∧
      ∀ m, m ∈ s.workers.world.line.done ∨ (∃ e ∈ s.workers.executions, e.job.mark = m) →
        m ∈ t.workers.world.line.done := by
  generalize running : s.workers.executions = executions at wired apart ⊢
  induction executions generalizing s with
  | nil =>
    refine ⟨s, .refl s, holding, ?_⟩
    intro m either
    rcases either with old | ⟨e, member, -⟩
    · exact old
    · cases member
  | cons e rest ih =>
    obtain ⟨u, first, held, marked, remaining⟩ :=
      holding.lose running (wired e List.mem_cons_self) (apart e List.mem_cons_self)
    obtain ⟨t, later, kept, all⟩ := ih held remaining
      (fun other member => wired other (List.mem_cons_of_mem _ member))
      fun other member => apart other (List.mem_cons_of_mem _ member)
    refine ⟨t, first.trans later, kept, ?_⟩
    intro m either
    rcases either with old | ⟨other, member, left⟩
    · exact all m (.inl (marked m (.inl old)))
    · rcases List.mem_cons.mp member with rfl | member
      · exact all m (.inl (marked m (.inr left.symm)))
      · exact all m (.inr ⟨other, member, left⟩)

theorem reaches (holding : Holding jobs before kept s) {known : Set PersonaMark}
    (set : ∀ m ∈ known, m ∈ s.workers.world.line.done)
    (apart : ∀ job ∈ before.world.queue, ∀ other ∈ kept, other.jobId ≠ job.jobId) {m : PersonaMark}
    (reached : Deferral.Reached dependencyRules {job | job ∈ before.world.queue} known m) :
    ∃ t, Transition.Leads step s t ∧ Holding jobs before kept t ∧
      (∀ m ∈ s.workers.world.line.done, m ∈ t.workers.world.line.done) ∧ m ∈ t.workers.world.line.done := by
  induction reached generalizing s with
  | start early => exact ⟨s, .refl s, holding, fun _ => id, set _ early⟩
  | @run job listed _ ih =>
    -- what the job waits for is set first, then the job runs unless it has before
    obtain ⟨u, first, held, grown, ready⟩ : ∃ u, Transition.Leads step s u ∧ Holding jobs before kept u ∧
        (∀ m ∈ s.workers.world.line.done, m ∈ u.workers.world.line.done) ∧ u.workers.world.DependencyReady job := by
      cases needs : job.dependency with
      | none =>
        refine ⟨s, .refl s, holding, fun _ => id, (World.ready_line_iff _ job).mp ?_⟩
        intro m needed
        exact absurd (needs.symm.trans needed) nofun
      | some m =>
        obtain ⟨u, first, held, grown, done⟩ := ih m needs holding set
        refine ⟨u, first, held, grown, (World.ready_line_iff _ job).mp ?_⟩
        intro other needed
        have same : m = other := Option.some.inj (needs.symm.trans needed)
        rwa [← same]
    rcases held.others job listed with waits | marked
    · obtain ⟨t, later, kept, marks, -⟩ := held.take waits (List.mem_append_left _ listed) ready (apart job listed)
      exact ⟨t, first.trans later, kept, fun m old => (marks m).mpr (.inl (grown m old)), (marks _).mpr (.inr rfl)⟩
    · exact ⟨u, first, held, grown, marked⟩

end Holding

theorem ready_first {job : WorkerJob} (sequential : routing.sequential = true)
    (place : (routing.jobs personas)[0]? = some job) (v : World) : v.DependencyReady job := by
  obtain ⟨rest, split⟩ := List.head?_eq_some_iff.mp (List.head?_eq_getElem?.trans place)
  exact .inl (@Routing.dependsOn_jobsFrom routing sequential "" personas [] rest job split)

theorem ready_next {k : Nat} {previous job : WorkerJob} {v : World} (sequential : routing.sequential = true)
    (place : (routing.jobs personas)[k]? = some previous) (next : (routing.jobs personas)[k + 1]? = some job)
    (done : previous.persona = "" ∨ previous.mark ∈ v.line.done) : v.DependencyReady job := by
  by_cases named : previous.persona = ""
  · exact .inl ((Routing.dependsOn_next sequential (split_next place next)).trans named)
  · apply (World.ready_line_iff v job).mp
    intro m needed
    have waits := Routing.dependency_next sequential (split_next place next) named
    rw [← Option.some.inj (waits.symm.trans needed)]
    exact done.resolve_left named

theorem holding_initial (queued : ChainQueued routing personas before) :
    Holding (routing.jobs personas) before (routing.jobs personas) (initial routing personas before) := by
  obtain ⟨queue, -, -⟩ := foldl_enqueue (routing.jobs personas) before.world
  have waiting : (initial routing personas before).workers.world.queue = before.world.queue ++ routing.jobs personas :=
    queue
  refine ⟨fun job member => ?_, fun job member => .inl ?_, fun job member => ?_, fun v member job inChain => ?_⟩
  · rcases List.mem_append.mp member with old | new
    · exact List.mem_append_left _ (queued.listed job (List.mem_append_left _ old))
    · exact List.mem_append_right _ new
  · rw [waiting]
    exact List.mem_append_left _ member
  · rw [waiting]
    exact List.mem_append_right _ member
  · rw [List.mem_singleton.mp member]
    exact foldl_enqueue_pending queued.ids before.world job inChain

theorem advances (queued : ChainQueued routing personas before) (k : Nat)
    (bound : k ≤ (routing.jobs personas).length) :
    ∃ s, Transition.Leads step (initial routing personas before) s ∧
      Holding (routing.jobs personas) before ((routing.jobs personas).drop k) s ∧
      s.workers.executions = before.executions ∧
      ∀ m, m ∈ before.world.line.done ∨ (∃ other ∈ (routing.jobs personas).take k, other.mark = m) →
        m ∈ s.workers.world.line.done := by
  induction k with
  | zero =>
    refine ⟨_, .refl _, holding_initial queued, rfl, ?_⟩
    intro m either
    rcases either with old | ⟨other, member, -⟩
    · rwa [done_initial]
    · cases member
  | succ k ih =>
    obtain ⟨s, led, holding, running, marked⟩ := ih (by omega)
    obtain ⟨job, place⟩ : ∃ job, (routing.jobs personas)[k]? = some job := ⟨_, List.getElem?_eq_getElem (by omega)⟩
    have ready : s.workers.world.DependencyReady job := by
      cases k with
      | zero => exact ready_first queued.sequential place _
      | succ j =>
        obtain ⟨previous, here⟩ : ∃ previous, (routing.jobs personas)[j]? = some previous :=
          ⟨_, List.getElem?_eq_getElem (by omega)⟩
        apply ready_next queued.sequential here place
        refine .inr (marked _ (.inr ⟨previous, ?_, rfl⟩))
        exact List.mem_of_getElem? ((List.getElem?_take_of_lt (Nat.lt_succ_self j)).trans here)
    have split : (routing.jobs personas).drop k = job :: (routing.jobs personas).drop (k + 1) := by
      obtain ⟨inside, here⟩ := List.getElem?_eq_some_iff.mp place
      rw [← here]
      exact List.drop_eq_getElem_cons inside
    have apart : ∀ other ∈ (routing.jobs personas).drop (k + 1), other.jobId ≠ job.jobId := by
      have ids := queued.ids.sublist ((List.drop_sublist k (routing.jobs personas)).map WorkerJob.jobId)
      rw [split, List.map_cons, List.nodup_cons] at ids
      intro other member same
      exact ids.1 (List.mem_map.mpr ⟨other, member, same⟩)
    have head : job ∈ (routing.jobs personas).drop k := by
      rw [split]
      exact List.mem_cons_self
    have fewer : Holding (routing.jobs personas) before ((routing.jobs personas).drop (k + 1)) s := by
      apply holding.fewer
      intro other member
      rw [split]
      exact List.mem_cons_of_mem _ member
    obtain ⟨t, later, held, marks, -, same⟩ := fewer.take (holding.waiting job head)
      (List.mem_append_right _ (List.mem_of_getElem? place)) ready apart
    refine ⟨t, led.trans later, held, same.trans running, ?_⟩
    intro m either
    rcases either with old | ⟨other, member, left⟩
    · exact (marks m).mpr (.inl (marked m (.inl old)))
    · rw [List.take_add_one, place] at member
      rcases List.mem_append.mp member with earlier | own
      · exact (marks m).mpr (.inl (marked m (.inr ⟨other, earlier, left⟩)))
      · have last : other = job := by simpa using own
        rw [last] at left
        exact (marks m).mpr (.inr left.symm)

theorem overtaken (queued : ChainQueued routing personas before)
    (undistinguished : ¬ Distinguished (routing.jobs personas) before) :
    ∃ actions s, Transition.run step (initial routing personas before) actions = some s ∧
      ¬ Ordered (routing.jobs personas) s := by
  unfold Distinguished at undistinguished
  push Not at undistinguished
  obtain ⟨k, previous, place, bound, early⟩ := undistinguished
  obtain ⟨job, next⟩ : ∃ job, (routing.jobs personas)[k + 1]? = some job := ⟨_, List.getElem?_eq_getElem bound⟩
  have inChain : ∀ {other}, other ∈ (routing.jobs personas).drop k → other ∈ routing.jobs personas :=
    fun member => List.mem_of_mem_drop member
  have at_drop : ∀ {i : Nat} {other}, (routing.jobs personas)[k + i]? = some other →
      other ∈ (routing.jobs personas).drop k := fun here => List.mem_of_getElem? (List.getElem?_drop.trans here)
  obtain ⟨s, first, holding, running, marked⟩ := advances queued k (by omega)
  obtain ⟨u, second, held, all⟩ := holding.lose_all
    (fun e member => (queued.executing e (running ▸ member)).2)
    fun e member other inside => queued.apart (inChain inside) (queued.executing e (running ▸ member)).1
  have ready : ∃ t, Transition.Leads step u t ∧
      Holding (routing.jobs personas) before ((routing.jobs personas).drop k) t ∧
      t.workers.world.DependencyReady job := by
    by_cases named : previous.persona = ""
    · exact ⟨u, .refl u, held, ready_next queued.sequential place next (.inl named)⟩
    · have set : ∀ m ∈ marksAtStart before ∪ {m | ∃ other ∈ (routing.jobs personas).take k, other.mark = m},
          m ∈ u.workers.world.line.done := by
        intro m either
        rcases either with (old | ⟨e, member, left⟩) | own
        · exact all m (.inl (marked m (.inl old)))
        · exact all m (.inr ⟨e, by rwa [running], left⟩)
        · exact all m (.inl (marked m (.inr own)))
      obtain ⟨t, third, kept, -, done⟩ := held.reaches set (fun other member another inside =>
        queued.apart (inChain inside) (queued.listed other (List.mem_append_left _ member))) (early named)
      exact ⟨t, third, kept, ready_next queued.sequential place next (.inr done)⟩
  obtain ⟨t, third, kept, free⟩ := ready
  have only : Holding (routing.jobs personas) before [previous] t := by
    apply kept.fewer
    intro other member
    rw [List.mem_singleton.mp member]
    exact at_drop (i := 0) place
  obtain ⟨v, fourth, alone, -, dispatched, -⟩ := only.take (kept.waiting job (at_drop next))
    (List.mem_append_right _ (List.mem_of_getElem? next)) free fun other member same => by
      rw [List.mem_singleton.mp member] at same
      have inside : k < ((routing.jobs personas).map WorkerJob.jobId).length := by
        rw [List.length_map]
        omega
      have equal : k = k + 1 := by
        apply (List.getElem?_inj inside queued.ids).mp
        rw [List.getElem?_map, List.getElem?_map, place, next, Option.map_some, Option.map_some, same]
      omega
  obtain ⟨actions, ran⟩ := ((first.trans second).trans third).trans fourth
  refine ⟨actions, v, ran, fun ordered => ?_⟩
  exact alone.unended (List.mem_singleton_self previous) (ordered k previous job place next dispatched)

/-- The jobs of a chain start in order in every run exactly when each persona that one of them
    waits for is named, and is completed by the job before it alone. -/
theorem ordered_iff (queued : ChainQueued routing personas before) :
    (∀ actions s, Transition.run step (initial routing personas before) actions = some s →
        Ordered (routing.jobs personas) s) ↔
      Distinguished (routing.jobs personas) before := by
  constructor
  · intro ordered
    by_contra undistinguished
    obtain ⟨actions, s, ran, disordered⟩ := overtaken queued undistinguished
    exact disordered (ordered actions s ran)
  · intro distinguished actions s ran
    obtain ⟨started, sound⟩ := sound_reached queued ran
    exact ordered_of_distinguished queued distinguished sound

theorem distinguished_alone
    (others : ∀ job ∈ before.world.queue, (job.tenantId, job.investigationId) ≠ routing.investigation)
    (idle : ∀ e ∈ before.executions, (e.job.tenantId, e.job.investigationId) ≠ routing.investigation) :
    Distinguished (routing.jobs personas) before ↔
      ∀ (k : Nat) job, (routing.jobs personas)[k]? = some job → k + 1 < (routing.jobs personas).length →
        job.persona ≠ "" ∧ job.persona ∉ before.world.completed routing.investigation.1 routing.investigation.2 ∧
          ∀ other ∈ (routing.jobs personas).take k, other.persona ≠ job.persona := by
  unfold Distinguished
  refine forall_congr' fun k => forall_congr' fun job => forall_congr' fun place => forall_congr' fun _ =>
    and_congr Iff.rfl ?_
  have own : job.mark = _ := Routing.mem_jobsFrom (List.mem_of_getElem? place)
  have elsewhere : ∀ {other : WorkerJob}, (other.tenantId, other.investigationId) ≠ routing.investigation →
      other.mark ≠ job.mark := by
    intro other foreign same
    rw [own] at same
    simp only [WorkerJob.mark, Prod.mk.injEq] at same
    exact foreign (Prod.ext same.1 same.2.1)
  constructor
  · intro unreached
    constructor
    · intro completed
      apply unreached (.start (.inl (.inl _)))
      rw [own]
      exact completed
    · intro other member same
      apply unreached (.start (.inr ⟨other, member, _⟩))
      rw [own, show other.mark = _ from Routing.mem_jobsFrom (List.mem_of_mem_take member), same]
  · intro given reached
    obtain ⟨uncompleted, unlike⟩ := given
    generalize marked : job.mark = m at reached
    cases reached with
    | start early =>
      subst marked
      rcases early with (old | ⟨e, member, left⟩) | ⟨other, member, left⟩
      · rw [own] at old
        exact uncompleted old
      · exact elsewhere (idle e member) left
      · apply unlike other member
        rw [own, show other.mark = _ from Routing.mem_jobsFrom (List.mem_of_mem_take member)] at left
        simpa using left
    | run listed _ => exact elsewhere (others _ listed) marked.symm

end

def chainRouting : Routing := { eventId := "evt-1", sequential := true }

def plainPersonas : List (String × String) := [("soc", "00"), ("intel", "01"), ("soc", "02")]

theorem ordered_iff_plain :
    (∀ actions s, Transition.run step (initial chainRouting plainPersonas {}) actions = some s →
        Ordered (chainRouting.jobs plainPersonas) s) ↔
      Distinguished (chainRouting.jobs plainPersonas) {} :=
  ordered_iff ⟨rfl, by decide, fun _ _ => List.not_mem_nil, fun _ member => absurd member List.not_mem_nil,
    fun _ member => absurd member List.not_mem_nil⟩

def repeatedPersonas : List (String × String) := [("soc", "00"), ("intel", "01"), ("soc", "02"), ("dfir", "03")]

def repeatedRun : List ChainStep :=
  [.dequeue WorkerOrchestrator.sampleOrchestrator.deps 0,
    .work (.executeReturn 0 (.ok (.obj [("response", .str "done")]))),
    .dequeue WorkerOrchestrator.sampleOrchestrator.deps 2]

/-- The last job waits for a persona that the first one has left, and starts before the third. -/
theorem repeated_persona_overtaken :
    ChainQueued chainRouting repeatedPersonas {} ∧
      (∃ s, Transition.run step (initial chainRouting repeatedPersonas {}) repeatedRun = some s ∧
        s.workers.world.dispatched.map WorkerJob.jobId = ["soc-evt-1-00", "dfir-evt-1-03"] ∧
        ¬ s.HasEnded "soc-evt-1-02") ∧
      ¬ ∀ actions s, Transition.run step (initial chainRouting repeatedPersonas {}) actions = some s →
        Ordered (chainRouting.jobs repeatedPersonas) s := by
  have facts : ((Transition.run step (initial chainRouting repeatedPersonas {}) repeatedRun).map fun s =>
      (s.workers.world.dispatched.map WorkerJob.jobId,
        decide (s.workers.world.dispatched.getLast? = (chainRouting.jobs repeatedPersonas)[3]?),
        (s.past ++ [s.workers.world]).all fun v => decide (v.stored "soc-evt-1-02" = some .pending))) =
      some (["soc-evt-1-00", "dfir-evt-1-03"], true, true) := by
    decide +kernel
  obtain ⟨s, ran, same⟩ := Option.map_eq_some_iff.mp facts
  simp only [Prod.mk.injEq, decide_eq_true_eq, List.all_eq_true] at same
  obtain ⟨dispatched, last, pending⟩ := same
  have unended : ¬ s.HasEnded "soc-evt-1-02" := by
    intro given
    obtain ⟨v, member, record, found, terminal⟩ := given
    have status := pending v member
    rw [World.stored, found] at status
    rw [Option.some.inj status] at terminal
    exact absurd terminal (by decide)
  refine ⟨⟨rfl, by decide, fun _ _ => List.not_mem_nil, fun _ member => absurd member List.not_mem_nil,
      fun _ member => absurd member List.not_mem_nil⟩,
    ⟨s, ran, dispatched, unended⟩, fun ordered => ?_⟩
  apply unended
  exact ordered _ s ran 2 _ _ rfl rfl (List.mem_of_getLast? last)

end ChainSystem

end CysAgi
