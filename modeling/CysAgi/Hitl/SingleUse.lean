import Mathlib.Data.List.Induction
import CysAgi.Base.Transition
import CysAgi.Hitl.ApprovalBinding

namespace CysAgi

open Py

def latestPause (log : List PendingHitlAction) (jobId : String) : Option Nat :=
  log.zipIdx.foldl (fun latest entry => if entry.1.jobId = jobId then some entry.2 else latest) none

@[simp] theorem latestPause_append (log : List PendingHitlAction) (pending : PendingHitlAction)
    (jobId : String) : latestPause (log ++ [pending]) jobId =
      if pending.jobId = jobId then some log.length else latestPause log jobId := by
  simp [latestPause, List.zipIdx_append]

theorem latestPause_spec {log : List PendingHitlAction} {jobId : String} {i : Nat}
    (latest : latestPause log jobId = some i) : ∃ pending, log[i]? = some pending ∧ pending.jobId = jobId := by
  induction log using List.reverseRecOn with
  | nil => simp [latestPause] at latest
  | append_singleton log pending ih =>
    rw [latestPause_append] at latest
    split at latest
    · rename_i same
      cases latest
      exact ⟨pending, by simp, same⟩
    · obtain ⟨earlier, held, same⟩ := ih latest
      have bound : i < log.length := (List.getElem?_eq_some_iff.mp held).1
      exact ⟨earlier, by rw [List.getElem?_append_left bound, held], same⟩

inductive StoreWrite where
  | upsertPending (jobId persona correlationId tenantId eventId : String)
  | upsertRunning (jobId sessionId persona correlationId tenantId eventId : String)
  | markCompleted (jobId : String)
  | markFailed (jobId : String)

def StoreWrite.apply (store : InMemoryJobStore) : StoreWrite → InMemoryJobStore
  | .upsertPending jobId persona correlationId tenantId eventId =>
    store.upsertPending jobId persona correlationId tenantId eventId
  | .upsertRunning jobId sessionId persona correlationId tenantId eventId =>
    store.upsertRunning jobId sessionId persona correlationId tenantId eventId
  | .markCompleted jobId => store.markCompleted jobId
  | .markFailed jobId => store.markFailed jobId

/-- An accepted resume: the pause it answers and the pending action it acts on. -/
structure Answer where
  jobId : String
  request : JobResumeRequest
  pause : Option Nat
  action : Option PendingHitlAction

/-- The shared stores, the resume calls that await the runtime and, as history, every
    accepted resume. -/
structure ResumeSystem where
  world : World := {}
  awaiting : List String := []
  answers : List Answer := []

inductive ResumeStep where
  | pause (pending : PendingHitlAction) (preview : JsonDict)
  | write (write : StoreWrite)
  | resume (env : ResumeEnv) (jobId : String) (request : JobResumeRequest)
  | returned (call : Nat)
  | raised (call : Nat)

namespace ResumeSystem

def answering (s : ResumeSystem) (jobId : String) (request : JobResumeRequest) : Answer :=
  { jobId, request, pause := latestPause s.world.pauses jobId
    action := (s.world.jobStore.get jobId).bind JobRecord.pendingHitl }

/-- A resume runs without a break up to its call of the runtime, and again from the call's
    return to its end. -/
def step (s : ResumeSystem) : ResumeStep → Option ResumeSystem
  | .pause pending preview => some { s with world := s.world.pauseForHitl pending preview }
  | .write write => some { s with world := { s.world with jobStore := write.apply s.world.jobStore } }
  | .resume env jobId request =>
    match beginResume env jobId request s.world with
    | .error _ w => some { s with world := w }
    | .ok .rejected w => some { s with world := w, answers := s.answers ++ [s.answering jobId request] }
    | .ok (.resumed _ _) w =>
      some { world := w, awaiting := s.awaiting ++ [jobId], answers := s.answers ++ [s.answering jobId request] }
  | .returned call =>
    (s.awaiting[call]?).map fun jobId =>
      { s with world := s.world.markCompleted jobId, awaiting := s.awaiting.eraseIdx call }
  | .raised call => (s.awaiting[call]?).map fun _ => { s with awaiting := s.awaiting.eraseIdx call }

/-- A job that can be answered awaits its last pause, and that one has no answer yet. -/
structure Open (s : ResumeSystem) : Prop where
  unanswered : ∀ jobId record pending, s.world.jobStore.get jobId = some record → record.Awaiting pending →
    ∃ i, latestPause s.world.pauses jobId = some i ∧ s.world.pauses[i]? = some pending ∧
      some i ∉ s.answers.map Answer.pause
  logged : ∀ answer ∈ s.answers, ∃ i action, answer.pause = some i ∧ answer.action = some action ∧
    s.world.pauses[i]? = some action
  once : (s.answers.map Answer.pause).Nodup

theorem open_initial : Open {} := by
  refine ⟨fun jobId record pending found => ?_, by simp, by simp⟩
  cases found

theorem Open.of_fewer {s t : ResumeSystem} (inv : s.Open) (pauses : t.world.pauses = s.world.pauses)
    (answers : t.answers = s.answers)
    (fewer : ∀ jobId record pending, t.world.jobStore.get jobId = some record → record.Awaiting pending →
      s.world.jobStore.get jobId = some record) : t.Open := by
  refine ⟨fun jobId record pending found awaiting => ?_, ?_, ?_⟩
  · rw [pauses, answers]
    exact inv.unanswered jobId record pending (fewer jobId record pending found awaiting) awaiting
  · rw [pauses, answers]
    exact inv.logged
  · rw [answers]
    exact inv.once

theorem fewer_of_settled {store after : InMemoryJobStore} {jobId : String}
    (frame : ∀ other, other ≠ jobId → after.get other = store.get other)
    (settled : ∀ record, after.get jobId = some record → record.status ≠ .awaitingApproval)
    (other : String) (record : JobRecord) (pending : PendingHitlAction)
    (found : after.get other = some record) (awaiting : record.Awaiting pending) :
    store.get other = some record := by
  by_cases same : other = jobId
  · subst same
    exact absurd awaiting.1 (settled record found)
  · rw [← frame other same, found]

theorem write_fewer (store : InMemoryJobStore) (write : StoreWrite) (jobId : String) (record : JobRecord)
    (pending : PendingHitlAction) (found : (write.apply store).get jobId = some record)
    (awaiting : record.Awaiting pending) : store.get jobId = some record := by
  cases write with
  | upsertPending target persona correlationId tenantId eventId =>
    refine fewer_of_settled (fun other ne => InMemoryJobStore.get_upsertPending_of_ne _ _ _ _ _ _ ne)
      (fun record held => ?_) jobId record pending found awaiting
    rw [InMemoryJobStore.get_upsertPending_self] at held
    cases held
    exact nofun
  | upsertRunning target sessionId persona correlationId tenantId eventId =>
    refine fewer_of_settled (fun other ne => InMemoryJobStore.get_upsertRunning_of_ne _ _ _ _ _ _ _ ne)
      (fun record held => ?_) jobId record pending found awaiting
    obtain ⟨written, stored, running, -⟩ := InMemoryJobStore.get_upsertRunning_self store target sessionId
      persona correlationId tenantId eventId
    rw [stored] at held
    cases held
    simp [running]
  | markCompleted target =>
    refine fewer_of_settled (fun other ne => InMemoryJobStore.get_markCompleted_of_ne _ _ ne)
      (fun record held => ?_) jobId record pending found awaiting
    simp [InMemoryJobStore.status_of_markCompleted held]
  | markFailed target =>
    refine fewer_of_settled (fun other ne => InMemoryJobStore.get_markFailed_of_ne _ _ ne)
      (fun record held => ?_) jobId record pending found awaiting
    simp [InMemoryJobStore.status_of_markFailed held]

theorem Open.pause {s : ResumeSystem} (inv : s.Open) (pending : PendingHitlAction) (preview : JsonDict) :
    Open { s with world := s.world.pauseForHitl pending preview } := by
  have kept : ∀ {i : Nat} {action}, s.world.pauses[i]? = some action →
      (s.world.pauses ++ [pending])[i]? = some action := by
    intro i action held
    rw [List.getElem?_append_left (List.getElem?_eq_some_iff.mp held).1, held]
  refine ⟨fun jobId record action found awaiting => ?_, fun answer member => ?_, inv.once⟩
  · by_cases same : jobId = pending.jobId
    · subst same
      obtain ⟨written, stored, paused, -⟩ := InMemoryJobStore.get_pauseForHitl_self s.world.jobStore pending preview
      have current : written = record := Option.some.inj (stored.symm.trans found)
      subst current
      have held : pending = action := Option.some.inj (paused.2.symm.trans awaiting.2)
      subst held
      refine ⟨s.world.pauses.length, by simp [World.pauseForHitl], by simp [World.pauseForHitl], ?_⟩
      intro used
      obtain ⟨answer, member, at_end⟩ := List.mem_map.mp used
      obtain ⟨i, action, placed, -, held⟩ := inv.logged answer member
      have place : i = s.world.pauses.length := Option.some.inj (placed.symm.trans at_end)
      simp [place] at held
    · have other : pending.jobId ≠ jobId := Ne.symm same
      have earlier : s.world.jobStore.get jobId = some record := by
        rw [← InMemoryJobStore.get_pauseForHitl_of_ne s.world.jobStore pending preview same]
        exact found
      obtain ⟨i, latest, held, fresh⟩ := inv.unanswered jobId record action earlier awaiting
      exact ⟨i, by simp [World.pauseForHitl, other, latest], kept held, fresh⟩
  · obtain ⟨i, action, placed, acted, held⟩ := inv.logged answer member
    exact ⟨i, action, placed, acted, kept held⟩

theorem Open.answer {s t : ResumeSystem} (inv : s.Open) {env : ResumeEnv} {jobId : String}
    {request : JobResumeRequest} {record : JobRecord} {pending : PendingHitlAction}
    (accepted : Accepted env s.world jobId request record pending)
    (pauses : t.world.pauses = s.world.pauses)
    (answers : t.answers = s.answers ++ [s.answering jobId request])
    (frame : ∀ other, other ≠ jobId → t.world.jobStore.get other = s.world.jobStore.get other)
    (settled : ∀ record, t.world.jobStore.get jobId = some record → record.status ≠ .awaitingApproval) :
    t.Open := by
  obtain ⟨i, latest, held, fresh⟩ := inv.unanswered jobId record pending accepted.found accepted.awaiting
  have place : (s.answering jobId request).pause = some i := latest
  have acted : (s.answering jobId request).action = some pending := by
    simp [answering, accepted.found, accepted.awaiting.2]
  have own : pending.jobId = jobId := by
    obtain ⟨found, stored, same⟩ := latestPause_spec latest
    rw [held] at stored
    cases stored
    exact same
  refine ⟨fun other record action found awaiting => ?_, ?_, ?_⟩
  · have earlier := fewer_of_settled frame settled other record action found awaiting
    obtain ⟨j, otherLatest, otherHeld, otherFresh⟩ := inv.unanswered other record action earlier awaiting
    refine ⟨j, by rw [pauses, otherLatest], by rw [pauses, otherHeld], ?_⟩
    rw [answers, List.map_append, List.mem_append, not_or]
    refine ⟨otherFresh, ?_⟩
    intro used
    have meets : some j = some i := by simpa [place] using used
    cases meets
    -- the pause names one job, so only this job could wait for it, and it no longer waits
    obtain ⟨stored, placed, same⟩ := latestPause_spec otherLatest
    rw [held] at placed
    cases placed
    rw [← same, own] at found
    exact settled record found awaiting.1
  · rw [answers, pauses]
    intro answer member
    rcases List.mem_append.mp member with member | member
    · exact inv.logged answer member
    · rw [List.mem_singleton.mp member]
      exact ⟨i, pending, place, acted, held⟩
  · rw [answers, List.map_append]
    refine List.nodup_append.mpr ⟨inv.once, by simp, ?_⟩
    intro used member last single same
    rw [List.map_singleton, List.mem_singleton] at single
    rw [same, single, place] at member
    exact fresh member

theorem Open.step {s t : ResumeSystem} {action : ResumeStep} (inv : s.Open) (taken : s.step action = some t) :
    t.Open := by
  cases action with
  | pause pending preview =>
    cases taken
    exact inv.pause pending preview
  | write write =>
    cases taken
    exact inv.of_fewer rfl rfl (write_fewer s.world.jobStore write)
  | resume env jobId request =>
    simp only [ResumeSystem.step] at taken
    rcases beginResume_cases env jobId request s.world with
      ⟨e, refused, -⟩ | ⟨record, pending, accepted, ⟨-, done⟩ | ⟨-, done⟩⟩
    · rw [refused] at taken
      cases taken
      exact inv
    · rw [done] at taken
      cases taken
      refine inv.answer accepted rfl rfl (fun other ne => InMemoryJobStore.get_markFailed_of_ne _ _ ne)
        fun record found => ?_
      simp [InMemoryJobStore.status_of_markFailed found]
    · rw [done] at taken
      cases taken
      refine inv.answer accepted rfl rfl (fun other ne => InMemoryJobStore.get_markRunning_of_ne _ _ ne)
        fun record found => ?_
      simp [InMemoryJobStore.status_of_markRunning found]
  | returned call =>
    obtain ⟨jobId, -, rfl⟩ := Option.map_eq_some_iff.mp taken
    exact inv.of_fewer rfl rfl (write_fewer s.world.jobStore (.markCompleted jobId))
  | raised call =>
    obtain ⟨jobId, -, rfl⟩ := Option.map_eq_some_iff.mp taken
    exact inv.of_fewer rfl rfl fun _ _ _ found _ => found

/-- In every interleaving each pause has at most one accepted answer, which acts on its own
    pending action, and a refused call changes nothing. -/
theorem approval_used_once {actions : List ResumeStep} {s : ResumeSystem}
    (reached : Transition.run step {} actions = some s) :
    (s.answers.map Answer.pause).Nodup ∧
      (∀ answer ∈ s.answers, ∃ i action, answer.pause = some i ∧ answer.action = some action ∧
        s.world.pauses[i]? = some action) ∧
      ∀ env jobId request, (∀ record pending, ¬ Accepted env s.world jobId request record pending) →
        ∃ e, beginResume env jobId request s.world = .error e s.world := by
  have inv : s.Open := Transition.invariant_run (fun _ _ _ inv taken => inv.step taken) open_initial reached
  refine ⟨inv.once, inv.logged, fun env jobId request unaccepted => ?_⟩
  rcases beginResume_cases env jobId request s.world with ⟨e, refused, -⟩ | ⟨record, pending, accepted, -⟩
  · exact ⟨e, refused⟩
  · exact absurd accepted (unaccepted record pending)

def sampleSteps : List ResumeStep :=
  [.pause (sampleMiddleware.preview sampleCall sampleNode).pending
      (sampleMiddleware.preview sampleCall sampleNode).toDict,
    .resume sampleEnv "job-1" { decision := "approve" }, .resume sampleEnv "job-1" { decision := "approve" },
    .returned 0]

theorem approval_used_once_sample :
    let s := (Transition.run step {} sampleSteps).get (by decide)
    (s.answers.map Answer.pause).Nodup ∧
      (∀ answer ∈ s.answers, ∃ i action, answer.pause = some i ∧ answer.action = some action ∧
        s.world.pauses[i]? = some action) ∧
      ∀ env jobId request, (∀ record pending, ¬ Accepted env s.world jobId request record pending) →
        ∃ e, beginResume env jobId request s.world = .error e s.world :=
  approval_used_once (Option.some_get (by decide)).symm

end ResumeSystem

end CysAgi
