import Mathlib.Algebra.Order.Archimedean.Basic
import CysAgi.Base.Iteration
import CysAgi.Workers.Models

namespace CysAgi

open Py

variable {ε σ : Type}

structure PollLoop (σ : Type) where
  client : σ
  stop : Bool := false
  processed : Nat := 0
  idleElapsed : Rat := 0

structure PollDaemon (ε σ : Type) where
  processOne : Nat → EStateM ε σ Bool
  requestStop : σ → σ
  signalled : Nat → Bool
  idleTimeout : Rat := 30
  pollInterval : Rat := 1

namespace PollDaemon

variable (daemon : PollDaemon ε σ)

def handleSignal (turn : Nat) (loop : PollLoop σ) : PollLoop σ :=
  if daemon.signalled turn then { loop with stop := true, client := daemon.requestStop loop.client } else loop

/-- A turn of `while not stop`. -/
def pollTurn (turn : Nat) : EStateM ε (PollLoop σ) (Nat ⊕ Nat) := fun loop =>
  if loop.stop then .ok (.inl loop.processed) loop
  else
    match daemon.processOne turn loop.client with
    | .error raised client => .error raised { loop with client }
    | .ok true client =>
      let counted := { loop with client, processed := loop.processed + 1, idleElapsed := 0 }
      .ok (.inr (turn + 1)) (daemon.handleSignal turn counted)
    | .ok false client =>
      let idle := { loop with client, idleElapsed := loop.idleElapsed + daemon.pollInterval }
      if 0 < daemon.idleTimeout ∧ daemon.idleTimeout ≤ idle.idleElapsed then
        .ok (.inl idle.processed) (daemon.handleSignal turn idle)
      else .ok (.inr (turn + 1)) (daemon.handleSignal turn idle)

/-- `run_poll_daemon`, as far as so many turns go. -/
def runPollDaemon (turns : Nat) : EStateM ε (PollLoop σ) (Option Nat) :=
  Iteration.iterate daemon.pollTurn turns 0

theorem handleSignal_idleElapsed (turn : Nat) (loop : PollLoop σ) :
    (daemon.handleSignal turn loop).idleElapsed = loop.idleElapsed := by
  unfold handleSignal
  split <;> rfl

theorem handleSignal_client {P : σ → Prop} (stopped : ∀ client, P client → P (daemon.requestStop client)) (turn : Nat)
    {loop : PollLoop σ} (holds : P loop.client) : P (daemon.handleSignal turn loop).client := by
  unfold handleSignal
  split
  · exact stopped loop.client holds
  · exact holds

theorem pollTurn_stopped {loop : PollLoop σ} (stopped : loop.stop = true) (turn : Nat) :
    daemon.pollTurn turn loop = .ok (.inl loop.processed) loop := by
  unfold pollTurn
  rw [if_pos stopped]

theorem pollTurn_running {loop : PollLoop σ} (running : ¬loop.stop = true) {turn : Nat} {client : σ}
    (answer : daemon.processOne turn loop.client = .ok false client) :
    daemon.pollTurn turn loop =
      .ok (if 0 < daemon.idleTimeout ∧ daemon.idleTimeout ≤ loop.idleElapsed + daemon.pollInterval then
          .inl loop.processed else .inr (turn + 1))
        (daemon.handleSignal turn { loop with client, idleElapsed := loop.idleElapsed + daemon.pollInterval }) := by
  unfold pollTurn
  rw [if_neg running, answer]
  dsimp only
  split <;> rfl

theorem pollTurn_handled {loop : PollLoop σ} (running : ¬loop.stop = true) {turn : Nat} {client : σ}
    (answer : daemon.processOne turn loop.client = .ok true client) :
    daemon.pollTurn turn loop = .ok (.inr (turn + 1))
      (daemon.handleSignal turn { loop with client, processed := loop.processed + 1, idleElapsed := 0 }) := by
  unfold pollTurn
  rw [if_neg running, answer]

theorem pollTurn_cases (turn : Nat) (loop : PollLoop σ) :
    (∃ handled, daemon.pollTurn turn loop = .ok (.inl handled) loop) ∨
      (∃ raised client, daemon.processOne turn loop.client = .error raised client ∧
        daemon.pollTurn turn loop = .error raised { loop with client }) ∨
      ∃ handled client next, daemon.processOne turn loop.client = .ok handled client ∧
        daemon.pollTurn turn loop = .ok next (daemon.handleSignal turn { loop with
          client, processed := loop.processed + if handled then 1 else 0
          idleElapsed := if handled then 0 else loop.idleElapsed + daemon.pollInterval }) ∧
        (next = .inr (turn + 1) ∨ ∃ count, next = .inl count) := by
  by_cases stopped : loop.stop = true
  · exact .inl ⟨_, daemon.pollTurn_stopped stopped turn⟩
  · right
    cases answer : daemon.processOne turn loop.client with
    | error raised client =>
      refine .inl ⟨raised, client, rfl, ?_⟩
      unfold pollTurn
      rw [if_neg stopped, answer]
    | ok handled client =>
      right
      cases handled with
      | true => exact ⟨true, client, _, rfl, daemon.pollTurn_handled stopped answer, .inl rfl⟩
      | false =>
        refine ⟨false, client, _, rfl, daemon.pollTurn_running stopped answer, ?_⟩
        split
        · exact .inr ⟨_, rfl⟩
        · exact .inl rfl

theorem preserves_client {P : σ → Prop} (kept : ∀ turn, Preserves P (daemon.processOne turn))
    (stopped : ∀ client, P client → P (daemon.requestStop client)) (turn : Nat) :
    Preserves (fun loop : PollLoop σ => P loop.client) (daemon.pollTurn turn) := by
  intro loop holds
  have after := kept turn loop.client holds
  unfold final at after ⊢
  obtain ⟨count, same⟩ | ⟨raised, client, answer, same⟩ | ⟨handled, client, next, answer, same, -⟩ :=
    daemon.pollTurn_cases turn loop
  · rw [same]
    exact holds
  · rw [answer] at after
    rw [same]
    exact after
  · rw [answer] at after
    rw [same]
    exact daemon.handleSignal_client stopped turn after

theorem preserves_idleElapsed (forward : 0 ≤ daemon.pollInterval) (turn : Nat) :
    Preserves (fun loop : PollLoop σ => 0 ≤ loop.idleElapsed) (daemon.pollTurn turn) := by
  intro loop holds
  unfold final
  obtain ⟨count, same⟩ | ⟨raised, client, answer, same⟩ | ⟨handled, client, next, answer, same, -⟩ :=
    daemon.pollTurn_cases turn loop
  · rw [same]
    exact holds
  · rw [same]
    exact holds
  · rw [same]
    dsimp only
    rw [handleSignal_idleElapsed]
    cases handled
    · exact add_nonneg holds forward
    · exact le_refl _

structure Spent (P : σ → Prop) : Prop where
  idle : ∀ turn client, P client → ∃ after, daemon.processOne turn client = .ok false after ∧ P after
  stopped : ∀ client, P client → P (daemon.requestStop client)

variable {daemon}

theorem Spent.leaves {P : σ → Prop} (spent : daemon.Spent P) (timed : 0 < daemon.idleTimeout) (rounds turn : Nat)
    (loop : PollLoop σ) (holds : P loop.client)
    (passes : daemon.idleTimeout ≤ loop.idleElapsed + (rounds + 1) * daemon.pollInterval) :
    outcome (Iteration.iterate daemon.pollTurn (rounds + 1) turn) loop ≠ .ok none := by
  induction rounds generalizing turn loop with
  | zero =>
    have passed : daemon.idleTimeout ≤ loop.idleElapsed + daemon.pollInterval := by simpa using passes
    unfold outcome
    rw [Iteration.iterate_succ]
    by_cases stopped : loop.stop = true
    · rw [daemon.pollTurn_stopped stopped]
      nofun
    · obtain ⟨after, answer, -⟩ := spent.idle turn loop.client holds
      rw [daemon.pollTurn_running stopped answer, if_pos ⟨timed, passed⟩]
      nofun
  | succ rounds ih =>
    unfold outcome
    rw [Iteration.iterate_succ]
    by_cases stopped : loop.stop = true
    · rw [daemon.pollTurn_stopped stopped]
      nofun
    · obtain ⟨after, answer, kept⟩ := spent.idle turn loop.client holds
      rw [daemon.pollTurn_running stopped answer]
      by_cases passed : 0 < daemon.idleTimeout ∧ daemon.idleTimeout ≤ loop.idleElapsed + daemon.pollInterval
      · rw [if_pos passed]
        nofun
      · rw [if_neg passed]
        apply ih (turn + 1) _ (daemon.handleSignal_client spent.stopped turn kept)
        rw [handleSignal_idleElapsed]
        push_cast at passes ⊢
        linarith

theorem Spent.leaves_after {P : σ → Prop} (spent : daemon.Spent P) (timed : 0 < daemon.idleTimeout)
    (forward : 0 ≤ daemon.pollInterval) {bound : Nat} (enough : daemon.idleTimeout ≤ (bound + 1) * daemon.pollInterval)
    (rounds turn : Nat) (loop : PollLoop σ) (idled : 0 ≤ loop.idleElapsed)
    (reached : P (final (Iteration.iterate daemon.pollTurn rounds turn) loop).client) :
    outcome (Iteration.iterate daemon.pollTurn (rounds + (bound + 1)) turn) loop ≠ .ok none := by
  induction rounds generalizing turn loop with
  | zero =>
    rw [Nat.zero_add]
    exact spent.leaves timed bound turn loop reached (by linarith)
  | succ rounds ih =>
    have next := daemon.preserves_idleElapsed forward turn loop idled
    have longer : rounds + 1 + (bound + 1) = rounds + (bound + 1) + 1 := by omega
    unfold outcome final at *
    rw [longer, Iteration.iterate_succ]
    rw [Iteration.iterate_succ] at reached
    cases ran : daemon.pollTurn turn loop with
    | error raised after => nofun
    | ok result after =>
      rw [ran] at next reached
      cases result with
      | inl count => nofun
      | inr later => exact ih later after next reached

theorem never_left (untimed : daemon.idleTimeout ≤ 0) (quiet : ∀ turn, daemon.signalled turn = false)
    (answers : ∀ turn client, ∃ handled after, daemon.processOne turn client = .ok handled after) (rounds turn : Nat)
    (loop : PollLoop σ) (running : loop.stop = false) :
    outcome (Iteration.iterate daemon.pollTurn rounds turn) loop = .ok none := by
  induction rounds generalizing turn loop with
  | zero => rfl
  | succ rounds ih =>
    obtain ⟨handled, after, answer⟩ := answers turn loop.client
    have unsignalled (loop : PollLoop σ) : daemon.handleSignal turn loop = loop := by
      unfold handleSignal
      rw [quiet turn]
      rfl
    unfold outcome
    rw [Iteration.iterate_succ]
    cases handled with
    | true =>
      rw [daemon.pollTurn_handled (by simp [running]) answer, unsignalled]
      exact ih (turn + 1) _ running
    | false =>
      rw [daemon.pollTurn_running (by simp [running]) answer, unsignalled, if_neg fun timed => timed.1.not_ge untimed]
      exact ih (turn + 1) _ running

end PollDaemon

structure WorkerTurn where
  next : Except PyExc (Option RunResult)
  flushed : Except PyExc Unit := .ok ()
  signalled : Bool := false

structure WorkerCount where
  stop : Bool := false
  processed : Nat := 0

structure WorkerDaemon where
  persona : String
  maxJobs : Option Nat := none
  idleTimeout : Rat := 0

namespace WorkerDaemon

def requestStop (count : WorkerCount) : WorkerCount := { count with stop := true }

variable (daemon : WorkerDaemon)

def processOne (turn : WorkerTurn) : EStateM PyExc WorkerCount Bool := fun count =>
  if daemon.maxJobs.any (· ≤ count.processed) then .ok false (requestStop count)
  else
    match turn.next with
    | .error raised => .error raised count
    | .ok none => .ok false count
    | .ok (some _) =>
      let counted := { count with processed := count.processed + 1 }
      match turn.flushed with
      | .error raised => .error raised counted
      | .ok _ => .ok true counted

def polling (turns : Nat → WorkerTurn) : PollDaemon PyExc WorkerCount where
  processOne turn := daemon.processOne (turns turn)
  requestStop := requestStop
  signalled turn := (turns turn).signalled
  idleTimeout := daemon.idleTimeout

/-- `WorkerDaemon.run`, as far as so many turns of its loop go. -/
def run (turns : Nat → WorkerTurn) (rounds : Nat) : EStateM PyExc (PollLoop WorkerCount) (Option Nat) :=
  (daemon.polling turns).runPollDaemon rounds

def processed (turns : Nat → WorkerTurn) (rounds : Nat) : Nat :=
  (final (daemon.run turns rounds) { client := {} }).client.processed

def Left (turns : Nat → WorkerTurn) (rounds : Nat) : Prop :=
  outcome (daemon.run turns rounds) { client := {} } ≠ .ok none

/-- A worker for so many jobs stops: it processes no more of them, and there is a number of turns after which it has
    left its loop when it has processed the last. -/
structure StopsAfter (jobs : Nat) : Prop where
  atMost : ∀ turns rounds, daemon.processed turns rounds ≤ jobs
  leaves : ∃ bound, ∀ turns rounds, daemon.processed turns rounds = jobs → daemon.Left turns (rounds + bound)

variable {daemon} {jobs : Nat}

theorem processOne_spent (limit : daemon.maxJobs = some jobs) (turn : WorkerTurn) {count : WorkerCount}
    (spent : jobs ≤ count.processed) : daemon.processOne turn count = .ok false (requestStop count) := by
  unfold processOne
  rw [limit]
  simp [spent]

theorem preserves_processed (limit : daemon.maxJobs = some jobs) (turn : WorkerTurn) :
    Preserves (fun count => count.processed ≤ jobs) (daemon.processOne turn) := by
  intro count most
  by_cases spent : jobs ≤ count.processed
  · unfold final
    rw [processOne_spent limit turn spent]
    exact most
  · have one : count.processed + 1 ≤ jobs := by omega
    unfold final processOne
    rw [limit, if_neg (by simpa using spent)]
    cases turn.next with
    | error raised => exact most
    | ok result =>
      cases result with
      | none => exact most
      | some result => cases turn.flushed <;> exact one

theorem processed_le (limit : daemon.maxJobs = some jobs) (turns : Nat → WorkerTurn) (rounds : Nat) :
    daemon.processed turns rounds ≤ jobs := by
  have kept := Iteration.preserves_iterate
    ((daemon.polling turns).preserves_client (fun turn => preserves_processed limit (turns turn)) fun _ most => most)
  exact kept rounds 0 { client := {} } (Nat.zero_le jobs)

theorem spent_polling (limit : daemon.maxJobs = some jobs) (turns : Nat → WorkerTurn) :
    (daemon.polling turns).Spent fun count => jobs ≤ count.processed where
  idle turn count spent := ⟨requestStop count, processOne_spent limit (turns turn) spent, spent⟩
  stopped _ spent := spent

theorem leaves_of_timeout (limit : daemon.maxJobs = some jobs) (timed : 0 < daemon.idleTimeout) :
    ∃ bound, ∀ turns rounds, daemon.processed turns rounds = jobs → daemon.Left turns (rounds + bound) := by
  obtain ⟨bound, enough⟩ := exists_nat_ge daemon.idleTimeout
  refine ⟨bound + 1, fun turns rounds last => ?_⟩
  have forward : (0 : Rat) ≤ (daemon.polling turns).pollInterval := zero_le_one
  apply (spent_polling limit turns).leaves_after timed forward _ rounds 0 { client := {} } (le_refl _) last.ge
  change daemon.idleTimeout ≤ (bound + 1) * 1
  linarith

def busy (_ : Nat) : WorkerTurn := { next := .ok (some { jobId := "job-1", persona := "soc", success := true }) }

theorem handleSignal_busy (turn : Nat) (loop : PollLoop WorkerCount) :
    (daemon.polling busy).handleSignal turn loop = loop := if_neg Bool.false_ne_true

theorem processOne_busy (limit : daemon.maxJobs = some jobs) (turn : Nat) {count : WorkerCount}
    (left : count.processed < jobs) :
    daemon.processOne (busy turn) count = .ok true { count with processed := count.processed + 1 } := by
  unfold processOne
  rw [limit, if_neg (by simpa using left)]
  rfl

theorem processed_busy (limit : daemon.maxJobs = some jobs) (rounds turn : Nat) (loop : PollLoop WorkerCount)
    (running : loop.stop = false) (left : loop.client.processed + rounds ≤ jobs) :
    (final (Iteration.iterate (daemon.polling busy).pollTurn rounds turn) loop).client.processed =
      loop.client.processed + rounds := by
  induction rounds generalizing turn loop with
  | zero => rfl
  | succ rounds ih =>
    have answer := processOne_busy limit turn (by omega : loop.client.processed < jobs)
    unfold final at *
    rw [Iteration.iterate_succ, (daemon.polling busy).pollTurn_handled (by simp [running]) answer, handleSignal_busy]
    have counted : loop.client.processed + 1 + rounds = loop.client.processed + (rounds + 1) := by omega
    let next : PollLoop WorkerCount := { loop with
      client := { loop.client with processed := loop.client.processed + 1 }
      processed := loop.processed + 1, idleElapsed := 0 }
    exact (ih (turn + 1) next running (counted.trans_le left)).trans counted

theorem never_leaves (limit : daemon.maxJobs = some jobs) (untimed : daemon.idleTimeout ≤ 0) (rounds : Nat) :
    ¬daemon.Left busy rounds := by
  have answers (turn : Nat) (count : WorkerCount) :
      ∃ handled after, (daemon.polling busy).processOne turn count = .ok handled after := by
    by_cases spent : jobs ≤ count.processed
    · exact ⟨false, _, processOne_spent limit (busy turn) spent⟩
    · exact ⟨true, _, processOne_busy limit turn (by omega)⟩
  exact not_not_intro ((daemon.polling busy).never_left untimed (fun _ => rfl) answers rounds 0 { client := {} } rfl)

theorem not_stopsAfter (limit : daemon.maxJobs = some jobs) (untimed : daemon.idleTimeout ≤ 0) :
    ¬daemon.StopsAfter jobs := by
  rintro ⟨-, bound, leaves⟩
  have last : daemon.processed busy jobs = jobs :=
    (processed_busy limit jobs 0 { client := {} } rfl (by simp)).trans (Nat.zero_add jobs)
  exact never_leaves limit untimed (jobs + bound) (leaves busy jobs last)

/-- A worker for so many jobs processes no more than them, but without an idle timeout it stays in its loop. -/
theorem stopsAfter_iff (persona : String) (jobs : Nat) (idleTimeout : Rat) :
    StopsAfter { persona, maxJobs := some jobs, idleTimeout } jobs ↔ 0 < idleTimeout := by
  constructor
  · intro stops
    by_contra untimed
    exact not_stopsAfter rfl (not_lt.mp untimed) stops
  · intro timed
    exact ⟨processed_le rfl, leaves_of_timeout rfl timed⟩

def oneShot (persona : String) : WorkerDaemon := { persona, maxJobs := some 1 }

theorem oneShot_never_leaves : (oneShot "soc").processed busy 1 = 1 ∧ ∀ rounds, ¬(oneShot "soc").Left busy rounds :=
  ⟨rfl, never_leaves rfl (le_refl 0)⟩

end WorkerDaemon

end CysAgi
