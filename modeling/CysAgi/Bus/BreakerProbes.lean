import Mathlib.Data.List.Induction
import Mathlib.Tactic.Linarith
import CysAgi.Bus.SecureAgentBus

namespace CysAgi

inductive BreakerRecord where
  | failure
  | success

inductive BreakerCall where
  | record (kind : BreakerRecord)
  | isOpen

namespace CircuitBreaker

def recordSuccess (breaker : CircuitBreaker) : CircuitBreaker := { breaker with failures := 0, openedAt := 0 }

def record (breaker : CircuitBreaker) (entry : Rat × BreakerRecord) : CircuitBreaker :=
  match entry.2 with
  | .failure => breaker.recordFailure entry.1
  | .success => breaker.recordSuccess

def call (breaker : CircuitBreaker) (entry : Rat × BreakerCall) : CircuitBreaker :=
  match entry.2 with
  | .record kind => breaker.record (entry.1, kind)
  | .isOpen => (breaker.isOpen entry.1).1

def recorded (breaker : CircuitBreaker) (history : List (Rat × BreakerRecord)) : CircuitBreaker :=
  history.foldl record breaker

def called (breaker : CircuitBreaker) (calls : List (Rat × BreakerCall)) : CircuitBreaker := calls.foldl call breaker

def Stale (breaker : CircuitBreaker) (now : Rat) : Prop :=
  breaker.failureThreshold ≤ breaker.failures ∧ (breaker.recoveryTimeout : Rat) ≤ now - breaker.openedAt

variable {breaker : CircuitBreaker} {now : Rat}

theorem isOpen_of_stale (stale : breaker.Stale now) : breaker.isOpen now = (breaker.recordSuccess, false) := by
  rw [isOpen, if_neg (not_lt.mpr stale.1), if_pos stale.2]
  rfl

theorem isOpen_of_not_stale (recent : ¬ breaker.Stale now) :
    breaker.isOpen now = (breaker, decide (breaker.failureThreshold ≤ breaker.failures)) := by
  by_cases below : breaker.failures < breaker.failureThreshold
  · rw [isOpen, if_pos below]
    simp [below]
  · have waits : ¬ (breaker.recoveryTimeout : Rat) ≤ now - breaker.openedAt :=
      fun past => recent ⟨not_lt.mp below, past⟩
    rw [isOpen, if_neg below, if_neg waits]
    simp [not_lt.mp below]

theorem Stale.later {later : Rat} (stale : breaker.Stale now) (passed : now ≤ later) : breaker.Stale later := by
  have past := stale.2
  refine ⟨stale.1, ?_⟩
  linarith

theorem record_settings (breaker : CircuitBreaker) (entry : Rat × BreakerRecord) :
    (breaker.record entry).failureThreshold = breaker.failureThreshold ∧
      (breaker.record entry).recoveryTimeout = breaker.recoveryTimeout := by
  obtain ⟨time, kind⟩ := entry
  cases kind with
  | failure =>
    show (breaker.recordFailure time).failureThreshold = _ ∧ (breaker.recordFailure time).recoveryTimeout = _
    unfold recordFailure
    split <;> exact ⟨rfl, rfl⟩
  | success => exact ⟨rfl, rfl⟩

theorem call_settings (breaker : CircuitBreaker) (entry : Rat × BreakerCall) :
    (breaker.call entry).failureThreshold = breaker.failureThreshold ∧
      (breaker.call entry).recoveryTimeout = breaker.recoveryTimeout := by
  obtain ⟨time, kind⟩ := entry
  cases kind with
  | record kind => exact breaker.record_settings (time, kind)
  | isOpen =>
    show (breaker.isOpen time).1.failureThreshold = _ ∧ (breaker.isOpen time).1.recoveryTimeout = _
    by_cases stale : breaker.Stale time
    · rw [isOpen_of_stale stale]
      exact ⟨rfl, rfl⟩
    · rw [isOpen_of_not_stale stale]
      exact ⟨rfl, rfl⟩

theorem called_settings (breaker : CircuitBreaker) (calls : List (Rat × BreakerCall)) :
    (breaker.called calls).failureThreshold = breaker.failureThreshold ∧
      (breaker.called calls).recoveryTimeout = breaker.recoveryTimeout := by
  induction calls generalizing breaker with
  | nil => exact ⟨rfl, rfl⟩
  | cons entry rest ih =>
    have first := breaker.call_settings entry
    have others := ih (breaker.call entry)
    exact ⟨others.1.trans first.1, others.2.trans first.2⟩

structure Sound (breaker : CircuitBreaker) (now : Rat) : Prop where
  epoch : 0 ≤ breaker.openedAt
  past : breaker.openedAt ≤ now

theorem Sound.later {later : Rat} (sound : breaker.Sound now) (passed : now ≤ later) : breaker.Sound later :=
  ⟨sound.epoch, le_trans sound.past passed⟩

theorem Sound.recordSuccess (epoch : 0 ≤ now) : breaker.recordSuccess.Sound now := ⟨le_refl 0, epoch⟩

theorem Sound.record (sound : breaker.Sound now) (epoch : 0 ≤ now) (kind : BreakerRecord) :
    (breaker.record (now, kind)).Sound now := by
  cases kind with
  | success => exact .recordSuccess epoch
  | failure =>
    show (breaker.recordFailure now).Sound now
    unfold recordFailure
    split
    · exact ⟨epoch, le_refl now⟩
    · exact ⟨sound.epoch, sound.past⟩

theorem Sound.isOpen (sound : breaker.Sound now) (epoch : 0 ≤ now) : (breaker.isOpen now).1.Sound now := by
  by_cases stale : breaker.Stale now
  · rw [isOpen_of_stale stale]
    exact .recordSuccess epoch
  · rw [isOpen_of_not_stale stale]
    exact sound

theorem Sound.call (sound : breaker.Sound now) (epoch : 0 ≤ now) (kind : BreakerCall) :
    (breaker.call (now, kind)).Sound now := by
  cases kind with
  | record kind => exact sound.record epoch kind
  | isOpen => exact sound.isOpen epoch

theorem Sound.never_open (sound : breaker.Sound now) (instant : breaker.recoveryTimeout ≤ 0) :
    (breaker.isOpen now).2 = false := by
  by_cases stale : breaker.Stale now
  · rw [isOpen_of_stale stale]
  · have past := sound.past
    have none : (breaker.recoveryTimeout : Rat) ≤ 0 := by exact_mod_cast instant
    rw [isOpen_of_not_stale stale, decide_eq_false_iff_not]
    intro reached
    exact stale ⟨reached, by linarith⟩

inductive Alike (now : Rat) (plain : CircuitBreaker) : CircuitBreaker → Prop where
  | same : Alike now plain plain
  | closed (stale : plain.Stale now) : Alike now plain plain.recordSuccess
  | opened {probed : CircuitBreaker} (one : plain.failureThreshold ≤ 1)
      (threshold : probed.failureThreshold = plain.failureThreshold)
      (timeout : probed.recoveryTimeout = plain.recoveryTimeout) (since : probed.openedAt = plain.openedAt)
      (reached : plain.failureThreshold ≤ plain.failures) (alsoReached : plain.failureThreshold ≤ probed.failures) :
      Alike now plain probed

namespace Alike

variable {plain probed : CircuitBreaker}

theorem later {later : Rat} (alike : Alike now plain probed) (passed : now ≤ later) : Alike later plain probed := by
  cases alike with
  | same => exact .same
  | closed stale => exact .closed (stale.later passed)
  | opened one threshold timeout since reached alsoReached =>
      exact .opened one threshold timeout since reached alsoReached

theorem reset_isOpen (sound : plain.Sound now) (stale : plain.Stale now) :
    plain.recordSuccess.isOpen now = (plain.recordSuccess, false) := by
  by_cases again : plain.recordSuccess.Stale now
  · exact isOpen_of_stale again
  · have epoch := sound.epoch
    have past := stale.2
    have waits : ¬ plain.recordSuccess.failureThreshold ≤ plain.recordSuccess.failures := by
      intro reached
      apply again
      refine ⟨reached, ?_⟩
      show (plain.recoveryTimeout : Rat) ≤ now - 0
      linarith
    rw [isOpen_of_not_stale again, decide_eq_false waits]

theorem answer (alike : Alike now plain probed) (sound : plain.Sound now) :
    (probed.isOpen now).2 = (plain.isOpen now).2 := by
  cases alike with
  | same => rfl
  | closed stale => rw [reset_isOpen sound stale, isOpen_of_stale stale]
  | opened _ threshold timeout since reached alsoReached =>
    have both : probed.Stale now ↔ plain.Stale now := by
      unfold Stale
      rw [threshold, timeout, since]
      simp [reached, alsoReached]
    by_cases stale : plain.Stale now
    · rw [isOpen_of_stale stale, isOpen_of_stale (both.mpr stale)]
    · rw [isOpen_of_not_stale stale, isOpen_of_not_stale fun other => stale (both.mp other), threshold]
      simp [reached, alsoReached]

theorem isOpen (alike : Alike now plain probed) (sound : plain.Sound now) :
    Alike now plain (probed.isOpen now).1 := by
  cases alike with
  | same =>
    by_cases stale : plain.Stale now
    · rw [isOpen_of_stale stale]
      exact .closed stale
    · rw [isOpen_of_not_stale stale]
      exact .same
  | closed stale =>
    rw [reset_isOpen sound stale]
    exact .closed stale
  | opened one threshold timeout since reached alsoReached =>
    by_cases stale : probed.Stale now
    · have closes : probed.recordSuccess = plain.recordSuccess := by
        unfold recordSuccess
        rw [threshold, timeout]
      have past : plain.Stale now := by
        rw [Stale, ← timeout, ← since]
        exact ⟨reached, stale.2⟩
      rw [isOpen_of_stale stale, closes]
      exact .closed past
    · rw [isOpen_of_not_stale stale]
      exact .opened one threshold timeout since reached alsoReached

theorem recordSuccess (alike : Alike now plain probed) : Alike now plain.recordSuccess probed.recordSuccess := by
  cases alike with
  | same => exact .same
  | closed => exact .same
  | opened _ threshold timeout =>
    have closes : probed.recordSuccess = plain.recordSuccess := by
      unfold CircuitBreaker.recordSuccess
      rw [threshold, timeout]
    rw [closes]
    exact .same

theorem recordFailure (alike : Alike now plain probed) (harmless : plain.failureThreshold ≤ 1 ∨ ¬ plain.Stale now) :
    Alike now (plain.recordFailure now) (probed.recordFailure now) := by
  cases alike with
  | same => exact .same
  | closed stale =>
    have one := harmless.resolve_right (not_not.mpr stale)
    have reached := stale.1
    have opens : plain.failureThreshold ≤ plain.failures + 1 := by omega
    have opensAgain : plain.recordSuccess.failureThreshold ≤ plain.recordSuccess.failures + 1 := by
      show plain.failureThreshold ≤ 0 + 1
      omega
    rw [CircuitBreaker.recordFailure, CircuitBreaker.recordFailure, if_pos opens, if_pos opensAgain]
    exact .opened one rfl rfl rfl opens opensAgain
  | opened one threshold timeout since reached alsoReached =>
    have opens : plain.failureThreshold ≤ plain.failures + 1 := by omega
    have opensAgain : probed.failureThreshold ≤ probed.failures + 1 := by omega
    rw [CircuitBreaker.recordFailure, CircuitBreaker.recordFailure, if_pos opens, if_pos opensAgain]
    refine .opened one threshold timeout rfl opens ?_
    show plain.failureThreshold ≤ probed.failures + 1
    omega

end Alike

def records (calls : List (Rat × BreakerCall)) : List (Rat × BreakerRecord) :=
  calls.filterMap fun entry =>
    match entry.2 with
    | .record kind => some (entry.1, kind)
    | .isOpen => none

def Clocked {Entry : Type} (history : List (Rat × Entry)) : Prop := (0 :: history.map Prod.fst).Pairwise (· ≤ ·)

/-- Each probe answers as it would without the other probes, wherever they stand among what is recorded. -/
def ProbesHarmless (breaker : CircuitBreaker) (history : List (Rat × BreakerRecord)) : Prop :=
  ∀ calls, Clocked calls → records calls = history →
    ∀ before now behind, calls = before ++ (now, .isOpen) :: behind →
      ((breaker.called before).isOpen now).2 = ((breaker.recorded (records before)).isOpen now).2

/-- No failure is recorded while the breaker is open and past its recovery time. -/
def NoLateFailure (breaker : CircuitBreaker) (history : List (Rat × BreakerRecord)) : Prop :=
  ∀ before now behind, history = before ++ (now, .failure) :: behind → ¬ (breaker.recorded before).Stale now

section

variable {Entry : Type} {first second : List (Rat × Entry)}

theorem Clocked.left (clocked : Clocked (first ++ second)) : Clocked first := by
  unfold Clocked at clocked
  rw [List.map_append, ← List.cons_append] at clocked
  exact (List.pairwise_append.mp clocked).1

theorem Clocked.epoch {entry : Rat × Entry} (clocked : Clocked (first ++ [entry])) : 0 ≤ entry.1 := by
  refine (List.pairwise_cons.mp clocked).1 _ ?_
  simp

theorem Clocked.passed {entry next : Rat × Entry} (clocked : Clocked (first ++ [entry] ++ [next])) :
    entry.1 ≤ next.1 := by
  have later := (List.pairwise_cons.mp clocked).2
  rw [List.map_append, List.map_append] at later
  refine (List.pairwise_append.mp later).2.2 _ ?_ _ ?_ <;> simp

end

theorem records_append (first second : List (Rat × BreakerCall)) :
    records (first ++ second) = records first ++ records second := List.filterMap_append

theorem NoLateFailure.left {first second : List (Rat × BreakerRecord)}
    (none : NoLateFailure breaker (first ++ second)) : NoLateFailure breaker first := by
  intro before now behind split
  apply none before now (behind ++ second)
  rw [split, List.append_assoc, List.cons_append]

theorem called_concat (breaker : CircuitBreaker) (calls : List (Rat × BreakerCall)) (entry : Rat × BreakerCall) :
    breaker.called (calls ++ [entry]) = (breaker.called calls).call entry := List.foldl_concat _ _ _ _

theorem recorded_concat (breaker : CircuitBreaker) (history : List (Rat × BreakerRecord))
    (entry : Rat × BreakerRecord) :
    breaker.recorded (history ++ [entry]) = (breaker.recorded history).record entry := List.foldl_concat _ _ _ _

theorem Sound.called {calls : List (Rat × BreakerCall)} {next : Rat × BreakerCall}
    (clocked : Clocked (calls ++ [next])) (fresh : breaker.openedAt = 0) : (breaker.called calls).Sound next.1 := by
  induction calls using List.reverseRecOn generalizing next with
  | nil =>
    have epoch := clocked.epoch
    refine ⟨le_of_eq fresh.symm, ?_⟩
    show breaker.openedAt ≤ next.1
    rw [fresh]
    exact epoch
  | append_singleton calls entry ih =>
    rw [called_concat]
    exact ((ih clocked.left).call clocked.left.epoch entry.2).later clocked.passed

def asCalls (history : List (Rat × BreakerRecord)) : List (Rat × BreakerCall) :=
  history.map fun entry => (entry.1, .record entry.2)

theorem records_asCalls (history : List (Rat × BreakerRecord)) : records (asCalls history) = history := by
  simp [records, asCalls, List.filterMap_map]

theorem called_asCalls (breaker : CircuitBreaker) (history : List (Rat × BreakerRecord)) :
    breaker.called (asCalls history) = breaker.recorded history := by
  rw [called, asCalls, List.foldl_map]
  rfl

theorem recorded_settings (breaker : CircuitBreaker) (history : List (Rat × BreakerRecord)) :
    (breaker.recorded history).failureThreshold = breaker.failureThreshold ∧
      (breaker.recorded history).recoveryTimeout = breaker.recoveryTimeout := by
  rw [← called_asCalls]
  exact called_settings _ _

theorem times_asCalls (history : List (Rat × BreakerRecord)) :
    (asCalls history).map Prod.fst = history.map Prod.fst := by
  simp [asCalls]

theorem records_concat (calls : List (Rat × BreakerCall)) (now : Rat) (kind : BreakerRecord) :
    records (calls ++ [(now, .record kind)]) = records calls ++ [(now, kind)] := records_append calls _

theorem records_probe (calls : List (Rat × BreakerCall)) (now : Rat) :
    records (calls ++ [(now, .isOpen)]) = records calls := by
  rw [records_append]
  exact List.append_nil _

theorem Sound.records {calls : List (Rat × BreakerCall)} {next : Rat × BreakerCall}
    (clocked : Clocked (calls ++ [next])) (fresh : breaker.openedAt = 0) :
    (breaker.recorded (records calls)).Sound next.1 := by
  induction calls using List.reverseRecOn generalizing next with
  | nil => exact @Sound.called breaker [] next clocked fresh
  | append_singleton calls entry ih =>
    obtain ⟨now, kind⟩ := entry
    have before := ih clocked.left
    cases kind with
    | record kind =>
      rw [records_concat, recorded_concat]
      exact (before.record clocked.left.epoch kind).later clocked.passed
    | isOpen =>
      rw [records_probe]
      exact before.later clocked.passed

theorem Alike.called {calls : List (Rat × BreakerCall)} {next : Rat × BreakerCall}
    (clocked : Clocked (calls ++ [next])) (fresh : breaker.openedAt = 0)
    (harmless : breaker.failureThreshold ≤ 1 ∨ NoLateFailure breaker (CircuitBreaker.records calls)) :
    Alike next.1 (breaker.recorded (CircuitBreaker.records calls)) (breaker.called calls) := by
  induction calls using List.reverseRecOn generalizing next with
  | nil => exact .same
  | append_singleton calls entry ih =>
    obtain ⟨now, kind⟩ := entry
    rw [called_concat]
    refine Alike.later ?_ clocked.passed
    cases kind with
    | isOpen =>
      rw [records_probe] at harmless ⊢
      exact (ih clocked.left harmless).isOpen (.records clocked.left fresh)
    | record kind =>
      rw [records_concat] at harmless ⊢
      have before := ih clocked.left (harmless.imp_right NoLateFailure.left)
      rw [recorded_concat]
      cases kind with
      | success => exact before.recordSuccess
      | failure =>
        apply before.recordFailure
        rw [(breaker.recorded_settings _).1]
        exact harmless.imp_right fun none => none _ now [] rfl

theorem late_failure_probed {now : Rat} (late : breaker.Stale now) (more : 1 < breaker.failureThreshold)
    (lasting : 0 < breaker.recoveryTimeout) :
    ((breaker.recordFailure now).isOpen now).2 = true ∧
      (((breaker.isOpen now).1.recordFailure now).isOpen now).2 = false := by
  have reached := late.1
  have opens : breaker.failureThreshold ≤ breaker.failures + 1 := by omega
  have counts : ¬ breaker.recordSuccess.failureThreshold ≤ breaker.recordSuccess.failures + 1 := by
    show ¬ breaker.failureThreshold ≤ 0 + 1
    omega
  constructor
  · rw [CircuitBreaker.recordFailure, if_pos opens]
    have lasts : (0 : Rat) < breaker.recoveryTimeout := by exact_mod_cast lasting
    rw [isOpen_of_not_stale, decide_eq_true_iff]
    · exact opens
    · rintro ⟨-, past⟩
      have none : (breaker.recoveryTimeout : Rat) ≤ now - now := past
      linarith
  · rw [isOpen_of_stale late, CircuitBreaker.recordFailure, if_neg counts]
    rw [CircuitBreaker.isOpen, if_pos]
    show (0 : Int) + 1 < breaker.failureThreshold
    omega

theorem Clocked.probed {before behind : List (Rat × BreakerRecord)} {now : Rat} {kind : BreakerRecord}
    (clocked : Clocked (before ++ (now, kind) :: behind)) :
    Clocked (asCalls before ++ [(now, .isOpen), (now, .record kind)] ++ (now, .isOpen) :: asCalls behind) := by
  unfold Clocked at clocked ⊢
  simp only [List.map_append, List.map_cons, List.map_nil, times_asCalls] at clocked ⊢
  simp only [List.pairwise_cons, List.pairwise_append, List.mem_append, List.mem_cons] at clocked ⊢
  grind

theorem records_probed (before behind : List (Rat × BreakerRecord)) (now : Rat) (kind : BreakerRecord) :
    records (asCalls before ++ [(now, .isOpen), (now, .record kind)] ++ (now, .isOpen) :: asCalls behind) =
      before ++ (now, kind) :: behind := by
  have probed : records ((now, .isOpen) :: asCalls behind) = records (asCalls behind) := rfl
  rw [records_append, records_append, probed, records_asCalls, records_asCalls, List.append_assoc]
  rfl

theorem called_probed (breaker : CircuitBreaker) (before : List (Rat × BreakerRecord)) (now : Rat) :
    breaker.called (asCalls before ++ [(now, .isOpen), (now, .record .failure)]) =
      ((breaker.recorded before).isOpen now).1.recordFailure now := by
  have plain := called_asCalls breaker before
  unfold called at plain
  rw [called, List.foldl_append, plain]
  rfl

/-- Being asked changes nothing exactly when one failure opens the breaker, or it recovers at once, or no failure comes
    late. -/
theorem probes_harmless_iff (failureThreshold recoveryTimeout : Int) (history : List (Rat × BreakerRecord))
    (clocked : Clocked history) :
    ProbesHarmless { failureThreshold, recoveryTimeout } history ↔
      failureThreshold ≤ 1 ∨ recoveryTimeout ≤ 0 ∨ NoLateFailure { failureThreshold, recoveryTimeout } history := by
  constructor
  · intro harmless
    by_contra shows
    push Not at shows
    obtain ⟨more, lasting, late⟩ := shows
    unfold NoLateFailure at late
    push Not at late
    obtain ⟨before, now, behind, rfl, late⟩ := late
    have settings := recorded_settings { failureThreshold, recoveryTimeout } before
    have same := harmless _ clocked.probed (records_probed before behind now .failure) _ now _ rfl
    rw [called_probed, records_append, records_asCalls] at same
    obtain ⟨opens, closes⟩ := late_failure_probed late (by rw [settings.1]; exact more)
      (by rw [settings.2]; exact lasting)
    have plain : recorded { failureThreshold, recoveryTimeout }
        (before ++ records [(now, .isOpen), (now, .record .failure)]) =
          (recorded { failureThreshold, recoveryTimeout } before).recordFailure now := recorded_concat _ _ _
    rw [closes, plain, opens] at same
    cases same
  · intro harmless calls ordered told before now behind split
    subst split
    have sofar : Clocked (before ++ [(now, BreakerCall.isOpen)]) := by
      rw [List.append_cons] at ordered
      exact ordered.left
    have sound := @Sound.records { failureThreshold, recoveryTimeout } _ _ sofar rfl
    by_cases instant : recoveryTimeout ≤ 0
    · have soundProbed := @Sound.called { failureThreshold, recoveryTimeout } _ _ sofar rfl
      rw [soundProbed.never_open, sound.never_open]
      · rw [(recorded_settings _ _).2]
        exact instant
      · rw [(called_settings _ _).2]
        exact instant
    · refine (Alike.called sofar rfl ?_).answer sound
      rcases harmless with one | instantly | none
      · exact .inl one
      · exact absurd instantly instant
      · right
        rw [← told, records_append] at none
        exact none.left

theorem early_failures_probed :
    Clocked [(0, BreakerRecord.failure), (30, .failure)] ∧
      ProbesHarmless { failureThreshold := 2, recoveryTimeout := 60 } [(0, .failure), (30, .failure)] := by
  have clocked : Clocked [(0, BreakerRecord.failure), (30, .failure)] := by
    unfold Clocked
    decide +kernel
  have early : NoLateFailure { failureThreshold := 2, recoveryTimeout := 60 } [(0, .failure), (30, .failure)] := by
    intro before now behind split late
    have reached : (2 : Int) ≤ (recorded { failureThreshold := 2, recoveryTimeout := 60 } before).failures := by
      have late := late.1
      rwa [(recorded_settings _ _).1] at late
    rcases before with _ | ⟨first, _ | ⟨second, rest⟩⟩
    · exact absurd reached (by decide)
    · cases split
      exact absurd reached (by decide +kernel)
    · simp at split
  exact ⟨clocked, (probes_harmless_iff _ _ _ clocked).mpr (.inr (.inr early))⟩

/-- A third failure a hundred seconds after two others opens the breaker again, unless somebody asked just before. -/
theorem probe_closes_breaker :
    ((recorded { failureThreshold := 2 } [(0, .failure), (1, .failure), (100, .failure)]).isOpen 100).2 = true ∧
    ((called { failureThreshold := 2 } [(0, .record .failure), (1, .record .failure), (100, .isOpen),
      (100, .record .failure)]).isOpen 100).2 = false ∧
    ¬ ProbesHarmless { failureThreshold := 2 } [(0, .failure), (1, .failure), (100, .failure)] := by
  have opens :
      ((recorded { failureThreshold := 2 } [(0, .failure), (1, .failure), (100, .failure)]).isOpen 100).2 = true := by
    decide +kernel
  have closes : ((called { failureThreshold := 2 } [(0, .record .failure), (1, .record .failure), (100, .isOpen),
      (100, .record .failure)]).isOpen 100).2 = false := by
    decide +kernel
  refine ⟨opens, closes, fun harmless => ?_⟩
  have same := harmless [(0, .record .failure), (1, .record .failure), (100, .isOpen), (100, .record .failure),
    (100, .isOpen)] (by unfold Clocked; decide +kernel) rfl
    [(0, .record .failure), (1, .record .failure), (100, .isOpen), (100, .record .failure)] 100 [] rfl
  have plain : records [(0, .record .failure), (1, .record .failure), (100, .isOpen), (100, .record .failure)] =
    [(0, .failure), (1, .failure), (100, .failure)] := rfl
  rw [closes, plain, opens] at same
  cases same

end CircuitBreaker

end CysAgi
