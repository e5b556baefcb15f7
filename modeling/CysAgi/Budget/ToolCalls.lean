import Mathlib.Data.List.Perm.Basic
import CysAgi.Base.Transition
import CysAgi.Hitl.ApprovalBinding

namespace CysAgi

open Py

namespace SecurityMiddleware

/-- `awrap_tool_call` up to the handler: a message when the call is stopped before it. -/
def gate (mw : SecurityMiddleware) (call : ToolCall) (node : NodeRun) : Effect (Option ToolMessage) := do
  match (← get).budgets.checkToolCall mw.sessionId with
  | some e => return some (call.errorMessage e.message)
  | none =>
    match node.rateLimit with
    | .error (.baseException message) => throw (.baseException message)
    | .error e => return some (call.errorMessage e.message)
    | .ok _ => mw.awaitHitlIfNeeded call node

/-- `awrap_tool_call` from the handler's answer on. -/
def conclude (mw : SecurityMiddleware) (call : ToolCall) (handled : Except PyExc ToolMessage) : Effect ToolMessage :=
  mw.callHandler call (resultOf handled)

variable {mw : SecurityMiddleware} {call : ToolCall} {node : NodeRun}

theorem run_callHandler (handler : Effect ToolMessage) (w : World) :
    mw.callHandler call handler w = mw.conclude call (outcome handler w) (final handler w) := by
  unfold conclude callHandler
  rw [run_tryCatch, run_tryCatch, run_bind, run_bind, run_resultOf]
  rcases run_cases handler w with ⟨message, ran, returned⟩ | ⟨e, ran, raised⟩
  · rw [ran, returned]
  · rw [ran, raised]

theorem run_awrapToolCall (handler : Effect ToolMessage) (w : World) :
    mw.awrapToolCall call node handler w =
      match mw.gate call node w with
      | .error e t => .error e t
      | .ok (some blocked) t => .ok blocked t
      | .ok none t => mw.conclude call (outcome handler t) (final handler t) := by
  unfold awrapToolCall gate
  rw [run_bind, run_bind, run_get]
  dsimp only
  cases w.budgets.checkToolCall mw.sessionId with
  | some e => rfl
  | none =>
    cases node.rateLimit with
    | error e => cases e <;> rfl
    | ok _ =>
      dsimp only
      rw [run_bind]
      cases mw.awaitHitlIfNeeded call node w with
      | error e t => rfl
      | ok blocked t =>
        cases blocked with
        | some message => rfl
        | none => exact run_callHandler handler t

theorem final_awrapToolCall {handler : Effect ToolMessage} {w : World}
    (through : outcome (mw.gate call node) w = .ok none) :
    final (mw.awrapToolCall call node handler) w =
      final (mw.conclude call (outcome handler (final (mw.gate call node) w)))
        (final handler (final (mw.gate call node) w)) := by
  rcases run_cases (mw.gate call node) w with ⟨blocked, ran, returned⟩ | ⟨e, ran, raised⟩
  · rw [returned] at through
    cases through
    conv => lhs; rw [final, run_awrapToolCall, ran]
    rfl
  · rw [raised] at through
    cases through

theorem outcome_gate_iff (w : World) :
    outcome (mw.gate call node) w = .ok none ↔
      mw.Admitted w node ∧ outcome (mw.awaitHitlIfNeeded call node) w = .ok none := by
  unfold gate Admitted
  rw [outcome_bind]
  simp only [outcome, final, run_get]
  cases w.budgets.checkToolCall mw.sessionId with
  | some e => simp
  | none =>
    cases node.rateLimit with
    | error e => cases e <;> simp
    | ok _ => simp

theorem checked_gate {w : World} (through : outcome (mw.gate call node) w = .ok none) :
    w.budgets.checkToolCall mw.sessionId = none := ((outcome_gate_iff w).mp through).1.1

theorem gate_preserves {P : World → Prop} (mw : SecurityMiddleware) (call : ToolCall) (node : NodeRun)
    (paused : ∀ w pending preview, P w → P (w.pauseForHitl pending preview))
    (announced : ∀ w records, P w → P { w with pausedRecords := records }) : Preserves P (mw.gate call node) := by
  intro w start
  unfold gate
  rw [final_bind]
  simp only [outcome, final, run_get]
  cases w.budgets.checkToolCall mw.sessionId with
  | some e => exact start
  | none =>
    cases node.rateLimit with
    | error e => cases e <;> exact start
    | ok _ => exact awaitHitlIfNeeded_preserves mw call node paused announced w start

theorem budgets_gate (w : World) : (final (mw.gate call node) w).budgets = w.budgets :=
  gate_preserves (P := fun v => v.budgets = w.budgets) mw call node (fun _ _ _ same => same) (fun _ _ same => same) w rfl

theorem executedTools_gate (w : World) : (final (mw.gate call node) w).executedTools = w.executedTools :=
  gate_preserves (P := fun v => v.executedTools = w.executedTools) mw call node (fun _ _ _ same => same)
    (fun _ _ same => same) w rfl

theorem executedTools_conclude (mw : SecurityMiddleware) (call : ToolCall) (handled : Except PyExc ToolMessage)
    (w : World) : (final (mw.conclude call handled) w).executedTools = w.executedTools :=
  callHandler_preserves (P := fun v => v.executedTools = w.executedTools) (.resultOf handled) (fun _ _ _ same => same) w rfl

theorem budgets_conclude (mw : SecurityMiddleware) (call : ToolCall) (handled : Except PyExc ToolMessage) (w : World) :
    (final (mw.conclude call handled) w).budgets =
      match handled with
      | .error _ => w.budgets
      | .ok _ =>
        match w.budgets.recordToolCall mw.sessionId with
        | .error _ => w.budgets
        | .ok budgets => budgets := by
  unfold conclude
  rw [final_callHandler, outcome_resultOf, final_resultOf]
  cases handled with
  | error e => rfl
  | ok message => cases w.budgets.recordToolCall mw.sessionId <;> rfl

end SecurityMiddleware

/-- The tool calls of any sessions, each stopped at the await of its handler or finished. -/
structure ToolCalls where
  world : World := {}
  inFlight : List (SecurityMiddleware × ToolCall) := []
  /-- The session of each handler that was started. -/
  started : List String := []
  /-- The session of each handler that raised. -/
  raised : List String := []

inductive ToolCallStep where
  | enter (mw : SecurityMiddleware) (call : ToolCall) (node : NodeRun)
  /-- The handler of the call at the index returns or raises. -/
  | leave (index : Nat) (handled : Except PyExc ToolMessage)

namespace ToolCalls

def Lets (s : ToolCalls) (mw : SecurityMiddleware) (call : ToolCall) (node : NodeRun) : Prop :=
  outcome (mw.gate call node) s.world = .ok none

def enter (s : ToolCalls) (mw : SecurityMiddleware) (call : ToolCall) (node : NodeRun) : ToolCalls :=
  match mw.gate call node s.world with
  | .ok none w => { s with
      world := w, inFlight := s.inFlight ++ [(mw, call)], started := s.started ++ [mw.sessionId] }
  | .ok (some _) w => { s with world := w }
  | .error _ w => { s with world := w }

def leave (s : ToolCalls) (index : Nat) (mw : SecurityMiddleware) (call : ToolCall)
    (handled : Except PyExc ToolMessage) : ToolCalls :=
  let world := final (mw.conclude call handled) s.world
  match handled with
  | .ok _ => { s with world, inFlight := s.inFlight.eraseIdx index }
  | .error _ => { s with world, inFlight := s.inFlight.eraseIdx index, raised := s.raised ++ [mw.sessionId] }

def step (s : ToolCalls) : ToolCallStep → Option ToolCalls
  | .enter mw call node => some (s.enter mw call node)
  | .leave index handled =>
    match s.inFlight[index]? with
    | none => none
    | some (mw, call) => some (s.leave index mw call handled)

variable (sessionId : String)

def Within (maxToolCalls : Int) (s : ToolCalls) : Prop := s.started.count sessionId ≤ maxToolCalls.toNat

def running (s : ToolCalls) : Nat := (s.inFlight.map fun entry => entry.1.sessionId).count sessionId

def left (s : ToolCalls) : Int :=
  match s.world.budgets.get sessionId with
  | none => 0
  | some state => state.maxToolCalls - state.toolCalls

/-- A call is let through only while the calls left exceed those that run and those that raised. -/
def Fits (s : ToolCalls) : ToolCallStep → Prop
  | .enter mw call node =>
    mw.sessionId = sessionId → s.Lets mw call node →
      (s.running sessionId + s.raised.count sessionId : Int) < s.left sessionId
  | .leave _ _ => True

def Accounted (maxToolCalls : Int) (s : ToolCalls) : Prop :=
  ∃ state, s.world.budgets.get sessionId = some state ∧ state.maxToolCalls = maxToolCalls ∧ 0 ≤ state.toolCalls ∧
    state.toolCalls + s.running sessionId + s.raised.count sessionId = s.started.count sessionId

variable {sessionId} {s : ToolCalls} {mw : SecurityMiddleware} {call : ToolCall} {node : NodeRun} {maxToolCalls : Int}

theorem enter_let (through : s.Lets mw call node) :
    s.enter mw call node = { s with
      world := final (mw.gate call node) s.world, inFlight := s.inFlight ++ [(mw, call)]
      started := s.started ++ [mw.sessionId] } := by
  unfold Lets outcome at through
  unfold enter final
  cases ran : mw.gate call node s.world with
  | error e w =>
    rw [ran] at through
    cases through
  | ok blocked w =>
    rw [ran] at through
    cases through
    rfl

theorem enter_stopped (stopped : ¬ s.Lets mw call node) :
    s.enter mw call node = { s with world := final (mw.gate call node) s.world } := by
  unfold Lets outcome at stopped
  unfold enter final
  cases ran : mw.gate call node s.world with
  | error e w => rfl
  | ok blocked w =>
    cases blocked with
    | some message => rfl
    | none =>
      rw [ran] at stopped
      exact absurd rfl stopped

theorem step_leave {index : Nat} {handled : Except PyExc ToolMessage} {t : ToolCalls}
    (taken : s.step (.leave index handled) = some t) :
    ∃ mw call, s.inFlight[index]? = some (mw, call) ∧ t = s.leave index mw call handled := by
  simp only [step] at taken
  cases present : s.inFlight[index]? with
  | none =>
    rw [present] at taken
    cases taken
  | some entry =>
    rw [present] at taken
    cases taken
    exact ⟨entry.1, entry.2, rfl, rfl⟩

theorem running_leave (sessionId : String) {index : Nat} (present : s.inFlight[index]? = some (mw, call)) :
    s.running sessionId =
      ((s.inFlight.eraseIdx index).map fun entry => entry.1.sessionId).count sessionId +
        if mw.sessionId = sessionId then 1 else 0 := by
  obtain ⟨bound, found⟩ := List.getElem?_eq_some_iff.mp present
  have apart := (List.getElem_cons_eraseIdx_perm bound).map fun entry => entry.1.sessionId
  have counted := apart.count_eq sessionId
  unfold running
  rw [← counted, found, List.map_cons, List.count_cons]
  simp only [beq_iff_eq]

theorem accounted_enter (accounted : Accounted sessionId maxToolCalls s) :
    Accounted sessionId maxToolCalls (s.enter mw call node) := by
  obtain ⟨state, tracked, limit, nonneg, total⟩ := accounted
  by_cases through : s.Lets mw call node
  · rw [enter_let through]
    refine ⟨state, ?_, limit, nonneg, ?_⟩
    · show (final (mw.gate call node) s.world).budgets.get sessionId = some state
      rw [SecurityMiddleware.budgets_gate]
      exact tracked
    · unfold running at total ⊢
      simp only [List.map_append, List.count_append, List.map_cons, List.map_nil]
      omega
  · rw [enter_stopped through]
    refine ⟨state, ?_, limit, nonneg, total⟩
    show (final (mw.gate call node) s.world).budgets.get sessionId = some state
    rw [SecurityMiddleware.budgets_gate]
    exact tracked

theorem accounted_leave_error {index : Nat} {e : PyExc} (present : s.inFlight[index]? = some (mw, call))
    (accounted : Accounted sessionId maxToolCalls s) :
    Accounted sessionId maxToolCalls (s.leave index mw call (.error e)) := by
  obtain ⟨state, tracked, limit, nonneg, total⟩ := accounted
  have fewer := running_leave sessionId present
  have budgets := SecurityMiddleware.budgets_conclude mw call (.error e) s.world
  refine ⟨state, ?_, limit, nonneg, ?_⟩
  · show (final (mw.conclude call (.error e)) s.world).budgets.get sessionId = some state
    rw [budgets]
    exact tracked
  · show state.toolCalls + ((s.inFlight.eraseIdx index).map fun entry => entry.1.sessionId).count sessionId +
      (s.raised ++ [mw.sessionId]).count sessionId = s.started.count sessionId
    rw [List.count_append, List.count_singleton]
    by_cases own : mw.sessionId = sessionId
    · rw [if_pos own] at fewer
      rw [if_pos (beq_iff_eq.mpr own)]
      omega
    · rw [if_neg own] at fewer
      rw [if_neg fun same => own (beq_iff_eq.mp same)]
      omega

theorem accounted_leave_own {index : Nat} {message : ToolMessage}
    (present : s.inFlight[index]? = some (mw, call)) (within : Within mw.sessionId maxToolCalls s)
    (accounted : Accounted mw.sessionId maxToolCalls s) :
    Accounted mw.sessionId maxToolCalls (s.leave index mw call (.ok message)) := by
  obtain ⟨state, tracked, limit, nonneg, total⟩ := accounted
  have fewer := running_leave mw.sessionId present
  have budgets := SecurityMiddleware.budgets_conclude mw call (.ok message) s.world
  unfold Within at within
  rw [if_pos rfl] at fewer
  obtain ⟨after, recorded⟩ := JobBudgetTracker.recordToolCall_below tracked (by omega)
  have counted := JobBudgetTracker.recordToolCall_ok recorded mw.sessionId
  rw [if_pos rfl, tracked] at counted
  refine ⟨{ state with toolCalls := state.toolCalls + 1 }, ?_, limit, ?_, ?_⟩
  · show (final (mw.conclude call (.ok message)) s.world).budgets.get mw.sessionId = _
    rw [budgets]
    simp only [recorded]
    exact counted
  · show 0 ≤ state.toolCalls + 1
    omega
  · show state.toolCalls + 1 + ((s.inFlight.eraseIdx index).map fun entry => entry.1.sessionId).count mw.sessionId +
      s.raised.count mw.sessionId = s.started.count mw.sessionId
    omega

theorem accounted_leave_other {index : Nat} {message : ToolMessage} (other : mw.sessionId ≠ sessionId)
    (present : s.inFlight[index]? = some (mw, call)) (accounted : Accounted sessionId maxToolCalls s) :
    Accounted sessionId maxToolCalls (s.leave index mw call (.ok message)) := by
  obtain ⟨state, tracked, limit, nonneg, total⟩ := accounted
  have fewer := running_leave sessionId present
  have budgets := SecurityMiddleware.budgets_conclude mw call (.ok message) s.world
  rw [if_neg other] at fewer
  refine ⟨state, ?_, limit, nonneg, ?_⟩
  · show (final (mw.conclude call (.ok message)) s.world).budgets.get sessionId = some state
    rw [budgets]
    cases recorded : s.world.budgets.recordToolCall mw.sessionId with
    | error e => exact tracked
    | ok after =>
      have counted := JobBudgetTracker.recordToolCall_ok recorded sessionId
      rw [if_neg other.symm] at counted
      exact counted.trans tracked
  · show state.toolCalls + ((s.inFlight.eraseIdx index).map fun entry => entry.1.sessionId).count sessionId +
      s.raised.count sessionId = s.started.count sessionId
    omega

theorem accounted_leave {index : Nat} {handled : Except PyExc ToolMessage}
    (present : s.inFlight[index]? = some (mw, call)) (within : Within sessionId maxToolCalls s)
    (accounted : Accounted sessionId maxToolCalls s) :
    Accounted sessionId maxToolCalls (s.leave index mw call handled) := by
  cases handled with
  | error e => exact accounted_leave_error present accounted
  | ok message =>
    by_cases own : mw.sessionId = sessionId
    · subst own
      exact accounted_leave_own present within accounted
    · exact accounted_leave_other own present accounted

theorem accounted_step {action : ToolCallStep} {t : ToolCalls} (within : Within sessionId maxToolCalls s)
    (accounted : Accounted sessionId maxToolCalls s) (taken : s.step action = some t) :
    Accounted sessionId maxToolCalls t := by
  cases action with
  | enter mw call node =>
    cases taken
    exact accounted_enter accounted
  | leave index handled =>
    obtain ⟨mw, call, present, rfl⟩ := step_leave taken
    exact accounted_leave present within accounted

theorem started_leave (index : Nat) (handled : Except PyExc ToolMessage) :
    (s.leave index mw call handled).started = s.started := by
  cases handled <;> rfl

theorem within_step_iff {action : ToolCallStep} {t : ToolCalls} (within : Within sessionId maxToolCalls s)
    (accounted : Accounted sessionId maxToolCalls s) (taken : s.step action = some t) :
    Within sessionId maxToolCalls t ↔ s.Fits sessionId action := by
  cases action with
  | enter mw call node =>
    cases taken
    unfold Fits
    by_cases through : s.Lets mw call node
    · rw [enter_let through]
      by_cases own : mw.sessionId = sessionId
      · subst own
        obtain ⟨state, tracked, limit, nonneg, total⟩ := accounted
        have remaining : s.left mw.sessionId = maxToolCalls - state.toolCalls := by
          unfold left
          rw [tracked, ← limit]
        unfold Within
        rw [remaining, List.count_append, List.count_singleton_self]
        constructor
        · intro small _ _
          omega
        · intro fits
          have fewer := fits rfl through
          omega
      · unfold Within at within ⊢
        rw [List.count_append, List.count_singleton, if_neg (by simpa using own)]
        constructor
        · intro _ same
          exact absurd same own
        · intro _
          exact within
    · rw [enter_stopped through]
      constructor
      · intro _ _ lets
        exact absurd lets through
      · intro _
        exact within
  | leave index handled =>
    constructor
    · intro _
      trivial
    · intro _
      obtain ⟨mw, call, _, rfl⟩ := step_leave taken
      unfold Within
      rw [started_leave]
      exact within

theorem fits_alone (accounted : Accounted sessionId maxToolCalls s) (alone : s.running sessionId = 0)
    (none_raised : s.raised.count sessionId = 0) : s.Fits sessionId (.enter mw call node) := by
  intro own through
  obtain ⟨state, tracked, limit, nonneg, total⟩ := accounted
  subst own
  have below := (JobBudgetTracker.checkToolCall_none_iff tracked).mp (SecurityMiddleware.checked_gate through)
  unfold left
  rw [tracked, alone, none_raised]
  dsimp only
  omega

end ToolCalls

def World.budgeted (w : World) (sessionId : String) (maxTokens : Int) (maxCostUsd : Rat) (maxToolCalls : Int)
    (profileId : String) : World :=
  w.setBudgets (w.budgets.configure sessionId maxTokens maxCostUsd maxToolCalls profileId)

/-- No more handlers are started than the budget allows exactly while no call is let through with
    as many running or failed as it has left. -/
theorem started_within_iff_fits (w : World) (sessionId : String) (maxTokens : Int) (maxCostUsd : Rat)
    (maxToolCalls : Int) (profileId : String) {steps : List ToolCallStep} {t : ToolCalls}
    (reached : Transition.run ToolCalls.step
      { world := w.budgeted sessionId maxTokens maxCostUsd maxToolCalls profileId } steps = some t) :
    Transition.Always ToolCalls.step (ToolCalls.Within sessionId maxToolCalls)
        { world := w.budgeted sessionId maxTokens maxCostUsd maxToolCalls profileId } steps ↔
      Transition.Guarded ToolCalls.step (ToolCalls.Fits sessionId)
        { world := w.budgeted sessionId maxTokens maxCostUsd maxToolCalls profileId } steps := by
  apply Transition.always_iff_guarded (ToolCalls.Accounted sessionId maxToolCalls)
  · intro s action u accounted within _ taken
    exact ToolCalls.accounted_step within accounted taken
  · intro s action u accounted within taken
    exact ToolCalls.within_step_iff within accounted taken
  · exact ⟨{ maxTokens, maxCostUsd, maxToolCalls }, Dict.get?_set_self _ _ _, rfl, Int.le_refl 0, rfl⟩
  · exact Nat.zero_le _
  · exact reached

def autoMiddleware : SecurityMiddleware :=
  { sampleMiddleware with policy := { classifyToolRisk := fun _ _ => .low, hitlThreshold := fun _ => .high } }

def oneCall : ToolCalls := { world := World.budgeted {} "worker:soc:job-1" 50000 2 1 "cybersec-soc" }

def enterSample : ToolCallStep := .enter autoMiddleware sampleCall sampleNode

theorem one_call_within_iff_fits :
    Transition.Always ToolCalls.step (ToolCalls.Within "worker:soc:job-1" 1) oneCall
        [enterSample, .leave 0 (.ok (sampleCall.errorMessage ""))] ↔
      Transition.Guarded ToolCalls.step (ToolCalls.Fits "worker:soc:job-1") oneCall
        [enterSample, .leave 0 (.ok (sampleCall.errorMessage ""))] :=
  started_within_iff_fits {} "worker:soc:job-1" 50000 2 1 "cybersec-soc" rfl

theorem overrun_of_started {steps : List ToolCallStep} {t : ToolCalls}
    (reached : Transition.run ToolCalls.step oneCall steps = some t)
    (overrun : 1 < t.started.count "worker:soc:job-1") :
    ¬ Transition.Always ToolCalls.step (ToolCalls.Within "worker:soc:job-1" 1) oneCall steps := by
  intro always
  have within : t.started.count "worker:soc:job-1" ≤ 1 := always.last reached
  omega

/-- A second call passes the check while the first one runs, and after the first one failed. -/
theorem started_exceeds_budget :
    ¬ Transition.Always ToolCalls.step (ToolCalls.Within "worker:soc:job-1" 1) oneCall [enterSample, enterSample] ∧
      ¬ Transition.Always ToolCalls.step (ToolCalls.Within "worker:soc:job-1" 1) oneCall
        [enterSample, .leave 0 (.error (.exception "tool failed")), enterSample] :=
  ⟨overrun_of_started rfl (by decide), overrun_of_started rfl (by decide)⟩

end CysAgi
