import CysAgi.Runs.ManageRun

namespace CysAgi

open Py

namespace RunHistory

def Rejected (history : List RunEvent) (key : RunKey) : Prop := .decided key .reject ∈ history

def Awaits (key : RunKey) : List RunEvent → Prop
  | [] => False
  | .left run status :: earlier => (run = key ∧ status = .awaitingPlanApproval) ∨ Awaits key earlier
  | .decided run decision :: earlier => ¬ (run = key ∧ decision ≠ .reject) ∧ Awaits key earlier
  | .executed .. :: earlier => Awaits key earlier

/-- The runtime may be called in the context. -/
def Allowed (history : List RunEvent) (context : RunContext) : Prop :=
  ¬ Rejected history context.key ∧ (Awaits context.key history → context.effectiveMode ≠ .agent)

/-- Every call of the runtime was allowed by what had happened before it. -/
def Sound : List RunEvent → Prop
  | [] => True
  | .executed context _ _ _ :: earlier => Allowed earlier context ∧ Sound earlier
  | _ :: earlier => Sound earlier

instance (history : List RunEvent) (key : RunKey) : Decidable (Rejected history key) :=
  inferInstanceAs (Decidable (_ ∈ _))

instance decidableAwaits (key : RunKey) : (history : List RunEvent) → Decidable (Awaits key history)
  | [] => inferInstanceAs (Decidable False)
  | .left _ _ :: earlier =>
    have := decidableAwaits key earlier
    inferInstanceAs (Decidable (_ ∨ _))
  | .decided _ _ :: earlier =>
    have := decidableAwaits key earlier
    inferInstanceAs (Decidable (_ ∧ _))
  | .executed .. :: earlier => decidableAwaits key earlier

instance (history : List RunEvent) (context : RunContext) : Decidable (Allowed history context) :=
  inferInstanceAs (Decidable (_ ∧ _))

instance decidableSound : (history : List RunEvent) → Decidable (Sound history)
  | [] => inferInstanceAs (Decidable True)
  | .executed _ _ _ _ :: earlier =>
    have := decidableSound earlier
    inferInstanceAs (Decidable (_ ∧ _))
  | .left _ _ :: earlier => decidableSound earlier
  | .decided _ _ :: earlier => decidableSound earlier

def Executions (context : RunContext) (log : List RunEvent) : Prop :=
  ∀ event ∈ log, ∃ persona sessionId prompt, event = .executed context persona sessionId prompt

theorem Executions.append {context : RunContext} {calls more : List RunEvent} (executions : Executions context calls)
    (others : Executions context more) : Executions context (more ++ calls) :=
  fun event member => (List.mem_append.mp member).elim (others event) (executions event)

theorem executions_cons {context : RunContext} {event : RunEvent} {log : List RunEvent} :
    Executions context (event :: log) ↔
      (∃ persona sessionId prompt, event = .executed context persona sessionId prompt) ∧ Executions context log := by
  simp [Executions]

theorem executions_quiet {context : RunContext} {log : List RunEvent} (executions : Executions context log)
    (history : List RunEvent) (key : RunKey) :
    (Rejected (log ++ history) key ↔ Rejected history key) ∧ (Awaits key (log ++ history) ↔ Awaits key history) := by
  induction log with
  | nil => exact ⟨Iff.rfl, Iff.rfl⟩
  | cons event rest ih =>
    obtain ⟨⟨persona, sessionId, prompt, rfl⟩, later⟩ := executions_cons.mp executions
    obtain ⟨rejected, awaits⟩ := ih later
    refine ⟨?_, awaits⟩
    rw [← rejected]
    simp [Rejected]

theorem allowed_executions {context other : RunContext} {log : List RunEvent} (executions : Executions context log)
    {history : List RunEvent} (allowed : Allowed history other) : Allowed (log ++ history) other := by
  obtain ⟨rejected, awaits⟩ := executions_quiet executions history other.key
  exact ⟨fun closed => allowed.1 (rejected.mp closed), fun waiting => allowed.2 (awaits.mp waiting)⟩

theorem sound_executions {context : RunContext} {log : List RunEvent} (executions : Executions context log)
    {history : List RunEvent} (sound : Sound history) (allowed : Allowed history context) : Sound (log ++ history) := by
  induction log with
  | nil => exact sound
  | cons event rest ih =>
    obtain ⟨⟨persona, sessionId, prompt, rfl⟩, later⟩ := executions_cons.mp executions
    exact ⟨allowed_executions later allowed, ih later⟩

end RunHistory

open RunHistory

variable {α β : Type} {context : RunContext}

def Adds {α : Type} (context : RunContext) (m : RunEffect α) : Prop :=
  ∀ s, ∃ calls, Executions context calls ∧ (final m s).history = calls ++ s.history ∧
    (final m s).states = s.states

def Invokes {α : Type} (context : RunContext) (m : RunEffect α) : Prop :=
  ∀ s, ∃ calls, calls ≠ [] ∧ Executions context calls ∧ (final m s).history = calls ++ s.history ∧
    (final m s).states = s.states

structure LeftBy (context : RunContext) (state : RunState) : Prop where
  key : state.runContext.key = context.key
  unclosed : state.status ≠ .closed
  planned : state.status = .awaitingPlanApproval → context.effectiveMode = .plan

def LeavesAfter (context : RunContext) (calls : List RunEvent) (s t : RunStores) : Prop :=
  (t.history = calls ++ s.history ∧ t.states = s.states) ∨
    ∃ state : RunState, LeftBy context state ∧
      t.history = .left state.runContext.key state.status :: (calls ++ s.history) ∧ t.states = s.states.upsert state

def Ends {α : Type} (context : RunContext) (m : RunEffect α) : Prop :=
  ∀ s, ∃ calls, Executions context calls ∧ LeavesAfter context calls s (final m s)

theorem LeavesAfter.append {calls more : List RunEvent} {s t u : RunStores} (history : t.history = calls ++ s.history)
    (states : t.states = s.states) (leaves : LeavesAfter context more t u) :
    LeavesAfter context (more ++ calls) s u := by
  rcases leaves with ⟨grown, same⟩ | ⟨state, left, grown, stored⟩
  · exact .inl ⟨by rw [grown, history, List.append_assoc], by rw [same, states]⟩
  · exact .inr ⟨state, left, by rw [grown, history, List.append_assoc], by rw [stored, states]⟩

theorem Invokes.adds {m : RunEffect α} (called : Invokes context m) : Adds context m := by
  intro s
  obtain ⟨calls, -, executions, grown, states⟩ := called s
  exact ⟨calls, executions, grown, states⟩

namespace Adds

theorem silent {m : RunEffect α} (same : ∀ s, (final m s).history = s.history ∧ (final m s).states = s.states) :
    Adds context m := by
  intro s
  refine ⟨[], ?_, (same s).1, (same s).2⟩
  intro event member
  cases member

theorem pure (a : α) : Adds context (Pure.pure a : RunEffect α) := silent fun _ => ⟨rfl, rfl⟩

theorem resultOf (r : Except PyExc α) : Adds context (Py.resultOf r : RunEffect α) := by
  apply silent
  intro s
  rw [final_resultOf]
  exact ⟨rfl, rfl⟩

theorem ite {p : Prop} [Decidable p] {m n : RunEffect α} (yes : Adds context m) (no : Adds context n) :
    Adds context (if p then m else n) := by
  split
  · exact yes
  · exact no

theorem bind {m : RunEffect α} {f : α → RunEffect β} (first : Adds context m) (rest : ∀ a, Adds context (f a)) :
    Adds context (m >>= f) := by
  intro s
  obtain ⟨calls, executions, grown, states⟩ := first s
  rw [final_bind]
  cases outcome m s with
  | error raised => exact ⟨calls, executions, grown, states⟩
  | ok a =>
    obtain ⟨more, others, further, same⟩ := rest a (final m s)
    exact ⟨more ++ calls, executions.append others, by rw [further, grown, List.append_assoc], same.trans states⟩

end Adds

namespace Ends

theorem bind {m : RunEffect α} {f : α → RunEffect β} (first : Adds context m)
    (rest : ∀ s a, outcome m s = .ok a → Ends context (f a)) : Ends context (m >>= f) := by
  intro s
  obtain ⟨calls, executions, grown, states⟩ := first s
  rw [final_bind]
  cases answered : outcome m s with
  | error raised => exact ⟨calls, executions, .inl ⟨grown, states⟩⟩
  | ok a =>
    obtain ⟨more, others, leaves⟩ := rest s a answered (final m s)
    exact ⟨more ++ calls, executions.append others, leaves.append grown states⟩

end Ends

namespace Invokes

theorem bind {m : RunEffect α} {f : α → RunEffect β} (first : Invokes context m) (rest : ∀ a, Adds context (f a)) :
    Invokes context (m >>= f) := by
  intro s
  obtain ⟨calls, called, executions, grown, states⟩ := first s
  rw [final_bind]
  cases outcome m s with
  | error raised => exact ⟨calls, called, executions, grown, states⟩
  | ok a =>
    obtain ⟨more, others, further, same⟩ := rest a (final m s)
    exact ⟨more ++ calls, by simp [called], executions.append others, by rw [further, grown, List.append_assoc],
      same.trans states⟩

theorem then_ends {m : RunEffect α} {f : α → RunEffect β} (first : Invokes context m)
    (rest : ∀ s a, outcome m s = .ok a → Ends context (f a)) (s : RunStores) :
    ∃ calls, calls ≠ [] ∧ Executions context calls ∧ LeavesAfter context calls s (final (m >>= f) s) := by
  obtain ⟨calls, called, executions, grown, states⟩ := first s
  rw [final_bind]
  cases answered : outcome m s with
  | error raised => exact ⟨calls, called, executions, .inl ⟨grown, states⟩⟩
  | ok a =>
    obtain ⟨more, others, leaves⟩ := rest s a answered (final m s)
    exact ⟨more ++ calls, by simp [called], executions.append others, leaves.append grown states⟩

end Invokes

namespace RunStep

variable (deps : RunStepDeps) (context : RunContext)

theorem final_arun (persona sessionId prompt : String) (s : RunStores) :
    final (arun deps context persona sessionId prompt) s = s.record (.executed context persona sessionId prompt) := by
  unfold arun
  rw [final_bind]
  simp only [outcome, final, run_get]
  change final (_ >>= _) s = _
  rw [final_bind]
  simp only [outcome, final, run_modify]
  exact final_resultOf _ _

theorem calls_arun (persona sessionId prompt : String) :
    Invokes context (arun deps context persona sessionId prompt) := by
  intro s
  rw [final_arun]
  refine ⟨[.executed context persona sessionId prompt], List.cons_ne_nil _ _, ?_, rfl, rfl⟩
  intro event member
  exact ⟨persona, sessionId, prompt, List.mem_singleton.mp member⟩

theorem calls_runConductor (persona sessionId prompt : String) (reruns : Nat) (state : RunState)
    (todos : List WorkTodo) :
    Invokes context (runConductor deps context persona sessionId reruns prompt state todos) := by
  induction reruns using Nat.strongRecOn generalizing prompt state todos with
  | ind reruns again =>
    unfold runConductor
    refine (calls_arun deps context persona sessionId prompt).bind fun answer => ?_
    refine .bind (.resultOf _) fun merged => ?_
    refine .bind (.silent fun _ => ⟨rfl, rfl⟩) fun _ => ?_
    refine .bind (.resultOf _) fun enriched => ?_
    refine .ite (.pure _) (.bind (.resultOf _) fun verdict => ?_)
    refine .ite ?_ (.pure _)
    cases reruns with
    | zero => exact .ite (.pure _) (.pure _)
    | succ fewer => exact .bind (.resultOf _) fun prompt => (again fewer (Nat.lt_succ_self _) _ _ _).adds

theorem prepare_runContext {deps : RunStepDeps} {context : RunContext} {stores : RunStores}
    {userInput persona prompt : String} {state : RunState} {todos : List WorkTodo}
    (prepared : prepare deps stores context userInput persona = .ok (state, todos, prompt)) :
    state.runContext.key = context.key := by
  unfold prepare at prepared
  extract_lets found stored listed hinted build summarize at prepared
  have start : found.runContext.key = context.key := by
    unfold found
    cases known : stores.states.get context.key with
    | none => rfl
    | some state => exact RunStateStore.key_of_get known
  have built : ∀ noted, build noted = .ok (state, todos, prompt) → state.runContext = noted.runContext := by
    intro noted done
    obtain ⟨text, -, made⟩ := except_bind_ok.mp done
    exact (congrArg (·.1.runContext) (Except.ok.inj made)).symm
  have summarized : ∀ noted, summarize noted = .ok (state, todos, prompt) → state.runContext = noted.runContext := by
    intro noted done
    unfold summarize at done
    dsimp only at done
    split at done
    · obtain ⟨summary, -, done⟩ := except_bind_ok.mp done
      have same := built _ done
      exact same
    · exact built _ done
  split at prepared
  · obtain ⟨notes, -, prepared⟩ := except_bind_ok.mp prepared
    rw [summarized _ prepared]
    exact start
  · rw [summarized _ prepared]
    exact start

theorem runConductor_runContext {deps : RunStepDeps} {context : RunContext} {persona sessionId : String} {reruns : Nat}
    {prompt : String} {state later : RunState} {todos : List WorkTodo} {s t : RunStores} {result : JsonDict}
    (ran : runConductor deps context persona sessionId reruns prompt state todos s = .ok (result, later) t) :
    later.runContext = state.runContext := by
  induction reruns using Nat.strongRecOn generalizing prompt state todos s with
  | ind reruns again =>
    unfold runConductor at ran
    obtain ⟨answer, s₁, called, ran⟩ := run_bind_ok.mp ran
    obtain ⟨merged, s₂, read, ran⟩ := run_bind_ok.mp ran
    obtain ⟨_, s₃, replaced, ran⟩ := run_bind_ok.mp ran
    obtain ⟨enriched, s₄, done, ran⟩ := run_bind_ok.mp ran
    dsimp only at ran
    split at ran
    · cases ran
      rfl
    · obtain ⟨verdict, s₅, judged, ran⟩ := run_bind_ok.mp ran
      split at ran
      · cases reruns with
        | zero =>
          dsimp only at ran
          split at ran <;> cases ran <;> rfl
        | succ fewer =>
          obtain ⟨prompt, s₆, built, ran⟩ := run_bind_ok.mp ran
          have same := again fewer (Nat.lt_succ_self fewer) ran
          exact same
      · cases ran
        rfl

theorem ends_finish {state : RunState} (left : LeftBy context state) : Ends context (finish context state) := by
  intro s
  refine ⟨[], ?_, .inr ⟨state, left, rfl, rfl⟩⟩
  intro event member
  cases member

theorem ends_finishPlan {state : RunState} (key : state.runContext.key = context.key)
    (plan : context.effectiveMode = .plan) (made : WorkPlan) : Ends context (finishPlan context state made) := by
  unfold finishPlan
  split
  · exact ends_finish context ⟨key, by simp, fun _ => plan⟩
  · exact .bind (.silent fun _ => ⟨rfl, rfl⟩) fun _ _ _ => ends_finish context ⟨key, by simp, fun _ => plan⟩

theorem statusFromResult_ne_closed (result : JsonDict) (mode : InteractionMode) :
    statusFromResult result mode ≠ .closed := by
  unfold statusFromResult
  split_ifs <;> decide

theorem plan_of_statusFromResult {result : JsonDict} {mode : InteractionMode}
    (awaits : statusFromResult result mode = .awaitingPlanApproval) : mode = .plan := by
  unfold statusFromResult at awaits
  split_ifs at awaits with _ _ plan
  exact plan

theorem maybeFailedSummary_kept {deps : RunStepDeps} {state summarized : RunState} {userInput : String}
    (ok : maybeFailedSummary deps state userInput = .ok summarized) :
    summarized.runContext = state.runContext ∧ summarized.lastResult = state.lastResult ∧
      summarized.status = state.status := by
  unfold maybeFailedSummary at ok
  split at ok
  · obtain ⟨summary, -, made⟩ := except_bind_ok.mp ok
    cases made
    exact ⟨rfl, rfl, rfl⟩
  · cases ok
    exact ⟨rfl, rfl, rfl⟩

def Reaches (stores : RunStores) (userInput persona : String) : Prop :=
  ∃ prepared, prepare deps stores context userInput persona = .ok prepared

theorem execute_spec (userInput persona : String) (s : RunStores) :
    ∃ calls, Executions context calls ∧ (calls = [] ↔ ¬ Reaches deps context s userInput persona) ∧
      LeavesAfter context calls s (final (execute deps context userInput persona) s) := by
  unfold execute
  rw [final_bind]
  simp only [outcome, final, run_get]
  change ∃ calls, _ ∧ _ ∧ LeavesAfter context calls s (final (_ >>= _) s)
  rw [final_bind]
  simp only [outcome_resultOf, final_resultOf]
  cases prepared : prepare deps s context userInput persona with
  | error raised =>
    refine ⟨[], ?_, ?_, .inl ⟨rfl, rfl⟩⟩
    · intro event member
      cases member
    · simp [Reaches, prepared]
  | ok step =>
    have reaches : Reaches deps context s userInput persona := ⟨step, prepared⟩
    have key := prepare_runContext prepared
    suffices steps : ∃ calls, calls ≠ [] ∧ Executions context calls ∧ LeavesAfter context calls s _ by
      obtain ⟨calls, called, executions, leaves⟩ := steps
      exact ⟨calls, executions, iff_of_false called (not_not_intro reaches), leaves⟩
    dsimp only
    split
    · next plan =>
      refine (calls_arun deps context persona _ _).then_ends (fun _ _ _ => ?_) s
      exact .bind (.resultOf _) fun _ parsed _ => ends_finishPlan context key plan _
    · split
      · refine (calls_runConductor deps context persona _ _ _ _ _).then_ends (fun u conducted answered => ?_) s
        have same := runConductor_runContext (run_of_outcome_ok answered)
        refine .bind (.resultOf _) fun t summarized answered => ends_finish context ?_
        rw [outcome_resultOf] at answered
        obtain ⟨kept, -, status⟩ := maybeFailedSummary_kept answered
        refine ⟨?_, ?_, ?_⟩
        · rw [kept, ← key, ← same]
        · rw [status]
          exact statusFromResult_ne_closed _ _
        · rw [status]
          exact plan_of_statusFromResult
      · refine (calls_arun deps context persona _ _).then_ends (fun _ _ _ => ?_) s
        exact ends_finish context ⟨key, by simp, by simp⟩

end RunStep

end CysAgi
