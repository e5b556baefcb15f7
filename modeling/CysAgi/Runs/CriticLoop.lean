import CysAgi.Base.Iteration
import CysAgi.Runs.RunHistory

namespace CysAgi

open Py

structure ConductorRun where
  stores : RunStores
  state : RunState

abbrev ConductorEffect := EStateM PyExc ConductorRun

namespace ConductorRun

def onStores {α : Type} (m : RunEffect α) : ConductorEffect α := fun run =>
  match m run.stores with
  | .ok a stores => .ok a { run with stores }
  | .error raised stores => .error raised { run with stores }

def onState (f : RunState → RunState) : ConductorEffect Unit := modify fun run => { run with state := f run.state }

def calls (run : ConductorRun) : Nat :=
  run.stores.history.countP fun event => match event with
    | .executed .. => true
    | _ => false

end ConductorRun

namespace RunStep

variable (deps : RunStepDeps) (context : RunContext) (persona sessionId : String)

open ConductorRun

/-- `_run_conductor` up to the verdict of the critic, where it is asked for one. -/
def conductorAnswer (prompt : String) (todos : List WorkTodo) :
    ConductorEffect (JsonDict × List WorkTodo × Option TraceVerdict) := do
  let result := asDict (← onStores (arun deps context persona sessionId prompt))
  let todos ← resultOf (mergeTodosFromResult deps result todos)
  onStores (modify fun s => s.replaceTodos context todos)
  onState fun state => { state with todos }
  let enriched ← resultOf (deps.enrichConductorResult result (orElse (← get).state.goal prompt))
  let result := JsonDict.set enriched "spawn_requests" (.arr (filterSpawnRequestsBySgr enriched))
  onState fun state => persistSgrFieldsToState deps state result
  onState fun state => { state with stepCount := state.stepCount + 1 }
  let state := (← get).state
  if JsonDict.get? result "enough_data" = some (.bool true) ∨ ¬ deps.traceCriticEnabled ∨ ¬ conducts persona ∨
      state.stepCount % deps.traceCriticEvery context.profileId ≠ 0 then
    return (result, todos, none)
  else
    let verdict ← resultOf (deps.traceCritic (orElse state.goal prompt) result state.stepCount)
    onState fun state => { state with lastTraceVerdict := verdict.modelDump }
    return (result, todos, some verdict)

def countRerun (verdict : TraceVerdict) (state : RunState) : RunState :=
  { state with
    traceRerunCount := state.traceRerunCount + 1
    reasoningNotes := state.reasoningNotes ++ [s!"trace_critic: {improvement verdict}"] }

/-- The rest of `_run_conductor`: what it returns, or the prompt and the todos that it calls itself with. -/
def conductorNext (result : JsonDict) (todos : List WorkTodo) (verdict : TraceVerdict) :
    ConductorEffect (JsonDict ⊕ String × List WorkTodo) := do
  if verdict.shouldRerun then
    let result := JsonDict.set result "trace_critic" (.obj verdict.modelDump)
    if (← get).state.traceRerunCount < deps.traceCriticRerunMax context.profileId then
      onState (countRerun verdict)
      let prompt ← resultOf (buildStepPrompt deps (← get).state
        s!"Rerun requested by trace critic. Address: {improvement verdict}" context todos)
      return .inr (prompt, todos)
    else if deps.hitlOnExhausted context.profileId then
      return .inl (JsonDict.set (JsonDict.set result "trace_critic_escalation" (.bool true)) "status"
        (.str "awaiting_user"))
    else return .inl result
  else return .inl result

def conductorTurn (args : String × List WorkTodo) : ConductorEffect (JsonDict ⊕ String × List WorkTodo) := do
  let (result, todos, verdict) ← conductorAnswer deps context persona sessionId args.1 args.2
  match verdict with
  | none => return .inl result
  | some verdict => conductorNext deps context result todos verdict

/-- `_run_conductor`, as far as so many calls of it go. -/
def runConductorFor (calls : Nat) (args : String × List WorkTodo) : ConductorEffect (Option JsonDict) :=
  Iteration.iterate (conductorTurn deps context persona sessionId) calls args

variable {deps context persona sessionId} {P : ConductorRun → Prop}

theorem preserves_onStores {α : Type} {m : RunEffect α}
    (kept : ∀ run, P run → P { run with stores := final m run.stores }) : Preserves P (onStores m) := by
  intro run holds
  have after := kept run holds
  unfold final onStores at *
  cases ran : m run.stores with
  | ok a stores =>
    rw [ran] at after
    exact after
  | error raised stores =>
    rw [ran] at after
    exact after

theorem preserves_onState {f : RunState → RunState} (kept : ∀ run, P run → P { run with state := f run.state }) :
    Preserves P (onState f) := Preserves.update kept

def Answered (before run : ConductorRun) : Prop :=
  run.calls = before.calls + 1 ∧ run.state.traceRerunCount = before.state.traceRerunCount

theorem answered_arun (prompt : String) (run : ConductorRun) :
    Answered run (final (onStores (arun deps context persona sessionId prompt)) run) := by
  have called := final_arun deps context persona sessionId prompt run.stores
  unfold Answered final onStores calls at *
  cases ran : arun deps context persona sessionId prompt run.stores with
  | ok answer stores =>
    rw [ran] at called
    dsimp only at called ⊢
    rw [called]
    exact ⟨List.countP_cons_of_pos rfl, rfl⟩
  | error raised stores =>
    rw [ran] at called
    dsimp only at called ⊢
    rw [called]
    exact ⟨List.countP_cons_of_pos rfl, rfl⟩

variable (deps context persona sessionId) in
theorem answered_conductorAnswer (prompt : String) (todos : List WorkTodo) (run : ConductorRun) :
    Answered run (final (conductorAnswer deps context persona sessionId prompt todos) run) := by
  unfold conductorAnswer
  refine Preserves.after (answered_arun prompt run) fun answer => ?_
  refine .bind (.resultOf _) fun merged => ?_
  refine .bind (preserves_onStores fun _ held => held) fun _ => ?_
  refine .bind (preserves_onState fun _ held => held) fun _ => ?_
  refine .bind .get fun later => ?_
  refine .bind (.resultOf _) fun enriched => ?_
  refine .bind (preserves_onState fun _ held => held) fun _ => ?_
  refine .bind (preserves_onState fun _ held => held) fun _ => ?_
  refine .bind .get fun later => ?_
  dsimp only
  split
  · exact .pure _
  · refine .bind (.resultOf _) fun verdict => ?_
    exact .bind (preserves_onState fun _ held => held) fun _ => .pure _

def rerunPrompt (deps : RunStepDeps) (context : RunContext) (todos : List WorkTodo) (verdict : TraceVerdict)
    (state : RunState) : Except PyExc String :=
  buildStepPrompt deps (countRerun verdict state)
    s!"Rerun requested by trace critic. Address: {improvement verdict}" context todos

theorem conductorNext_rerun {result : JsonDict} {todos : List WorkTodo} {verdict : TraceVerdict} {run : ConductorRun}
    (again : verdict.shouldRerun = true)
    (left : run.state.traceRerunCount < deps.traceCriticRerunMax context.profileId) :
    conductorNext deps context result todos verdict run =
      match rerunPrompt deps context todos verdict run.state with
      | .ok prompt => .ok (.inr (prompt, todos)) { run with state := countRerun verdict run.state }
      | .error raised => .error raised { run with state := countRerun verdict run.state } := by
  unfold conductorNext
  rw [if_pos again]
  change (if run.state.traceRerunCount < deps.traceCriticRerunMax context.profileId then _ else _ :
    ConductorEffect _) run = _
  rw [if_pos left]
  change (resultOf (rerunPrompt deps context todos verdict run.state) >>= _ : ConductorEffect _) _ = _
  rw [run_bind, run_resultOf]
  cases rerunPrompt deps context todos verdict run.state <;> rfl

theorem conductorNext_exhausted {result : JsonDict} {todos : List WorkTodo} {verdict : TraceVerdict}
    {run : ConductorRun} (again : verdict.shouldRerun = true)
    (none : ¬run.state.traceRerunCount < deps.traceCriticRerunMax context.profileId) :
    conductorNext deps context result todos verdict run =
      let result := JsonDict.set result "trace_critic" (.obj verdict.modelDump)
      .ok (.inl (if deps.hitlOnExhausted context.profileId then
        JsonDict.set (JsonDict.set result "trace_critic_escalation" (.bool true)) "status" (.str "awaiting_user")
      else result)) run := by
  unfold conductorNext
  rw [if_pos again]
  change (if run.state.traceRerunCount < deps.traceCriticRerunMax context.profileId then _ else _ :
    ConductorEffect _) run = _
  rw [if_neg none]
  split <;> rfl

theorem conductorNext_cases (result : JsonDict) (todos : List WorkTodo) (verdict : TraceVerdict) (run : ConductorRun) :
    (∃ ended, conductorNext deps context result todos verdict run = .ok (.inl ended) run) ∨
      run.state.traceRerunCount < deps.traceCriticRerunMax context.profileId ∧
        ((∃ args, conductorNext deps context result todos verdict run =
            .ok (.inr args) { run with state := countRerun verdict run.state }) ∨
          ∃ raised, conductorNext deps context result todos verdict run =
            .error raised { run with state := countRerun verdict run.state }) := by
  by_cases again : verdict.shouldRerun = true
  · by_cases left : run.state.traceRerunCount < deps.traceCriticRerunMax context.profileId
    · refine .inr ⟨left, ?_⟩
      rw [conductorNext_rerun again left]
      cases rerunPrompt deps context todos verdict run.state with
      | error raised => exact .inr ⟨raised, rfl⟩
      | ok prompt => exact .inl ⟨_, rfl⟩
    · exact .inl ⟨_, conductorNext_exhausted again left⟩
  · left
    unfold conductorNext
    rw [if_neg again]
    exact ⟨result, rfl⟩

variable (deps context persona sessionId)

theorem conductorTurn_counts (args : String × List WorkTodo) (run : ConductorRun) :
    (final (conductorTurn deps context persona sessionId args) run).calls = run.calls + 1 ∧
      ((final (conductorTurn deps context persona sessionId args) run).state.traceRerunCount =
            run.state.traceRerunCount ∧
          (∀ next t, conductorTurn deps context persona sessionId args run ≠ .ok (.inr next) t) ∨
        run.state.traceRerunCount < deps.traceCriticRerunMax context.profileId ∧
          (final (conductorTurn deps context persona sessionId args) run).state.traceRerunCount =
            run.state.traceRerunCount + 1) := by
  have answered := answered_conductorAnswer deps context persona sessionId args.1 args.2 run
  unfold final at answered ⊢
  unfold conductorTurn
  rw [run_bind]
  cases ran : conductorAnswer deps context persona sessionId args.1 args.2 run with
  | error raised later =>
    rw [ran] at answered
    exact ⟨answered.1, .inl ⟨answered.2, fun _ _ same => by cases same⟩⟩
  | ok answer later =>
    rw [ran] at answered
    obtain ⟨calls, counted⟩ := answered
    dsimp only at calls counted
    obtain ⟨result, todos, verdict⟩ := answer
    cases verdict with
    | none => exact ⟨calls, .inl ⟨counted, fun _ _ same => by cases same⟩⟩
    | some verdict =>
      dsimp only
      rw [← counted]
      obtain ⟨ended, ends⟩ | ⟨left, ⟨next, goes⟩ | ⟨raised, raises⟩⟩ :=
        @conductorNext_cases deps context result todos verdict later
      · rw [ends]
        exact ⟨calls, .inl ⟨rfl, fun _ _ same => by cases same⟩⟩
      · rw [goes]
        exact ⟨calls, .inr ⟨left, rfl⟩⟩
      · rw [raises]
        exact ⟨calls, .inr ⟨left, rfl⟩⟩

def rerunsLeft (deps : RunStepDeps) (context : RunContext) (run : ConductorRun) : Nat :=
  (deps.traceCriticRerunMax context.profileId - run.state.traceRerunCount).toNat

theorem bounded_conductorTurn :
    Iteration.Bounded (conductorTurn deps context persona sessionId) (rerunsLeft deps context) calls where
  continues args run next t goes := by
    obtain ⟨-, ⟨-, ends⟩ | ⟨left, counted⟩⟩ := conductorTurn_counts deps context persona sessionId args run
    · exact absurd goes (ends next t)
    · unfold final at counted
      rw [goes] at counted
      dsimp only at counted
      unfold rerunsLeft
      omega
  costs args run := by
    rw [(conductorTurn_counts deps context persona sessionId args run).1]

theorem preserves_count (most : Int) (enough : deps.traceCriticRerunMax context.profileId ≤ most)
    (args : String × List WorkTodo) :
    Preserves (fun run => run.state.traceRerunCount ≤ most) (conductorTurn deps context persona sessionId args) := by
  intro run below
  obtain ⟨-, ⟨same, -⟩ | ⟨left, counted⟩⟩ := conductorTurn_counts deps context persona sessionId args run
  · exact same.trans_le below
  · omega

/-- However the runtime and the critic answer, `_run_conductor` comes to an end, and however far it is, the runtime
    was called once, and once more for each rerun that was left, at most. -/
theorem critic_loop_ends (calls : Nat) (args : String × List WorkTodo) (run : ConductorRun) :
    let limit := deps.traceCriticRerunMax context.profileId
    let reruns := max 0 (limit - run.state.traceRerunCount)
    let after := final (runConductorFor deps context persona sessionId calls args) run
    outcome (runConductorFor deps context persona sessionId (reruns.toNat + 1 + calls) args) run ≠ .ok none ∧
      (after.calls : Int) ≤ run.calls + (reruns + 1) ∧
      after.state.traceRerunCount ≤ max run.state.traceRerunCount limit := by
  intro limit reruns after
  have bounded := bounded_conductorTurn deps context persona sessionId
  have left : (rerunsLeft deps context run : Int) = reruns := by
    unfold rerunsLeft
    omega
  refine ⟨?_, ?_, ?_⟩
  · apply bounded.returns args run
    omega
  · have cost := bounded.cost_iterate calls args run
    have most : after.calls ≤ run.calls + rerunsLeft deps context run + 1 := cost
    omega
  · have kept := Iteration.preserves_iterate
      (preserves_count deps context persona sessionId (max run.state.traceRerunCount limit) (Int.le_max_right _ _))
    exact kept calls args run (Int.le_max_left _ _)

theorem runConductor_step (reruns : Nat) (prompt : String) (todos : List WorkTodo) (run : ConductorRun) :
    runConductor deps context persona sessionId reruns prompt run.state todos run.stores =
      match conductorAnswer deps context persona sessionId prompt todos run with
      | .error raised t => .error raised t.stores
      | .ok (result, _, none) t => .ok (result, t.state) t.stores
      | .ok (result, todos, some verdict) t =>
        if verdict.shouldRerun then
          let result := JsonDict.set result "trace_critic" (.obj verdict.modelDump)
          match reruns with
          | reruns + 1 =>
            match rerunPrompt deps context todos verdict t.state with
            | .error raised => .error raised t.stores
            | .ok prompt =>
              runConductor deps context persona sessionId reruns prompt (countRerun verdict t.state) todos t.stores
          | 0 => .ok (if deps.hitlOnExhausted context.profileId then
              JsonDict.set (JsonDict.set result "trace_critic_escalation" (.bool true)) "status" (.str "awaiting_user")
            else result, t.state) t.stores
        else .ok (result, t.state) t.stores := by
  obtain ⟨stores, state⟩ := run
  conv_lhs => unfold runConductor
  unfold conductorAnswer
  simp only [run_bind, onStores, onState, run_resultOf, run_modify, run_get]
  cases arun deps context persona sessionId prompt stores with
  | error raised stores => rfl
  | ok answer stores =>
    dsimp only
    cases mergeTodosFromResult deps (asDict answer) todos with
    | error raised => rfl
    | ok todos =>
      dsimp only
      cases deps.enrichConductorResult (asDict answer) (orElse state.goal prompt) with
      | error raised => rfl
      | ok enriched =>
        dsimp only
        generalize JsonDict.set enriched "spawn_requests" (.arr (filterSpawnRequestsBySgr enriched)) = result
        generalize persistSgrFieldsToState deps { state with todos } result = kept
        split
        · rfl
        · simp only [run_bind, run_resultOf]
          cases deps.traceCritic (orElse kept.goal prompt) result (kept.stepCount + 1) with
          | error raised => rfl
          | ok verdict =>
            simp only [run_modify, run_pure]
            by_cases again : verdict.shouldRerun = true
            · rw [if_pos again, if_pos again]
              cases reruns with
              | zero =>
                dsimp only
                split
                · rfl
                · rfl
              | succ reruns =>
                dsimp only
                rw [run_bind, run_resultOf]
                unfold rerunPrompt countRerun
                generalize buildStepPrompt deps _ _ context todos = prompted
                cases prompted with
                | error raised => rfl
                | ok prompt => rfl
            · rw [if_neg again, if_neg again]
              rfl

theorem runConductor_of_ends (calls : Nat) (args : String × List WorkTodo) (run : ConductorRun) :
    match runConductorFor deps context persona sessionId calls args run with
    | .ok (some result) t =>
      runConductor deps context persona sessionId (rerunsLeft deps context run) args.1 run.state args.2 run.stores =
        .ok (result, t.state) t.stores
    | .error raised t =>
      runConductor deps context persona sessionId (rerunsLeft deps context run) args.1 run.state args.2 run.stores =
        .error raised t.stores
    | .ok none _ => True := by
  induction calls generalizing args run with
  | zero => trivial
  | succ calls ih =>
    unfold runConductorFor at ih ⊢
    rw [Iteration.iterate_succ, runConductor_step]
    have counted := (answered_conductorAnswer deps context persona sessionId args.1 args.2 run).2
    unfold final at counted
    unfold conductorTurn
    rw [run_bind]
    cases answered : conductorAnswer deps context persona sessionId args.1 args.2 run with
    | error raised t => rfl
    | ok answer t =>
      rw [answered] at counted
      obtain ⟨result, todos, verdict⟩ := answer
      cases verdict with
      | none => rfl
      | some verdict =>
        dsimp only at counted ⊢
        by_cases again : verdict.shouldRerun = true
        · rw [if_pos again]
          by_cases left : t.state.traceRerunCount < deps.traceCriticRerunMax context.profileId
          · have more : rerunsLeft deps context run =
                rerunsLeft deps context { t with state := countRerun verdict t.state } + 1 := by
              unfold rerunsLeft countRerun
              dsimp only
              omega
            rw [conductorNext_rerun again left, more]
            cases rerunPrompt deps context todos verdict t.state with
            | error raised => rfl
            | ok prompt => exact ih (prompt, todos) { t with state := countRerun verdict t.state }
          · rw [conductorNext_exhausted again left]
            have none : rerunsLeft deps context run = 0 := by
              unfold rerunsLeft
              omega
            rw [none]
        · have ended : conductorNext deps context result todos verdict t = .ok (.inl result) t := by
            unfold conductorNext
            rw [if_neg again]
            rfl
          rw [if_neg again, ended]

end RunStep

end CysAgi
