import CysAgi.Base.Effect
import CysAgi.Runs.RunState

namespace CysAgi

open Py

structure TraceVerdict where
  score : Rat := 0
  verdict : String := ""
  reasoning : String := ""
  shouldRerun : Bool := false
  issues : List String := []

def TraceVerdict.modelDump (verdict : TraceVerdict) : JsonDict :=
  [("score", .float verdict.score), ("verdict", .str verdict.verdict), ("reasoning", .str verdict.reasoning),
    ("should_rerun", .bool verdict.shouldRerun), ("issues", .arr (verdict.issues.map .str))]

/-- What `RunStep` is wired with, besides its stores, and the configuration that it reads. Every
    collaborator is given as the answer to its call; the runtime's answer may depend on all that
    has happened before. -/
structure RunStepDeps where
  arun : RunEvent → List RunEvent → Except PyExc Json
  lessons : RunContext → List String := fun _ => []
  taskHints : String → Except PyExc (List String) := fun _ => .ok []
  taskHintsEnabled : Bool := false
  summarize : String → String → String → Except PyExc String := fun _ _ prior => .ok prior
  loadPlanHints : Except PyExc (List Json) := .ok []
  listSkillMetadata : String → Except PyExc Json := fun _ => .ok (.arr [])
  processAttachmentHints : List String → Except PyExc Json := fun _ => .ok (.arr [])
  strictPlan : Bool := false
  dumps : Json → String
  str : Json → String
  validatePlan : JsonDict → Except PyExc WorkPlan
  validateTodo : Json → Except PyExc WorkTodo
  typeError : Json → String
  mergePlanDelta : List WorkTodo → JsonDict → Except PyExc (List WorkTodo) := fun todos _ => .ok todos
  enrichConductorResult : JsonDict → String → Except PyExc JsonDict := fun result _ => .ok result
  traceCritic : String → JsonDict → Nat → Except PyExc TraceVerdict := fun _ _ _ => .ok {}
  traceCriticEnabled : Bool := false
  /-- `max(1, every_n_steps)` of a profile. -/
  traceCriticEvery : String → Nat := fun _ => 1
  traceCriticRerunMax : String → Int := fun _ => 1
  hitlOnExhausted : String → Bool := fun _ => false

def checkpointKey (context : RunContext) (persona : String) : String :=
  if context.kind = .session ∨ context.kind = .investigation then s!"run:{context.kind.value}:{context.contextId}"
  else if persona ≠ "" ∧ context.kind = .job then s!"worker:{persona}:{context.contextId}"
  else s!"run:{context.kind.value}:{context.contextId}"

def formatTodoSnapshot : List WorkTodo → String
  | [] => "Plan progress (todo.md): no steps yet. Emit plan_delta with numbered todos."
  | todos =>
    "\n".intercalate ("Plan progress (todo.md):" :: (todos.zipIdx.map line ++
      ["Update every turn: set plan_delta.todos with id, content, status " ++
        "(pending|in_progress|done|failed|cancelled), and optional note."]))
where
  upper : TodoStatus → String
    | .pending => "PENDING"
    | .inProgress => "IN_PROGRESS"
    | .done => "DONE"
    | .failed => "FAILED"
    | .cancelled => "CANCELLED"
  line (entry : WorkTodo × Nat) : String :=
    let note := if entry.1.assignedPersona = "" then "" else s!" — assigned: {entry.1.assignedPersona}"
    s!"{entry.2 + 1}. {upper entry.1.status} — {entry.1.content}{note}"

def hasFailedTodos (todos : List WorkTodo) : Bool := todos.any fun todo => todo.status = .failed

def statusFromResult (result : JsonDict) (mode : InteractionMode) : RunStatus :=
  if JsonDict.get? result "status" = some (.str "awaiting_user") then .awaitingUser
  else if (JsonDict.getD result "trace_critic_escalation" .null).truthy then .awaitingUser
  else if mode = .plan then .awaitingPlanApproval
  else .inProgress

def filterSpawnRequestsBySgr (result : JsonDict) : List Json :=
  match JsonDict.getD result "spawn_requests" .null with
  | .arr requests =>
    if (JsonDict.getD result "task_completed" .null).truthy then []
    else if noneRemain (JsonDict.getD result "remaining_steps" .null) &&
      (JsonDict.getD result "enough_data" .null).truthy then []
    else requests.filter isObject
  | _ => []
where
  noneRemain : Json → Bool
    | .arr steps => steps.isEmpty
    | value => !value.truthy
  isObject : Json → Bool
    | .obj _ => true
    | _ => false

namespace RunStep

variable (deps : RunStepDeps)

def injectReflexionHints (state : RunState) (context : RunContext) : RunState :=
  { state with
    reasoningNotes := (deps.lessons context).foldl (fun notes lesson =>
      let note := s!"reflexion: {lesson}"
      if note ∈ notes then notes else notes ++ [note]) state.reasoningNotes }

def attachmentPaths (state : RunState) : List String :=
  state.attachments.filterMap fun
    | .obj item =>
      let path := JsonDict.getD item "path" .null
      if path.truthy then some (deps.str path) else none
    | .str path => some path
    | _ => none

/-- `_build_step_prompt`. The prompt is all that tells the runtime the mode. -/
def buildStepPrompt (state : RunState) (userInput : String) (context : RunContext) (todos : List WorkTodo) :
    Except PyExc String := do
  let routingHints ← deps.loadPlanHints
  let skillCatalog ← deps.listSkillMetadata context.profileId
  let payload : JsonDict :=
    [("goal", .str (orElse state.goal userInput)), ("mode", .str context.effectiveMode.value),
      ("input", .str userInput), ("run_context", .obj context.modelDump), ("routing_hints", .arr routingHints),
      ("skill_catalog", skillCatalog), ("todo_snapshot", .str (formatTodoSnapshot todos)),
      ("todos", .arr (todos.map WorkTodo.modelDump)), ("strict_plan", .bool deps.strictPlan)]
  let noted := if state.reasoningNotes = [] then payload
    else payload ++ [("task_hints", .arr (state.reasoningNotes.map .str))]
  let summarized := if state.contextSummary = "" then noted
    else noted ++ [("context_summary", .str state.contextSummary)]
  let paths := attachmentPaths deps state
  let attached ← if paths = [] then pure summarized else do
    let hints ← deps.processAttachmentHints paths
    pure (summarized ++ [("attachments", .arr state.attachments), ("attachment_hints", hints)])
  let judged := if state.lastTraceVerdict = [] then attached
    else attached ++ [("last_trace_verdict", .obj state.lastTraceVerdict)]
  let counted := if state.traceRerunCount = 0 then judged
    else judged ++ [("trace_rerun_count", .int state.traceRerunCount)]
  return deps.dumps (.obj counted)

def conducts (persona : String) : Bool := persona = "conductor" ∨ persona = "gaia_solver"

def prepare (stores : RunStores) (context : RunContext) (userInput persona : String) :
    Except PyExc (RunState × List WorkTodo × String) := do
  let state := (stores.states.get context.key).getD
    { runContext := context, goal := userInput, mode := context.mode, status := .inProgress }
  let stored := stores.listTodos context
  let todos := if stored = [] then state.todos else stored
  let state := injectReflexionHints deps state context
  let state ←
    if conducts persona ∧ context.effectiveMode = .agent ∧ deps.taskHintsEnabled ∧ state.reasoningNotes = [] ∧
        state.stepCount = 0 then do
      let notes ← deps.taskHints (orElse state.goal userInput)
      pure { state with reasoningNotes := notes }
    else pure state
  let trace := deps.dumps (.obj state.lastResult)
  let state ←
    if 3 ≤ state.stepCount ∧ state.lastResult ≠ [] ∧ 2500 < trace.toList.length then do
      let summary ← deps.summarize (orElse state.goal userInput) trace state.contextSummary
      pure { state with contextSummary := summary }
    else pure state
  let prompt ← buildStepPrompt deps state userInput context todos
  return (state, todos, prompt)

def arun (context : RunContext) (persona sessionId prompt : String) : RunEffect Json := do
  let event := RunEvent.executed context persona sessionId prompt
  let history := (← get).history
  modify fun s => s.record event
  resultOf (deps.arun event history)

/-- `result if isinstance(result, dict) else {"raw": result}`. -/
def asDict : Json → JsonDict
  | .obj result => result
  | result => [("raw", result)]

def mergeTodosFromResult (result : JsonDict) (todos : List WorkTodo) : Except PyExc (List WorkTodo) := do
  let listed := JsonDict.getD result "todos" .null
  let merged ← if listed.truthy then
      match listed with
      | .arr items => items.mapM deps.validateTodo
      | value => .error (.exception (deps.typeError value))
    else pure todos
  match JsonDict.get? result "plan_delta" with
  | some (.obj planDelta) => deps.mergePlanDelta merged planDelta
  | _ => return merged

def persistSgrFieldsToState (state : RunState) (result : JsonDict) : RunState :=
  let noted := match JsonDict.get? result "reasoning_steps" with
    | some (.arr (step :: steps)) =>
      let note := "sgr: " ++ " | ".intercalate (((step :: steps).take 3).map deps.str)
      if note ∈ state.reasoningNotes then state.reasoningNotes else state.reasoningNotes ++ [note]
    | _ => state.reasoningNotes
  let status := JsonDict.getD result "plan_status" .null
  let planned := if status.truthy then JsonDict.set state.lastResult "sgr_plan_status" status else state.lastResult
  let finished := match JsonDict.get? result "enough_data" with
    | some enough => JsonDict.set planned "sgr_enough_data" enough
    | none => planned
  { state with reasoningNotes := noted, lastResult := finished }

/-- `verdict.reasoning or "; ".join(verdict.issues) or "Improve action trace."`. -/
def improvement (verdict : TraceVerdict) : String :=
  orElse verdict.reasoning (orElse ("; ".intercalate verdict.issues) "Improve action trace.")

/-- `_run_conductor`, where `reruns` of its reruns are left. -/
def runConductor (context : RunContext) (persona sessionId : String) :
    Nat → String → RunState → List WorkTodo → RunEffect (JsonDict × RunState)
  | reruns, prompt, state, todos => do
    let result := asDict (← arun deps context persona sessionId prompt)
    let todos ← resultOf (mergeTodosFromResult deps result todos)
    modify fun s => s.replaceTodos context todos
    let enriched ← resultOf (deps.enrichConductorResult result (orElse state.goal prompt))
    let result := JsonDict.set enriched "spawn_requests" (.arr (filterSpawnRequestsBySgr enriched))
    let state := persistSgrFieldsToState deps { state with todos } result
    let state := { state with stepCount := state.stepCount + 1 }
    if JsonDict.get? result "enough_data" = some (.bool true) ∨ ¬ deps.traceCriticEnabled ∨ ¬ conducts persona ∨
        state.stepCount % deps.traceCriticEvery context.profileId ≠ 0 then
      return (result, state)
    else
      let verdict ← resultOf (deps.traceCritic (orElse state.goal prompt) result state.stepCount)
      let state := { state with lastTraceVerdict := verdict.modelDump }
      if verdict.shouldRerun then
        let result := JsonDict.set result "trace_critic" (.obj verdict.modelDump)
        match reruns with
        | reruns + 1 =>
          let state := { state with
            traceRerunCount := state.traceRerunCount + 1
            reasoningNotes := state.reasoningNotes ++ [s!"trace_critic: {improvement verdict}"] }
          let prompt ← resultOf (buildStepPrompt deps state
            s!"Rerun requested by trace critic. Address: {improvement verdict}" context todos)
          runConductor context persona sessionId reruns prompt state todos
        | 0 =>
          if deps.hitlOnExhausted context.profileId then
            return (JsonDict.set (JsonDict.set result "trace_critic_escalation" (.bool true)) "status"
              (.str "awaiting_user"), state)
          else return (result, state)
      else return (result, state)

def parseWorkPlan (result : JsonDict) : Except PyExc (Option WorkPlan) :=
  match ["plan", "work_plan", "WorkPlan"].findSome? fun key =>
    match JsonDict.get? result key with
    | some (.obj fields) => some fields
    | _ => none with
  | some fields => some <$> deps.validatePlan fields
  | none => .ok none

def maybeFailedSummary (state : RunState) (userInput : String) : Except PyExc RunState :=
  if JsonDict.get? state.lastTraceVerdict "verdict" = some (.str "fail") ∨ hasFailedTodos state.todos then do
    let summary ← deps.summarize (orElse state.goal userInput) (deps.dumps (.obj state.lastResult))
      state.contextSummary
    return { state with contextSummary := summary }
  else .ok state

end RunStep

structure StepResult where
  runContext : RunContext
  result : JsonDict
  status : Option RunStatus := none

namespace RunStep

variable (deps : RunStepDeps)

def finish (context : RunContext) (state : RunState) : RunEffect StepResult := do
  modify fun s => (s.upsert state).record (.left state.runContext.key state.status)
  return { runContext := context, result := state.lastResult, status := some state.status }

def planFields : Json → JsonDict
  | .obj result => result
  | _ => []

def finishPlan (context : RunContext) (state : RunState) (plan : WorkPlan) : RunEffect StepResult := do
  let planned := { state with
    plan := some plan, lastResult := [("plan", plan.modelDump)], status := .awaitingPlanApproval }
  if plan.todos = [] then
    finish context planned
  else
    modify fun s => s.replaceTodos context plan.todos
    finish context { planned with todos := plan.todos }

def execute (context : RunContext) (userInput : String) (persona : String := "conductor") : RunEffect StepResult := do
  let (state, todos, prompt) ← resultOf (prepare deps (← get) context userInput persona)
  let sessionId := checkpointKey context persona
  if context.effectiveMode = .plan then
    let fields := planFields (← arun deps context persona sessionId prompt)
    let parsed ← resultOf (parseWorkPlan deps fields)
    finishPlan context state (parsed.getD
      { rationale := deps.str (JsonDict.getD fields "rationale" (.str "plan generated")), awaitingUserInput := false })
  else if context.isStateful ∨ conducts persona then
    let (result, state) ← runConductor deps context persona sessionId
      (deps.traceCriticRerunMax context.profileId - state.traceRerunCount).toNat prompt state todos
    let state := { state with lastResult := result, status := statusFromResult result context.effectiveMode }
    let state ← resultOf (maybeFailedSummary deps state userInput)
    finish context state
  else
    let result ← arun deps context persona s!"worker:{persona}:{context.contextId}" prompt
    finish context { state with lastResult := asDict result, status := .inProgress }

end RunStep

end CysAgi
