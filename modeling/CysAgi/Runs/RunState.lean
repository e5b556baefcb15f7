import CysAgi.Runs.Models

namespace CysAgi

open Py

inductive TodoStatus where
  | pending
  | inProgress
  | done
  | failed
  | cancelled
  deriving DecidableEq

def TodoStatus.value : TodoStatus → String
  | .pending => "pending"
  | .inProgress => "in_progress"
  | .done => "done"
  | .failed => "failed"
  | .cancelled => "cancelled"

structure WorkTodo where
  id : String
  content : String
  status : TodoStatus := .pending
  assignedPersona : String := ""
  dependsOn : List String := []
  deriving DecidableEq

def WorkTodo.modelDump (todo : WorkTodo) : Json :=
  .obj [("id", .str todo.id), ("content", .str todo.content), ("status", .str todo.status.value),
    ("assigned_persona", .str todo.assignedPersona), ("depends_on", .arr (todo.dependsOn.map .str))]

structure ClarifyingQuestion where
  id : String
  question : String
  required : Bool := true
  deriving DecidableEq

def ClarifyingQuestion.modelDump (question : ClarifyingQuestion) : Json :=
  .obj [("id", .str question.id), ("question", .str question.question), ("required", .bool question.required)]

structure WorkPlan where
  questions : List ClarifyingQuestion := []
  todos : List WorkTodo := []
  proposedWorkers : List String := []
  rationale : String := ""
  awaitingUserInput : Bool := false
  reasoningSteps : List String := []
  planStatus : String := ""
  enoughData : Bool := false
  remainingSteps : List String := []
  deriving DecidableEq

def WorkPlan.modelDump (plan : WorkPlan) : Json :=
  .obj [("questions", .arr (plan.questions.map ClarifyingQuestion.modelDump)),
    ("todos", .arr (plan.todos.map WorkTodo.modelDump)), ("proposed_workers", .arr (plan.proposedWorkers.map .str)),
    ("rationale", .str plan.rationale), ("awaiting_user_input", .bool plan.awaitingUserInput),
    ("reasoning_steps", .arr (plan.reasoningSteps.map .str)), ("plan_status", .str plan.planStatus),
    ("enough_data", .bool plan.enoughData), ("remaining_steps", .arr (plan.remainingSteps.map .str))]

inductive PlanDecision where
  | approve
  | reject
  | edit
  deriving DecidableEq

structure PlanApproval where
  decision : PlanDecision
  editedPlan : Option WorkPlan := none

inductive RunStatus where
  | opened
  | inProgress
  | awaitingUser
  | awaitingPlanApproval
  | closed
  deriving DecidableEq

abbrev RunKey := String × String × ContextKind

def RunContext.key (context : RunContext) : RunKey := (context.tenantId, context.contextId, context.kind)

def RunContext.withMode (context : RunContext) (mode : Option InteractionMode) : RunContext := { context with mode }

def RunContext.effectiveMode (context : RunContext) : InteractionMode := context.mode.getD .agent

def RunContext.isStateful (context : RunContext) : Bool := context.kind = .session ∨ context.kind = .investigation

structure RunState where
  runContext : RunContext
  goal : String := ""
  status : RunStatus := .opened
  mode : Option InteractionMode := none
  plan : Option WorkPlan := none
  todos : List WorkTodo := []
  lastResult : JsonDict := []
  stepCount : Nat := 0
  contextSummary : String := ""
  reasoningNotes : List String := []
  attachments : List Json := []
  lastTraceVerdict : JsonDict := []
  traceRerunCount : Int := 0
  deriving DecidableEq

/-- The rows of `run_states`. A row is stored under the key that its context names. -/
structure RunStateStore where
  rows : Dict RunKey RunState
  keyed : ∀ key state, rows.get? key = some state → state.runContext.key = key

namespace RunStateStore

def empty : RunStateStore := ⟨.empty, by intro key state found; cases found⟩

def get (store : RunStateStore) (key : RunKey) : Option RunState := store.rows.get? key

def upsert (store : RunStateStore) (state : RunState) : RunStateStore where
  rows := store.rows.set state.runContext.key state
  keyed key other found := by
    rw [Dict.get?_set] at found
    split at found
    · rename_i same
      cases found
      exact same.symm
    · exact store.keyed key other found

theorem get_upsert (store : RunStateStore) (state : RunState) (key : RunKey) :
    (store.upsert state).get key = if key = state.runContext.key then some state else store.get key :=
  Dict.get?_set _ _ _ _

theorem key_of_get {store : RunStateStore} {key : RunKey} {state : RunState} (found : store.get key = some state) :
    state.runContext.key = key := store.keyed key state found

end RunStateStore

inductive RunEvent where
  | executed (context : RunContext) (persona sessionId prompt : String)
  | left (key : RunKey) (status : RunStatus)
  | decided (key : RunKey) (decision : PlanDecision)
  deriving DecidableEq

/-- The stores of runs, with the history of what has happened, the newest first. -/
structure RunStores where
  states : RunStateStore := .empty
  todos : Dict (String × String) (List WorkTodo) := .empty
  history : List RunEvent := []

abbrev RunEffect := EStateM PyExc RunStores

namespace RunStores

def record (s : RunStores) (event : RunEvent) : RunStores := { s with history := event :: s.history }

def upsert (s : RunStores) (state : RunState) : RunStores := { s with states := s.states.upsert state }

def replaceTodos (s : RunStores) (context : RunContext) (todos : List WorkTodo) : RunStores :=
  { s with todos := s.todos.set (context.tenantId, context.contextId) todos }

def listTodos (s : RunStores) (context : RunContext) : List WorkTodo :=
  (s.todos.get? (context.tenantId, context.contextId)).getD []

@[simp] theorem history_upsert (s : RunStores) (state : RunState) : (s.upsert state).history = s.history := rfl

@[simp] theorem history_replaceTodos (s : RunStores) (context : RunContext) (todos : List WorkTodo) :
    (s.replaceTodos context todos).history = s.history := rfl

@[simp] theorem history_record (s : RunStores) (event : RunEvent) : (s.record event).history = event :: s.history := rfl

end RunStores

end CysAgi
