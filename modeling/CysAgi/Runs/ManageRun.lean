import CysAgi.Runs.RunStep

namespace CysAgi

open Py

namespace ManageRun

variable (deps : RunStepDeps)

def contextOf (s : RunStores) (tenantId runId : String) : Option RunContext :=
  [ContextKind.session, .job, .investigation].findSome? fun kind =>
    (s.states.get (tenantId, runId, kind)).map RunState.runContext

def getContext (tenantId runId : String) : RunEffect RunContext := do
  match contextOf (← get) tenantId runId with
  | some context => return context
  | none => throw (.exception s!"Run not found: {runId}")

def saved (s : RunStores) (context : RunContext) (goal : String) : RunState :=
  match s.states.get context.key with
  | none => { runContext := context, goal, mode := context.mode, status := .inProgress }
  | some state => { state with runContext := context }

def saveContext (context : RunContext) (goal : String := "") : RunEffect Unit :=
  modify fun s => s.upsert (saved s context goal)

def createAndStep (context : RunContext) (userInput persona : String) : RunEffect StepResult := do
  saveContext context userInput
  RunStep.execute deps context userInput persona

def step (runId message tenantId : String) (mode : Option InteractionMode) (persona : String) :
    RunEffect StepResult := do
  let context ← getContext tenantId runId
  match mode with
  | some mode =>
    saveContext (context.withMode (some mode))
    RunStep.execute deps (context.withMode (some mode)) message persona
  | none => RunStep.execute deps context message persona

def takePlan (context : RunContext) (approval : PlanApproval) (s : RunStores) : RunStores :=
  match s.states.get context.key with
  | none => s
  | some state =>
    let plan := approval.editedPlan.or state.plan
    match plan.map WorkPlan.todos with
    | some (todo :: todos) => (s.replaceTodos context (todo :: todos)).upsert { state with plan, todos := todo :: todos }
    | _ => s.upsert { state with plan }

def approvePlan (runId : String) (approval : PlanApproval) (tenantId : String) : RunEffect StepResult := do
  let context ← getContext tenantId runId
  modify fun s => s.record (.decided context.key approval.decision)
  if approval.decision = .reject then
    modify fun s => s.upsert { runContext := context, status := .closed }
    return { runContext := context, result := [("status", .str "rejected")] }
  else
    let context := context.withMode (some .agent)
    saveContext context
    modify fun s => takePlan context approval s
    RunStep.execute deps context "execute approved plan"

end ManageRun

end CysAgi
