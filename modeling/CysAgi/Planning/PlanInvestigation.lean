import CysAgi.Memory.PostgresStore
import CysAgi.Workers.Models

namespace CysAgi

open Py

structure SecurityEvent where
  id : String
  type : String
  source : String := ""
  severity : String := "medium"
  payload : JsonDict := []
  tenantId : String := "default"
  correlationId : String := ""

structure InvestigationPlan where
  personas : List String := []
  subGoals : List (String × String) := []
  rationale : String := ""
  dependsOn : List (String × List String) := []
  reasoningSteps : List String := []
  planStatus : String := ""
  deriving DecidableEq

structure PlannerCall where
  name : String
  userInput : String
  sessionId : String
  tenantId : String
  investigationId : String
  profileId : String

/-- What `PlanInvestigation` is wired with, besides its store: each collaborator as the answer
    it gives to a call. `loads` is none where the text is not JSON. -/
structure PlannerDeps where
  arun : PlannerCall → Except PyExc Json
  availablePersonas : Except PyExc (List String)
  fallbackPersonas : Except PyExc (List String)
  rankPersonasByQuality : List String → Except PyExc (List String)
  loads : String → Option Json
  dumps : Json → String
  str : Json → String
  typeError : Json → String
  recursionLimit : Nat
  plannerPersona : String := "planner"
  profileId : String := "cybersec-soc"

namespace PlanInvestigation

def investigationId (event : SecurityEvent) : String := orElse event.correlationId event.id

def goalFromEvent (deps : PlannerDeps) (event : SecurityEvent) : String :=
  deps.str (JsonDict.getD event.payload "goal"
    (JsonDict.getD event.payload "message" (.str "Investigate security incident")))

def fallbackPlan (deps : PlannerDeps) (goal rationale : String) : Except PyExc InvestigationPlan := do
  let personas ← deps.fallbackPersonas
  return { personas, subGoals := personas.foldl (fun subGoals persona => Assoc.set subGoals persona goal) [], rationale }

/-- The items of `for item in value`. -/
def iterate (deps : PlannerDeps) : Json → Except PyExc (List Json)
  | .arr items => .ok items
  | .obj fields => .ok (fields.map fun field => .str field.1)
  | .str text => .ok (text.toList.map fun c => .str c.toString)
  | value => .error (.exception (deps.typeError value))

def planOf (deps : PlannerDeps) (result : JsonDict) (personas : List Json) : Except PyExc InvestigationPlan := do
  let subGoals := match JsonDict.getD result "sub_goals" (.obj []) with
    | .obj fields => fields
    | _ => []
  let steps ← iterate deps (JsonDict.getD result "reasoning_steps" (.arr []))
  return {
    personas := personas.map deps.str
    subGoals := subGoals.map fun field => (field.1, deps.str field.2)
    rationale := deps.str (JsonDict.getD result "rationale" (.str ""))
    reasoningSteps := (steps.filter Json.truthy).map deps.str
    planStatus := deps.str (JsonDict.getD result "plan_status" (.str "")) }

def parsePlan (deps : PlannerDeps) (goal : String) : Nat → Json → Except PyExc InvestigationPlan
  | 0, _ => .error (.exception "maximum recursion depth exceeded")
  | depth + 1, .obj result =>
    match JsonDict.get? result "personas" with
    | some (.arr personas) => planOf deps result personas
    | _ =>
      let raw := JsonDict.getD result "raw_response" (.str "")
      if raw.truthy then
        match raw with
        | .str text =>
          match deps.loads text with
          | some parsed => parsePlan deps goal depth parsed
          | none => fallbackPlan deps goal "fallback_default_plan"
        | value => .error (.exception (deps.typeError value))
      else fallbackPlan deps goal "fallback_default_plan"
  | _ + 1, value => .error (.exception (deps.typeError value))

def prompt (deps : PlannerDeps) (event : SecurityEvent) (available : List String) : String :=
  deps.dumps (.obj [("goal", .str (goalFromEvent deps event)), ("event_type", .str event.type),
    ("severity", .str event.severity), ("available_personas", .arr (available.map .str)),
    ("instructions", .str ("Return JSON with keys: personas (ordered list), sub_goals (map persona->task), rationale. " ++
      "Use consultant alone for general IB advisory questions."))])

def plannerCall (deps : PlannerDeps) (event : SecurityEvent) (available : List String) : PlannerCall :=
  { name := deps.plannerPersona, userInput := prompt deps event available
    sessionId := s!"planner:{investigationId event}", tenantId := event.tenantId
    investigationId := investigationId event, profileId := deps.profileId }

def makePlan (deps : PlannerDeps) (event : SecurityEvent) (available : List String) :
    Except PyExc InvestigationPlan := do
  let goal := goalFromEvent deps event
  let result ← deps.arun (plannerCall deps event available)
  let plan ← parsePlan deps goal deps.recursionLimit result
  let plan ← if plan.personas = [] then fallbackPlan deps goal "fallback_default_plan" else pure plan
  let allowed := plan.personas.filter (· ∈ available)
  let plan ← if allowed = [] then fallbackPlan deps goal "planner_invalid_personas_fallback"
    else pure { plan with personas := allowed }
  let ranked ← deps.rankPersonasByQuality plan.personas
  return { plan with personas := ranked }

def begun (goal : String) (state : InvestigationState) : InvestigationState :=
  { state with
    goal, status := .inProgress, plannerStatus := some .planning, plannerPlan := none
    plannerRationale := "", plannerError := "" }

def announced (state : InvestigationState) : InvestigationState :=
  { state with plannerStatus := some .planning, plannerError := "" }

def planned (state : InvestigationState) (plan : InvestigationPlan) (status : PlannerStatus) (error : String) :
    InvestigationState :=
  { state with
    plannerPlan := some plan.personas, plannerStatus := some status, plannerRationale := plan.rationale
    plannerError := error, status := if state.status = .opened then .inProgress else state.status }

end PlanInvestigation

/-- What workers do to the investigation between the store operations of `execute`: after its
    `get`, after the `get` of `begin_planning` (if there is one), and while it awaits the plan. -/
structure WorkersAmid where
  afterGet : List StateCall := []
  beforePlanning : List StateCall := []
  beforePlan : List StateCall := []

def WorkersAmid.calls (amid : WorkersAmid) : List StateCall :=
  amid.afterGet ++ amid.beforePlanning ++ amid.beforePlan

namespace PlanInvestigation

def beginPlanning (deps : PlannerDeps) (event : SecurityEvent) (amid : WorkersAmid)
    (store : PostgresInvestigationStateStore) : PostgresInvestigationStateStore × InvestigationState :=
  let goal := goalFromEvent deps event
  let state := begun goal ((store.get event.tenantId (investigationId event)).getD
    { investigationId := investigationId event, tenantId := event.tenantId, goal, status := .inProgress })
  ((store.calls event.tenantId (investigationId event) amid.beforePlanning).upsert state, state)

/-- `execute` up to the state that it works on from then on. -/
def takeState (deps : PlannerDeps) (event : SecurityEvent) (amid : WorkersAmid)
    (store : PostgresInvestigationStateStore) : PostgresInvestigationStateStore × InvestigationState :=
  let amidGet := store.calls event.tenantId (investigationId event) amid.afterGet
  match store.get event.tenantId (investigationId event) with
  | none => beginPlanning deps event amid amidGet
  | some state =>
    let amidUpsert := amidGet.calls event.tenantId (investigationId event) amid.beforePlanning
    if state.plannerStatus ≠ some .planning then (amidUpsert.upsert (announced state), announced state)
    else (amidUpsert, state)

def execute (deps : PlannerDeps) (event : SecurityEvent) (amid : WorkersAmid)
    (store : PostgresInvestigationStateStore) :
    PostgresInvestigationStateStore × Except PyExc InvestigationPlan :=
  let taken := takeState deps event amid store
  match deps.availablePersonas with
  | .error e => (taken.1, .error e)
  | .ok available =>
    let awaited := taken.1.calls event.tenantId (investigationId event) amid.beforePlan
    match makePlan deps event available with
    | .ok plan => (awaited.upsert (planned taken.2 plan .ok ""), .ok plan)
    | .error (.baseException message) => (awaited, .error (.baseException message))
    | .error e =>
      match fallbackPlan deps (goalFromEvent deps event) "planner_unavailable_fallback" with
      | .error failure => (awaited, .error failure)
      | .ok plan => (awaited.upsert (planned taken.2 plan .fallback e.message), .ok plan)

end PlanInvestigation

end CysAgi
