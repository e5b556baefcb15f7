import CysAgi.Ingress.EventRouter
import CysAgi.Runs.Models
import CysAgi.Workers.SequentialChains

namespace CysAgi

open Py

/-- What the ingress works on: the workers' stores, the planner's store, the raw events topic and
    the planner tasks that were started. -/
structure Intake where
  world : World := {}
  investigationStore : PostgresInvestigationStateStore := .empty
  rawEvents : List SecurityEvent := []
  plannerTasks : List SecurityEvent := []

abbrev IntakeEffect := EStateM PyExc Intake

namespace Intake

def onWorld {α : Type} (m : Effect α) : IntakeEffect α := fun s =>
  match m s.world with
  | .ok a world => .ok a { s with world }
  | .error raised world => .error raised { s with world }

end Intake

namespace PlanInvestigation

def executed (deps : PlannerDeps) (event : SecurityEvent) (amid : WorkersAmid) : IntakeEffect InvestigationPlan :=
  fun s =>
    match execute deps event amid s.investigationStore with
    | (investigationStore, .ok plan) => .ok plan { s with investigationStore }
    | (investigationStore, .error raised) => .error raised { s with investigationStore }

def toWorkerJobsPayload (plan : InvestigationPlan) : JsonDict :=
  [("planner_plan", .arr (plan.personas.map .str)),
    ("sub_goals", .obj (plan.subGoals.map fun goal => (goal.1, .str goal.2))),
    ("rationale", .str plan.rationale),
    ("depends_on", .obj (plan.dependsOn.map fun needs => (needs.1, .arr (needs.2.map .str))))]

end PlanInvestigation

def asyncPlannerPending : String := "async_planner_pending"

def enrichPayloadWithRunContext (event : SecurityEvent) (payload : JsonDict) : JsonDict :=
  payload.update [("run_context", .obj (RunContext.fromEvent event).modelDump)]

/-- What `DispatchEvent` is wired with, and the runtime configuration that it reads. An executor is
    given as the plan it returns for an event. -/
structure DispatchEvent where
  router : EventRouter := {}
  planInvestigation : Option PlannerDeps := none
  planExecutor : Option (SecurityEvent → Except PyExc InvestigationPlan) := none
  asyncPlanExecutor : Option (SecurityEvent → Except PyExc InvestigationPlan) := none
  /-- `PlanInvestigation.fallback_personas()` of the default profile. -/
  fallbackPersonas : Except PyExc (List String) := .ok ["consultant"]
  loadPlanHints : Except PyExc (List Json) := .ok []
  useConductorForEvents : Bool := false
  manualInvestigationAsync : Bool := true

namespace DispatchEvent

variable (d : DispatchEvent) (event : SecurityEvent) (payload : JsonDict)

def applyConductorRouting (decision : RoutingDecision) : Except PyExc (RoutingDecision × JsonDict) :=
  if ¬ d.useConductorForEvents ∨ decision.personas = [] then
    .ok (decision, enrichPayloadWithRunContext event payload)
  else do
    let hints ← d.loadPlanHints
    let enriched := (enrichPayloadWithRunContext event payload).update
      [("routing_hints", .arr hints), ("suggested_personas", .arr (decision.personas.map .str))]
    return ({ eventId := decision.eventId, personas := ["conductor"], playbookId := decision.playbookId
              notifyControl := decision.notifyControl, reason := "conductor_meta_worker" }, enriched)

def fallbackPlan (deps : PlannerDeps) : Except PyExc InvestigationPlan :=
  PlanInvestigation.fallbackPlan { deps with fallbackPersonas := d.fallbackPersonas }
    (PlanInvestigation.goalFromEvent deps event) "sync_fallback_plan"

def manualPlanner : Option PlannerDeps :=
  if event.type = "manual.investigation" then d.planInvestigation else none

def syncPlan (deps : PlannerDeps) : Except PyExc InvestigationPlan :=
  match d.planExecutor with
  | some execute => execute event
  | none => d.fallbackPlan event deps

def asyncPlan (deps : PlannerDeps) (amid : WorkersAmid) : IntakeEffect InvestigationPlan :=
  match d.asyncPlanExecutor with
  | some execute => resultOf (execute event)
  | none => PlanInvestigation.executed deps event amid

def withHex (hex : Nat → String) (personas : List String) : List (String × String) :=
  personas.zipIdx.map fun entry => (entry.1, hex entry.2)

def dispatchSync (hex : Nat → String) : IntakeEffect (RoutingDecision × List String) := do
  match d.manualPlanner event with
  | some deps =>
    let plan ← resultOf (d.syncPlan event deps)
    let decision : RoutingDecision :=
      { eventId := event.id, personas := plan.personas, playbookId := "manual-investigation", notifyControl := true
        reason := "llm_planner" }
    let enriched := payload.update (PlanInvestigation.toWorkerJobsPayload plan)
    let jobIds ← Intake.onWorld (enqueueFromRouting
      { eventId := event.id, playbookId := decision.playbookId, payload := enriched
        correlationId := orElse event.correlationId event.id, tenantId := event.tenantId, sequential := true }
      (withHex hex plan.personas))
    return (decision, jobIds)
  | none =>
    let decision ← resultOf (d.router.route event)
    if decision.personas = [] then
      return (decision, [])
    else
      let (decision, enrichedPayload) ← resultOf (d.applyConductorRouting event payload decision)
      let jobIds ← Intake.onWorld (enqueueFromRouting
        { eventId := event.id, playbookId := decision.playbookId, payload := enrichedPayload
          correlationId := orElse event.correlationId event.id, tenantId := event.tenantId, sequential := false }
        (withHex hex decision.personas))
      return (decision, jobIds)

def beginPlanning (deps : PlannerDeps) (amid : WorkersAmid) : IntakeEffect Unit :=
  modify fun s => { s with
    investigationStore := (PlanInvestigation.beginPlanning deps event amid s.investigationStore).1 }

def dispatchAsync (amid : WorkersAmid) (hex : Nat → String) : IntakeEffect (RoutingDecision × List String) := do
  match d.manualPlanner event with
  | some deps =>
    if d.manualInvestigationAsync then
      beginPlanning event deps amid
      let decision : RoutingDecision :=
        { eventId := event.id, playbookId := "manual-investigation", notifyControl := true
          reason := asyncPlannerPending }
      return (decision, [])
    else
      let plan ← d.asyncPlan event deps amid
      let decision : RoutingDecision :=
        { eventId := event.id, personas := plan.personas, playbookId := "manual-investigation", notifyControl := true
          reason := "llm_planner" }
      let enriched := payload.update (PlanInvestigation.toWorkerJobsPayload plan)
      let jobIds ← Intake.onWorld (enqueueFromRouting
        { eventId := event.id, playbookId := decision.playbookId, payload := enriched
          correlationId := orElse event.correlationId event.id, tenantId := event.tenantId
          sequential := !plan.dependsOn.isEmpty }
        (withHex hex plan.personas))
      return (decision, jobIds)
  | none =>
    let decision ← resultOf (d.router.route event)
    if decision.personas = [] then
      return (decision, [])
    else
      let (decision, enrichedPayload) ← resultOf (d.applyConductorRouting event payload decision)
      let jobIds ← Intake.onWorld (enqueueFromRouting
        { eventId := event.id, playbookId := decision.playbookId, payload := enrichedPayload
          correlationId := orElse event.correlationId event.id, tenantId := event.tenantId, sequential := false }
        (withHex hex decision.personas))
      return (decision, jobIds)

end DispatchEvent

/-- `complete_manual_investigation_planning`, the background task of a deferred plan. -/
def completeManualInvestigationPlanning (deps : PlannerDeps) (event : SecurityEvent) (payload : JsonDict)
    (amid : WorkersAmid) (hex : Nat → String) : IntakeEffect (List String) := do
  let plan ← PlanInvestigation.executed deps event amid
  let enriched := payload.update (PlanInvestigation.toWorkerJobsPayload plan)
  Intake.onWorld (enqueueFromRouting
    { eventId := event.id, playbookId := "manual-investigation", payload := enriched
      correlationId := orElse event.correlationId event.id, tenantId := event.tenantId, sequential := true }
    (DispatchEvent.withHex hex plan.personas))

end CysAgi
