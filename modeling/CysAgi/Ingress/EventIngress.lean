import CysAgi.Ingress.DispatchEvent
import CysAgi.Security.SanitizePayload

namespace CysAgi

open Py

def eventTypes : List String :=
  ["siem.alert", "edr.alert", "iam.event", "ad.alert", "netflow.beacon", "dns.anomaly", "cloud.audit", "cloud.alert",
    "hunt.hypothesis", "incident.forensics", "purple.validation", "assessment.complete", "ti.feed", "osint.report",
    "doc.upload", "compliance.schedule", "finding.reference", "escalation", "manual.investigation",
    "manual.consultation"]

structure EventIn where
  eventType : String
  payload : JsonDict := []
  severity : String := "medium"
  source : String := ""
  eventId : Option String := none
  correlationId : String := ""

structure IngressSettings where
  router : EventRouter := {}
  planner : PlannerDeps
  sanitizer : InputSanitizer
  fallbackPersonas : Except PyExc (List String) := .ok ["consultant"]
  loadPlanHints : Except PyExc (List Json) := .ok []
  useConductorForEvents : Bool := false
  manualInvestigationAsync : Bool := true
  useKafka : Bool := false
  siemSource : String := "siem_poll"

/-- What an operation of the ingress is told from outside: the hexes of the new ids, whether Kafka
    has taken the event, what the status store does with it and what workers do meanwhile. -/
structure IngressAnswers where
  eventHex : String := ""
  jobHex : Nat → String := fun _ => ""
  published : Bool := false
  recorded : Except PyExc Unit := .ok ()
  amid : WorkersAmid := {}

def buildEvent (eventIn : EventIn) (eventHex : String) : Except PyExc SecurityEvent :=
  if eventIn.eventType ∈ eventTypes ∧ eventIn.severity ∈ severityOrder then
    .ok {
      id := orElse (eventIn.eventId.getD "") s!"evt-{eventHex}"
      type := eventIn.eventType
      source := eventIn.source
      severity := eventIn.severity
      payload := eventIn.payload
      correlationId := eventIn.correlationId }
  else .error (.exception "validation error for SecurityEvent")

namespace IngressSettings

variable (settings : IngressSettings)

/-- The `DispatchEvent` of `RouteAndEnqueueEvent`. -/
def apiDispatcher : DispatchEvent where
  router := settings.router
  planInvestigation := some settings.planner
  planExecutor := some fun event =>
    DispatchEvent.fallbackPlan { fallbackPersonas := settings.fallbackPersonas } event settings.planner
  fallbackPersonas := settings.fallbackPersonas
  loadPlanHints := settings.loadPlanHints
  useConductorForEvents := settings.useConductorForEvents
  manualInvestigationAsync := settings.manualInvestigationAsync

/-- The `DispatchEvent` of `RouterConsumer`. -/
def consumerDispatcher : DispatchEvent where
  router := settings.router
  planInvestigation := some settings.planner
  fallbackPersonas := settings.fallbackPersonas
  loadPlanHints := settings.loadPlanHints
  useConductorForEvents := settings.useConductorForEvents
  manualInvestigationAsync := settings.manualInvestigationAsync

def Publishes (answers : IngressAnswers) : Prop := settings.useKafka = true ∧ answers.published = true

instance (answers : IngressAnswers) : Decidable (settings.Publishes answers) :=
  inferInstanceAs (Decidable (_ ∧ _))

def aexecute (eventIn : EventIn) (answers : IngressAnswers) :
    IntakeEffect (SecurityEvent × RoutingDecision × List String) := do
  let event ← resultOf (buildEvent eventIn answers.eventHex)
  if settings.Publishes answers then
    modify fun s => { s with rawEvents := s.rawEvents ++ [event] }
    let decision ← resultOf (settings.router.route event)
    return (event, decision, [])
  else
    let (decision, jobIds) ← settings.apiDispatcher.dispatchAsync event eventIn.payload answers.amid answers.jobHex
    return (event, decision, jobIds)

end IngressSettings

structure EventResponse where
  statusCode : Nat
  event : SecurityEvent
  routing : RoutingDecision
  jobIds : List String
  plannerStatus : Option String := none

namespace IngressSettings

variable (settings : IngressSettings)

/-- `POST /events`. -/
def postEvent (eventIn : EventIn) (answers : IngressAnswers) : IntakeEffect EventResponse := do
  let (event, decision, jobIds) ← settings.aexecute eventIn answers
  resultOf answers.recorded
  if decision.reason = asyncPlannerPending then
    modify fun s => { s with plannerTasks := s.plannerTasks ++ [event] }
    return { statusCode := 202, event, routing := decision, jobIds, plannerStatus := some "planning" }
  else
    return { statusCode := 200, event, routing := decision, jobIds }

/-- `RouterConsumer.process_one`, with what it has consumed. -/
def processOne (consumed : Option SecurityEvent) (answers : IngressAnswers) : IntakeEffect Bool := do
  match consumed with
  | none => return false
  | some event =>
    let _ ← settings.consumerDispatcher.dispatchAsync event event.payload answers.amid answers.jobHex
    return true

end IngressSettings

structure SiemRawAlert where
  id : String := ""
  ruleName : String := ""
  severity : String := "medium"
  message : String := ""
  host : String := ""
  sourceType : String := ""
  raw : JsonDict := []

def siemSeverities : List (String × String) :=
  [("info", "info"), ("informational", "info"), ("low", "low"), ("medium", "medium"), ("moderate", "medium"),
    ("high", "high"), ("critical", "critical"), ("severe", "critical"), ("1", "info"), ("2", "low"), ("3", "low"),
    ("4", "medium"), ("5", "medium"), ("6", "high"), ("7", "high"), ("8", "critical"), ("9", "critical"),
    ("10", "critical")]

def mapSiemSeverity (lower : String → String) (raw : String) : String :=
  (siemSeverities.lookup (lower (strip raw))).getD "medium"

def normalizeSiemAlert (lower : String → String) (alert : SiemRawAlert) (source : String := "siem_poll") :
    SecurityEvent where
  id := alert.id
  type := "siem.alert"
  source := source
  severity := mapSiemSeverity lower alert.severity
  payload :=
    [("rule_name", .str alert.ruleName), ("message", .str alert.message), ("host", .str alert.host),
      ("source_type", .str alert.sourceType), ("siem_raw", .obj alert.raw)]
  correlationId := alert.id

def eventToIngressBody (event : SecurityEvent) : EventIn where
  eventType := event.type
  payload := event.payload
  severity := event.severity
  source := event.source
  eventId := some event.id
  correlationId := event.correlationId

namespace IngressSettings

variable (settings : IngressSettings)

def siemBody (alert : SiemRawAlert) : Except PyExc (Option EventIn) := do
  let safe ← settings.sanitizer.sanitizeEvent
    (normalizeSiemAlert settings.sanitizer.patterns.lower alert settings.siemSource)
  return safe.map eventToIngressBody

/-- `SiemPollClient.poll_once` on the alerts that it has fetched. -/
def pollOnce : List (SiemRawAlert × IngressAnswers) → IntakeEffect (List EventResponse)
  | [] => return []
  | (alert, answers) :: rest => do
    match ← resultOf (settings.siemBody alert) with
    | none => pollOnce rest
    | some body =>
      let response ← settings.postEvent body answers
      let others ← pollOnce rest
      return response :: others

end IngressSettings

end CysAgi
