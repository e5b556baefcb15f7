import CysAgi.Planning.PlanInvestigation

namespace CysAgi

open Py

inductive ContextKind where
  | job
  | event
  | investigation
  | session
  | batch
  | stream
  deriving DecidableEq

def ContextKind.value : ContextKind → String
  | .job => "job"
  | .event => "event"
  | .investigation => "investigation"
  | .session => "session"
  | .batch => "batch"
  | .stream => "stream"

inductive InteractionMode where
  | plan
  | ask
  | agent
  | debug
  deriving DecidableEq

def InteractionMode.value : InteractionMode → String
  | .plan => "plan"
  | .ask => "ask"
  | .agent => "agent"
  | .debug => "debug"

def buildCorrelationKey (kind : ContextKind) (contextId : String) : String := kind.value ++ ":" ++ contextId

theorem buildCorrelationKey_ne_empty (kind : ContextKind) (contextId : String) :
    buildCorrelationKey kind contextId ≠ "" := by
  intro empty
  have letters := congrArg String.toList empty
  cases kind <;> simp [buildCorrelationKey, ContextKind.value] at letters

/-- A validated context: an empty correlation key has been filled. -/
@[ext]
structure RunContext where
  contextId : String
  kind : ContextKind
  tenantId : String := "default"
  parentContextId : Option String := none
  parentKind : Option ContextKind := none
  mode : Option InteractionMode := none
  profileId : String := "cybersec-soc"
  spawnDepth : Int := 0
  correlationKey : String := buildCorrelationKey kind contextId
  filled : correlationKey ≠ "" := by exact buildCorrelationKey_ne_empty _ _
  deriving DecidableEq

/-- `int(value)`, where a text is read by the parameter. -/
def pyInt (intText : String → Except PyExc Int) : Json → Except PyExc Int
  | .int n => .ok n
  | .bool b => .ok (if b then 1 else 0)
  | .float q => .ok (q.num.tdiv q.den)
  | .str text => intText text
  | .null => .error (notANumber "NoneType")
  | .arr _ => .error (notANumber "list")
  | .obj _ => .error (notANumber "dict")
where
  notANumber (type : String) : PyExc :=
    .exception s!"int() argument must be a string, a bytes-like object or a real number, not '{type}'"

/-- `text or None`. -/
def orNone (text : String) : Option String := if text = "" then none else some text

namespace RunContext

def fromEvent (event : SecurityEvent) : RunContext :=
  { contextId := orElse event.correlationId event.id, kind := .event, tenantId := event.tenantId }

def fromJob (intText : String → Except PyExc Int) (job : WorkerJob) : Except PyExc RunContext := do
  let parentId := orNone job.correlationId
  let spawnDepth ← pyInt intText (JsonDict.getD job.payload "spawn_depth" (.int 0))
  return {
    contextId := job.jobId
    kind := .job
    tenantId := job.tenantId
    parentContextId := parentId.filter (· ≠ job.jobId)
    parentKind := parentId.map fun _ => .event
    spawnDepth }

def fromSessionId (sessionId : String) (tenantId : String := "default") (mode : Option InteractionMode := none)
    (profileId : String := "cybersec-soc") : RunContext :=
  { contextId := sessionId, kind := .session, tenantId, mode, profileId }

def spawnChild (context : RunContext) (childId : String) : RunContext where
  contextId := childId
  kind := .job
  tenantId := context.tenantId
  parentContextId := some context.contextId
  parentKind := some context.kind
  mode := context.mode
  profileId := context.profileId
  spawnDepth := context.spawnDepth + 1

def modelDump (context : RunContext) : JsonDict :=
  [("context_id", .str context.contextId), ("kind", .str context.kind.value), ("tenant_id", .str context.tenantId),
    ("parent_context_id", orNull (context.parentContextId.map .str)),
    ("parent_kind", orNull (context.parentKind.map fun kind => .str kind.value)),
    ("mode", orNull (context.mode.map fun mode => .str mode.value)), ("profile_id", .str context.profileId),
    ("spawn_depth", .int context.spawnDepth), ("correlation_key", .str context.correlationKey)]
where
  orNull (value : Option Json) : Json := value.getD .null

end RunContext

end CysAgi
