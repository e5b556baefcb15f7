import CysAgi.Runtime.Agent

namespace CysAgi

open Py

structure MemoryEntry where
  sourceAgent : String
  memoryType : String
  content : String
  sourceJobId : String

/-- What `RunWorkerJob` is wired with, besides the stores: each collaborator as the answer
    it gives to a call. The runtime's `arun` also pauses jobs on the way. -/
structure WorkerDeps where
  arun : AgentCall → AgentRun
  registry : String → Except PyExc AgentDefinition
  toolRegistry : ToolRegistry
  schemas : SchemaRegistry
  useToolGateway : Bool
  acreate : String → String → Except PyExc SandboxCredentials
  adestroy : String → Except PyExc Unit
  sanitize : String → Except PyExc String
  queryInvestigation : Option (String → String → Except PyExc (List MemoryEntry))
  appendPendingFinding : Option (PendingFinding → Except PyExc Bool)
  hasInvestigationStore : Bool
  sendMessage : String → String → JsonDict → Except PyExc Json
  receiveMessage : String → Json → Except PyExc Unit
  publish : String → Json → Except PyExc Unit
  sendToDlq : Option (WorkerJob → String → Except PyExc Unit)
  validateSchema : String → JsonDict → Except PyExc JsonDict
  parseJsonText : String → Except PyExc (Option JsonDict)
  dumps : Json → String
  str : Json → String
  dumpState : InvestigationState → Json
  stage : String
  selfRefineMax : Int

structure Prepared where
  creds : SandboxCredentials
  sanitized : String
  defn : AgentDefinition
  call : AgentCall

namespace World

def upsertRunning (w : World) (job : WorkerJob) (sessionId : String) : World :=
  { w with
    jobStore := w.jobStore.upsertRunning job.jobId sessionId job.persona job.correlationId job.tenantId
      job.eventId }

def markPersonaDone (w : World) (job : WorkerJob) : World :=
  { w with investigations := w.investigations.markPersonaDone job.tenantId job.investigationId job.persona }

def appendFinding (w : World) (tenantId investigationId : String) (finding : JsonDict) : World :=
  { w with investigations := w.investigations.appendFinding tenantId investigationId finding }

def publish (w : World) (publication : Publication) : World :=
  { w with published := w.published ++ [publication] }

def appendPendingFinding (w : World) (finding : PendingFinding) : World :=
  { w with pendingFindings := w.pendingFindings ++ [finding] }

def recordAgentFailure (w : World) (persona : String) : World :=
  { w with agentFailures := w.agentFailures ++ [persona] }

def deadLetter (w : World) (letter : DeadLetter) : World :=
  { w with deadLetters := w.deadLetters ++ [letter] }

def destroySandbox (w : World) (runId : String) : World :=
  { w with destroyedSandboxes := w.destroyedSandboxes ++ [runId] }

end World

namespace RunWorkerJob

def markPersonaTerminal (deps : WorkerDeps) (job : WorkerJob) : Effect Unit :=
  if deps.hasInvestigationStore then modify fun w => w.markPersonaDone job else pure ()

def memoryInvestigationId (deps : WorkerDeps) (job : WorkerJob) : String :=
  let parentKey := JsonDict.getD job.payload "parent_correlation_key" .null
  if parentKey.truthy then deps.str parentKey else job.investigationId

def priorFinding (entry : MemoryEntry) : Json := .obj
  [("agent", .str entry.sourceAgent), ("type", .str entry.memoryType), ("content", .str entry.content),
    ("job_id", .str entry.sourceJobId)]

def investigationContext (deps : WorkerDeps) (job : WorkerJob) : Effect JsonDict := do
  let investigationId := memoryInvestigationId deps job
  let w ← get
  let state := if deps.hasInvestigationStore then w.investigations.get job.tenantId investigationId else none
  let entries ← resultOf (match deps.queryInvestigation with
    | none => .ok []
    | some query => query job.tenantId investigationId)
  return [("investigation_id", .str investigationId), ("tenant_id", .str job.tenantId)] ++
    (state.map fun state => ("state", deps.dumpState state)).toList ++
    if entries.isEmpty then [] else [("prior_findings", .arr (entries.map priorFinding))]

def jobInput (deps : WorkerDeps) (job : WorkerJob) : Effect String := do
  let context ← investigationContext deps job
  return deps.dumps (.obj
    [("event_id", .str job.eventId), ("playbook_id", .str job.playbookId), ("payload", .obj job.payload),
      ("sandbox_id", .str job.sandboxId), ("feedback", .str job.feedback),
      ("investigation_context", .obj context)])

def resolveTools (deps : WorkerDeps) (job : WorkerJob) (creds : SandboxCredentials)
    (defn : AgentDefinition) : Except PyExc (List BoundTool) := do
  let tools ←
    if deps.useToolGateway then
      McpToolRegistry.resolve deps.toolRegistry defn.tools creds.sandboxId job.persona job.jobId job.correlationId
    else deps.toolRegistry.resolve defn.tools
  return if defn.skills = [] then tools else tools ++ [.loadSkill defn.skills job.persona job.jobId]

/-- `execute` up to the call of the runtime. -/
def prepare (deps : WorkerDeps) (job : WorkerJob) (sessionId : String) : Effect Prepared := do
  let creds ← resultOf (deps.acreate job.jobId job.persona)
  modify fun w => w.upsertRunning job sessionId
  let rawInput ← jobInput deps { job with sandboxId := creds.sandboxId, status := .running }
  let sanitized ← resultOf (deps.sanitize rawInput)
  let defn ← resultOf (deps.registry job.persona)
  let sandboxTools ← resultOf (resolveTools deps job creds defn)
  let call : AgentCall :=
    { name := job.persona, userInput := sanitized, sessionId
      sandboxTools := if sandboxTools = [] then none else some sandboxTools
      jobId := job.jobId, eventId := job.eventId, correlationId := job.correlationId, tenantId := job.tenantId
      investigationId := memoryInvestigationId deps job, sandboxId := creds.sandboxId }
  return { creds, sanitized, defn, call }

/-- `result` when it parses, for a raw response without an error. -/
def unwrapRawResponse (deps : WorkerDeps) : Json → Except PyExc Json
  | .obj result =>
    if JsonDict.has result "raw_response" ∧ ¬ JsonDict.has result "error" then do
      match ← deps.parseJsonText (deps.str (JsonDict.getD result "raw_response" .null)) with
      | some parsed => return if parsed = [] then .obj result else .obj parsed
      | none => return .obj result
    else return .obj result
  | result => return result

/-- `text[:length]`. -/
def textPrefix (text : String) (length : Nat) : String := String.ofList (text.toList.take length)

def refineCall (job : WorkerJob) (prompt sessionId : String) : AgentCall :=
  { name := job.persona, userInput := prompt, sessionId, tenantId := job.tenantId
    investigationId := job.investigationId }

def critiquePrompt (deps : WorkerDeps) (job : WorkerJob) (sanitized : String) (result : JsonDict) : String :=
  s!"Critique this worker output for persona {job.persona}. " ++
    s!"Input:\n{textPrefix sanitized 2000}\nOutput:\n{textPrefix (deps.dumps (.obj result)) 4000}\n" ++
    "Reply JSON: \x7b\"revise\":true|false,\"notes\":\"...\"\x7d"

def revisePrompt (deps : WorkerDeps) (notes : String) (result : JsonDict) : String :=
  s!"Revise your prior output addressing: {notes}\nPrior:\n{textPrefix (deps.dumps (.obj result)) 4000}"

def refineRounds (deps : WorkerDeps) (job : WorkerJob) (sanitized : String) :
    Nat → Nat → JsonDict → Effect (JsonDict × Nat)
  | 0, begun, result => return (result, begun)
  | left + 1, begun, result => do
    let critique := refineCall job (critiquePrompt deps job sanitized result) s!"refine:{job.jobId}:{begun}"
    match ← awaitAgent (deps.arun critique) with
    | .obj revised =>
      let notes := deps.str (JsonDict.getD revised "notes" (JsonDict.getD revised "raw_response" (.str "")))
      if notes = "" then return (result, begun + 1)
      else
        let write := refineCall job (revisePrompt deps notes result) s!"refine:{job.jobId}:{begun}:write"
        match ← awaitAgent (deps.arun write) with
        | .obj updated =>
          if JsonDict.has updated "error" then return (result, begun + 1)
          else refineRounds deps job sanitized left (begun + 1) updated
        | _ => return (result, begun + 1)
    | _ => return (result, begun + 1)

def maybeSelfRefine (deps : WorkerDeps) (job : WorkerJob) (sanitized : String) : Json → Effect Json
  | .obj result =>
    if deps.selfRefineMax ≤ 0 ∨ JsonDict.has result "error" then return .obj result
    else do
      let (refined, rounds) ← refineRounds deps job sanitized deps.selfRefineMax.toNat 0 result
      return .obj (JsonDict.set refined "self_refine_rounds" (.int rounds))
  | result => return result

def addSgrMetadata (result : JsonDict) : JsonDict :=
  if (JsonDict.getD result "reasoning_steps" .null).isList then
    JsonDict.set result "sgr_metadata" (.obj
      [("reasoning_steps", JsonDict.getD result "reasoning_steps" .null),
        ("plan_status", JsonDict.getD result "plan_status" (.str "")),
        ("enough_data", JsonDict.getD result "enough_data" (.bool false))])
  else result

def validated (deps : WorkerDeps) (schema : Option String) : Json → Except PyExc Json
  | .obj result =>
    if JsonDict.has result "error" then .ok (.obj result)
    else
      let result := addSgrMetadata result
      match schema with
      | none => .ok (.obj result)
      | some schema =>
        match deps.validateSchema schema result with
        | .ok data => .ok (.obj data)
        | .error (.securityViolation message) =>
          if deps.stage = "dev" then .ok (.obj result) else .error (.securityViolation message)
        | .error e => .error e
  | result => .ok result

def findingOf (deps : WorkerDeps) (job : WorkerJob) (prepared : Prepared) (result : Json) : Effect Json := do
  let result ← resultOf (unwrapRawResponse deps result)
  let result ← maybeSelfRefine deps job prepared.sanitized result
  let schema ← resultOf (deps.schemas.get (prepared.defn.schemaName.getD ""))
  resultOf (validated deps schema result)

def findingPayload (deps : WorkerDeps) (job : WorkerJob) (prepared : Prepared) (result : Json) : JsonDict :=
  [("agent", .str job.persona), ("event_id", .str job.eventId),
    ("correlation_id", .str (memoryInvestigationId deps job)), ("tenant_id", .str job.tenantId),
    ("job_id", .str job.jobId), ("data", result), ("sandbox_id", .str prepared.creds.sandboxId)]

/-- `list(dict.fromkeys([*bus_recipients, "critic"]))`. -/
def recipients (defn : AgentDefinition) : List String := (defn.busRecipients ++ ["critic"]).eraseDups

def publishTo (deps : WorkerDeps) (job : WorkerJob) (payload : JsonDict) (recipient : String) :
    Except PyExc Json := do
  let envelope ← deps.sendMessage job.persona recipient payload
  deps.receiveMessage recipient envelope
  deps.publish recipient envelope
  return envelope

def publishFinding (deps : WorkerDeps) (job : WorkerJob) (prepared : Prepared) (result : Json) : Effect Unit :=
  let payload := findingPayload deps job prepared result
  forM (recipients prepared.defn) fun recipient => do
    let envelope ← resultOf (publishTo deps job payload recipient)
    modify fun w => w.publish { channel := recipient, payload, message := envelope }

def remember (deps : WorkerDeps) (job : WorkerJob) : Json → Effect Unit
  | .obj result =>
    match deps.appendPendingFinding with
    | none => pure ()
    | some append => do
      let finding : PendingFinding :=
        { tenantId := job.tenantId, investigationId := memoryInvestigationId deps job
          sourceAgent := job.persona, sourceJobId := job.jobId, finding := result }
      if ← resultOf (append finding) then modify fun w => w.appendPendingFinding finding
  | _ => pure ()

def appendFinding (deps : WorkerDeps) (job : WorkerJob) : Json → Effect Unit
  | .obj result =>
    if deps.hasInvestigationStore ∧ ¬ JsonDict.has result "error" then
      modify fun w => w.appendFinding job.tenantId (memoryInvestigationId deps job)
        [("persona", .str job.persona), ("job_id", .str job.jobId), ("finding", .obj result)]
    else pure ()
  | _ => pure ()

/-- The result model of `execute` takes a dict as its finding. -/
def succeeded (job : WorkerJob) (prepared : Prepared) : Json → Except PyExc RunResult
  | .obj finding => .ok
    { jobId := job.jobId, persona := job.persona, success := true, finding, sandboxId := prepared.creds.sandboxId }
  | _ => .error (.exception "finding: Input should be a valid dictionary")

def recordFinding (deps : WorkerDeps) (job : WorkerJob) (prepared : Prepared) (result : Json) :
    Effect RunResult := do
  remember deps job result
  appendFinding deps job result
  markPersonaTerminal deps job
  modify fun w => w.markCompleted job.jobId
  resultOf (succeeded job prepared result)

def finish (deps : WorkerDeps) (job : WorkerJob) (prepared : Prepared) (result : Json) : Effect RunResult := do
  let result ← findingOf deps job prepared result
  publishFinding deps job prepared result
  recordFinding deps job prepared result

def failed (job : WorkerJob) (e : PyExc) : RunResult :=
  { jobId := job.jobId, persona := job.persona, success := false, error := e.message }

def handledJob (deps : WorkerDeps) (job : WorkerJob) : WorkerJob :=
  match deps.acreate job.jobId job.persona with
  | .ok creds => { job with sandboxId := creds.sandboxId, status := .failed }
  | .error _ => { job with status := .failed }

def markFailed (deps : WorkerDeps) (job : WorkerJob) : Effect Unit := do
  modify fun w => w.markFailed job.jobId
  markPersonaTerminal deps job

def sendToDlq (deps : WorkerDeps) (job : WorkerJob) (e : PyExc) : Effect Unit :=
  match deps.sendToDlq with
  | none => pure ()
  | some send => do
    resultOf (send (handledJob deps job) e.message)
    modify fun w => w.deadLetter { job := handledJob deps job, error := e.message }

def onExpected (deps : WorkerDeps) (job : WorkerJob) (e : PyExc) : Effect RunResult := do
  markFailed deps job
  return failed job e

def onUnexpected (deps : WorkerDeps) (job : WorkerJob) (e : PyExc) : Effect RunResult := do
  modify fun w => w.recordAgentFailure job.persona
  markFailed deps job
  sendToDlq deps job e
  return failed job e

def onFailure (deps : WorkerDeps) (job : WorkerJob) : PyExc → Effect RunResult
  | .baseException message => throw (.baseException message)
  | .jobBudgetExceeded message => onExpected deps job (.jobBudgetExceeded message)
  | .securityViolation message => onExpected deps job (.securityViolation message)
  | e => onUnexpected deps job e

def destroySandbox (deps : WorkerDeps) (job : WorkerJob) : Effect Unit := do
  resultOf (deps.adestroy job.jobId)
  modify fun w => w.destroySandbox job.jobId

def settle (deps : WorkerDeps) (job : WorkerJob) (body : Effect RunResult) : Effect RunResult :=
  ensuring (tryCatch body (onFailure deps job)) (destroySandbox deps job)

def body (deps : WorkerDeps) (job : WorkerJob) (sessionId : String) : Effect RunResult := do
  let prepared ← prepare deps job sessionId
  let result ← awaitAgent (deps.arun prepared.call)
  finish deps job prepared result

def execute (deps : WorkerDeps) (job : WorkerJob) (sessionId : String) : Effect RunResult :=
  settle deps job (body deps job sessionId)

end RunWorkerJob

end CysAgi
