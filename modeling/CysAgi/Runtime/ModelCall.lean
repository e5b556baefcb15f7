import CysAgi.Base.Onion
import CysAgi.Catalog.PromptDigest
import CysAgi.Memory.PromptFormat
import CysAgi.Runs.MessageTrim
import CysAgi.Runtime.SgrTurns
import CysAgi.Security.AgentMonitor
import CysAgi.Security.InputSanitizer

open Py Onion

namespace CysAgi

structure ModelRequest where
  systemMessage : Option String
  messages : List AnyMessage
  deriving DecidableEq

structure ModelResponse where
  result : List AnyMessage
  structuredResponse : Option Json := none
  deriving DecidableEq

/-- What the middleware of one agent keeps, and the requests that its model was given. -/
structure ModelWorld where
  monitor : AgentMonitor
  entriesLoaded : Nat := 0
  lastSummary : String := ""
  turn : TurnState := {}
  given : List ModelRequest := []

abbrev ModelEffect := EStateM PyExc ModelWorld

abbrev ModelHandler := Handler PyExc ModelWorld ModelRequest ModelResponse

abbrev ModelLayer := Layer PyExc ModelWorld ModelRequest ModelResponse

/-- The digest, `str.lower`, `str` of what is no text, and the clock at each entry of the monitor's log. -/
structure ModelLibrary where
  sha256Hex : String → String
  lower : String → String
  str : Json → String
  now : Nat → Readings

structure ModelSurroundings where
  queryInvestigation : String → String → Int → Except PyExc (List MemoryEntry)
  summarize : String → String → String → Except PyExc String
  model : ModelRequest → Except PyExc ModelResponse

def joinError : PyExc := .exception "sequence item: expected str instance"

def blockText (lib : ModelLibrary) : Json → Except PyExc String
  | .obj fields =>
    match JsonDict.getD fields "text" (.str "") with
    | .str text => .ok text
    | _ => .error joinError
  | .str text => .ok text
  | block => .ok (lib.str block)

def extractMessageContent (lib : ModelLibrary) : Json → Except PyExc String
  | .arr blocks => String.join <$> blocks.mapM (blockText lib)
  | .str text => .ok text
  | content => .ok (lib.str content)

def refusal : ModelResponse := { result := [{ kind := .ai [], content := .str Catalog.refusalMessage }] }

structure PromptContextMiddleware extends Catalog.PromptContextMiddleware where
  sanitizer : InputSanitizer
  /-- `re.search` of each of the leakage patterns, without case. -/
  leakagePatterns : List (String → Bool)

namespace PromptContextMiddleware

variable (middleware : PromptContextMiddleware) (lib : ModelLibrary)

def monitored (call : Readings → MonitorCall) : ModelEffect PUnit :=
  modify fun w => { w with monitor := w.monitor.step lib.lower (call (lib.now w.monitor.events.length)) }

def recordInjectionAttempt (verdict : String) (details : JsonDict) : ModelEffect PUnit :=
  monitored lib (.injectionAttempt middleware.sessionId verdict details "system")

def messageSource (message : AnyMessage) (text : String) : UntrustedSource :=
  if message.isTool then .tool
  else if contains text "source=\"agent_bus\"" || contains text "source=agent_bus" then .agentBus
  else if contains text "source=\"external\"" || contains text "source=external" then .external
  else .user

def validateSystemContext (request : ModelRequest) : ModelEffect (Option String) := do
  let (attempts, violation) :=
    middleware.toPromptContextMiddleware.validateSystemContext lib.sha256Hex [] request.systemMessage
  attempts.forM fun attempt => middleware.recordInjectionAttempt lib attempt.verdict [("reason", .str attempt.reason)]
  return violation

/-- What the loop of `_sanitize_messages` does with the text of a message. -/
def sanitizeText (message : AnyMessage) (text : String) : ModelEffect AnyMessage :=
  let source := messageSource message text
  if middleware.sanitizer.classify text = .hard then do
    middleware.recordInjectionAttempt lib InjectionVerdict.hard.value
      [("reason", .str "hard_injection_in_message"), ("source", .str source.text)]
    throw (.securityViolation "Hard prompt injection in model context")
  else do
    if middleware.sanitizer.classify text = .soft then
      middleware.recordInjectionAttempt lib InjectionVerdict.soft.value
        [("reason", .str "soft_injection_in_message"), ("source", .str source.text)]
    let wrapped ← resultOf (middleware.sanitizer.sanitize text source)
    return { message with content := .str wrapped }

def sanitizeMessage (message : AnyMessage) : ModelEffect AnyMessage :=
  match message.kind with
  | .system => do
    middleware.recordInjectionAttempt lib InjectionVerdict.hard.value
      [("reason", .str "fake_system_message_in_history")]
    throw (.securityViolation "System message injection in conversation history")
  | .human | .tool _ => do
    let text ← resultOf (extractMessageContent lib message.content)
    middleware.sanitizeText lib message text
  | _ => return message

def sanitizeMessages : List AnyMessage → ModelEffect (List AnyMessage)
  | [] => return []
  | message :: rest => do
    let sanitized ← middleware.sanitizeMessage lib message
    let others ← sanitizeMessages rest
    return sanitized :: others

def detectPromptLeakage (text : String) : Bool := middleware.leakagePatterns.any fun search => search text

def guardResponse (response : ModelResponse) : ModelEffect ModelResponse :=
  match response.result.getLast? with
  | none => return response
  | some last =>
    if last.type = "ai" then do
      let text ← resultOf (extractMessageContent lib last.content)
      if middleware.detectPromptLeakage text then
        monitored lib fun now => .securityEvent middleware.sessionId "prompt_leakage_blocked" "WARNING"
          [("agent_id", .str middleware.agentId)] "system" now.event
        return refusal
      else return response
    else return response

/-- `except SecurityViolation`. -/
def orRefused (messages : ModelEffect (List AnyMessage)) : ModelEffect (Option (List AnyMessage)) :=
  tryCatch (some <$> messages) fun raised =>
    match raised with
    | .securityViolation _ => return none
    | raised => throw raised

def awrapModelCall (handler : ModelHandler) (request : ModelRequest) : ModelEffect ModelResponse := do
  match ← middleware.validateSystemContext lib request with
  | some text => return { result := [{ kind := .ai [], content := .str text }] }
  | none =>
    match ← orRefused (middleware.sanitizeMessages lib request.messages) with
    | none => return refusal
    | some messages =>
      let response ← handler { request with messages }
      middleware.guardResponse lib response

def layer : ModelLayer where
  before request := do
    match ← middleware.validateSystemContext lib request with
    | some text => return .inl { result := [{ kind := .ai [], content := .str text }] }
    | none =>
      match ← orRefused (middleware.sanitizeMessages lib request.messages) with
      | none => return .inl refusal
      | some messages => return .inr { request with messages }
  after := middleware.guardResponse lib

theorem wrap_layer (handler : ModelHandler) : (middleware.layer lib).wrap handler = middleware.awrapModelCall lib handler := by
  funext request w
  simp only [Layer.run_wrap, layer, awrapModelCall, run_bind]
  cases middleware.validateSystemContext lib request w with
  | error e t => rfl
  | ok violation t =>
    cases violation with
    | some text => rfl
    | none =>
      simp only [run_bind]
      cases orRefused (middleware.sanitizeMessages lib request.messages) t with
      | error e u => rfl
      | ok sanitized u =>
        cases sanitized with
        | none => rfl
        | some messages => rfl

end PromptContextMiddleware

def asking (prepare : ModelRequest → ModelEffect ModelRequest) : ModelLayer where
  before request := .inr <$> prepare request
  after answer := return answer

theorem wrap_asking (prepare : ModelRequest → ModelEffect ModelRequest) (handler : ModelHandler) :
    (asking prepare).wrap handler = fun request => prepare request >>= handler := by
  funext request w
  simp only [Layer.run_wrap, asking, map_eq_pure_bind, run_bind]
  cases prepare request w with
  | error e t => rfl
  | ok asked t =>
    simp only [run_pure]
    cases handler asked t <;> rfl

theorem preparing_asking (prepare : ModelRequest → ModelEffect ModelRequest) : (asking prepare).Preparing := by
  constructor
  · intro request w answer t answered
    simp only [asking, map_eq_pure_bind, run_bind] at answered
    cases ran : prepare request w with
    | error e u => simp [ran] at answered
    | ok asked u => simp [ran] at answered
  · intro answer
    rfl

theorem asks_asking {prepare : ModelRequest → ModelEffect ModelRequest} {request asked : ModelRequest}
    {w t : ModelWorld} : (asking prepare).Asks request w asked t ↔ prepare request w = .ok asked t := by
  simp only [Layer.Asks, asking, map_eq_pure_bind, run_bind]
  cases prepare request w with
  | error e u => simp
  | ok prepared u => simp

structure MemoryContextMiddleware where
  tenantId : String := "default"
  investigationId : String := ""
  maxEntries : Int := 10
  maxChars : Int := 4000

namespace MemoryContextMiddleware

variable (middleware : MemoryContextMiddleware) (outside : ModelSurroundings)

def memoryMessage (entries : List MemoryEntry) : AnyMessage :=
  { kind := .human
    content := .str (wrapInvestigationMemory (formatForPrompt entries middleware.maxChars) "internal") }

def injectMemory (request : ModelRequest) : ModelEffect (List AnyMessage) :=
  if middleware.investigationId = "" then return request.messages
  else do
    let entries ← resultOf
      (outside.queryInvestigation middleware.tenantId middleware.investigationId middleware.maxEntries)
    modify fun w => { w with entriesLoaded := entries.length }
    if entries = [] then return request.messages
    else return request.messages ++ [middleware.memoryMessage entries]

def awrapModelCall (handler : ModelHandler) (request : ModelRequest) : ModelEffect ModelResponse := do
  let messages ← middleware.injectMemory outside request
  handler { request with messages }

def layer : ModelLayer := asking fun request => do
  let messages ← middleware.injectMemory outside request
  return { request with messages }

theorem wrap_layer (handler : ModelHandler) :
    (middleware.layer outside).wrap handler = middleware.awrapModelCall outside handler := by
  funext request
  rw [layer, wrap_asking, awrapModelCall]
  simp

end MemoryContextMiddleware

namespace ContextSummaryMiddleware

variable (middleware : ContextSummaryMiddleware) (outside : ModelSurroundings)

def summarized (messages : List AnyMessage) : ModelEffect (List AnyMessage) := do
  let kept := { middleware with summarize := outside.summarize, lastSummary := (← get).lastSummary }
  let (messages, summary) ← resultOf (kept.maybeSummarize messages)
  modify fun w => { w with lastSummary := summary }
  return messages

def awrapModelCall (handler : ModelHandler) (request : ModelRequest) : ModelEffect ModelResponse := do
  let messages ← middleware.summarized outside request.messages
  handler { request with messages }

def layer : ModelLayer := asking fun request => do
  let messages ← middleware.summarized outside request.messages
  return { request with messages }

theorem wrap_layer (handler : ModelHandler) :
    (middleware.layer outside).wrap handler = middleware.awrapModelCall outside handler := by
  funext request
  rw [layer, wrap_asking, awrapModelCall]
  simp

end ContextSummaryMiddleware

def reasoningReminder : AnyMessage :=
  { kind := .system
    content := .str ("Before any action tool, you MUST call reasoning_step with structured fields: " ++
      "reasoning_steps, current_situation, plan_status, remaining_steps, enough_data, task_completed.") }

namespace SchemaGuidedReasoningMiddleware

variable (policy : ResolvedSgrPolicy)

def reminded (request : ModelRequest) : ModelRequest :=
  if policy.enabled ∧ policy.requireBeforeAction then
    { request with messages := reasoningReminder :: request.messages }
  else request

def awrapModelCall (handler : ModelHandler) (request : ModelRequest) : ModelEffect ModelResponse := do
  modify fun w => { w with turn := w.turn.resetTurn }
  handler (reminded policy request)

def layer : ModelLayer := asking fun request => do
  modify fun w => { w with turn := w.turn.resetTurn }
  return reminded policy request

theorem wrap_layer (handler : ModelHandler) : (layer policy).wrap handler = awrapModelCall policy handler := by
  funext request
  rw [layer, wrap_asking, awrapModelCall]
  simp

end SchemaGuidedReasoningMiddleware

namespace OneToolPerTurnMiddleware

def awrapModelCall (handler : ModelHandler) (request : ModelRequest) : ModelEffect ModelResponse := do
  modify fun w => { w with turn := { w.turn with toolCalls := 0 } }
  handler request

def layer : ModelLayer := asking fun request => do
  modify fun w => { w with turn := { w.turn with toolCalls := 0 } }
  return request

theorem wrap_layer (handler : ModelHandler) : layer.wrap handler = awrapModelCall handler := by
  funext request
  rw [layer, wrap_asking, awrapModelCall]
  simp

end OneToolPerTurnMiddleware

structure ModelStack where
  lib : ModelLibrary
  prompt : PromptContextMiddleware
  memory : Option MemoryContextMiddleware := none
  summary : Option ContextSummaryMiddleware := none
  sgr : ResolvedSgrPolicy
  oneToolPerTurn : Bool := false

namespace ModelStack

def callModel (outside : ModelSurroundings) : ModelHandler := fun request => do
  modify fun w => { w with given := w.given ++ [request] }
  resultOf (outside.model request)

def awrapModelCall (stack : ModelStack) (outside : ModelSurroundings) : ModelHandler :=
  let guarded :=
    if stack.sgr.enabled then SchemaGuidedReasoningMiddleware.awrapModelCall stack.sgr (callModel outside)
    else if stack.oneToolPerTurn then OneToolPerTurnMiddleware.awrapModelCall (callModel outside)
    else callModel outside
  let summarized := match stack.summary with
    | none => guarded
    | some middleware => middleware.awrapModelCall outside guarded
  let recalled := match stack.memory with
    | none => summarized
    | some middleware => middleware.awrapModelCall outside summarized
  stack.prompt.awrapModelCall stack.lib recalled

def guards (stack : ModelStack) : List ModelLayer :=
  if stack.sgr.enabled then [SchemaGuidedReasoningMiddleware.layer stack.sgr]
  else if stack.oneToolPerTurn then [OneToolPerTurnMiddleware.layer]
  else []

def inside (stack : ModelStack) (outside : ModelSurroundings) : List ModelLayer :=
  stack.memory.toList.map (·.layer outside) ++ (stack.summary.toList.map (·.layer outside) ++ stack.guards)

theorem awrapModelCall_eq (stack : ModelStack) (outside : ModelSurroundings) :
    stack.awrapModelCall outside =
      (Layer.stack (stack.prompt.layer stack.lib :: stack.inside outside)).wrap (callModel outside) := by
  have guards : (if stack.sgr.enabled then SchemaGuidedReasoningMiddleware.awrapModelCall stack.sgr (callModel outside)
      else if stack.oneToolPerTurn then OneToolPerTurnMiddleware.awrapModelCall (callModel outside)
      else callModel outside) = stack.guards.foldr Layer.wrap (callModel outside) := by
    unfold ModelStack.guards
    split
    · exact (SchemaGuidedReasoningMiddleware.wrap_layer stack.sgr _).symm
    · split
      · exact (OneToolPerTurnMiddleware.wrap_layer _).symm
      · rfl
  rw [Layer.wrap_stack, List.foldr_cons, inside, List.foldr_append, List.foldr_append,
    PromptContextMiddleware.wrap_layer, awrapModelCall, guards]
  congr 1
  cases stack.memory with
  | none =>
    cases stack.summary with
    | none => rfl
    | some summary => exact (summary.wrap_layer outside _).symm
  | some memory =>
    cases stack.summary with
    | none => exact (memory.wrap_layer outside _).symm
    | some summary =>
      have inner := summary.wrap_layer outside (stack.guards.foldr Layer.wrap (callModel outside))
      exact ((memory.wrap_layer outside _).trans (congrArg (memory.awrapModelCall outside) inner)).symm

end ModelStack

end CysAgi
