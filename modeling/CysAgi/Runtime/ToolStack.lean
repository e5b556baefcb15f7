import CysAgi.Budget.ToolCalls
import CysAgi.Runs.SpawnBroker

namespace CysAgi

open Py

structure ScopePolicy where
  allowedTools : List String
  blockedPathPatterns : List String := ["*.env", "*.key", "*.pem", "*secret*"]

namespace ScopePolicy

def checkTool (policy : ScopePolicy) (toolName : String) : Option String :=
  if toolName ∈ policy.allowedTools then none
  else some s!"Access denied: tool '{toolName}' is not allowed for this agent."

def checkPathArg (policy : ScopePolicy) (lower : String → String) (key value : String) : Option String :=
  if ¬contains (lower key) "path" then none
  else if policy.blockedPathPatterns.any fun pattern =>
      let clean := String.ofList (pattern.toList.filter (· ≠ '*'))
      clean ≠ "" && contains (lower value) clean
    then some s!"Access denied: path '{value}' matches blocked pattern."
  else none

def checkToolCall (policy : ScopePolicy) (lower : String → String) (toolName : String) (args : JsonDict) :
    Option String :=
  match policy.checkTool toolName with
  | some reason => some reason
  | none => args.findSome? fun
    | (key, .str value) => policy.checkPathArg lower key value
    | _ => none

theorem checkToolCall_allowed {policy : ScopePolicy} {lower : String → String} {toolName : String} {args : JsonDict}
    (passed : policy.checkToolCall lower toolName args = none) : toolName ∈ policy.allowedTools := by
  by_contra other
  rw [checkToolCall, checkTool, if_neg other] at passed
  cases passed

theorem checkToolCall_bare {policy : ScopePolicy} {toolName : String} (lower : String → String)
    (allowed : toolName ∈ policy.allowedTools) : policy.checkToolCall lower toolName [] = none := by
  rw [checkToolCall, checkTool, if_pos allowed]
  rfl

end ScopePolicy

/-- `str.lower`, `str.isdigit`, `int` and `json.loads`; the last answers `none` for a text that it
    cannot decode. -/
structure TextReader where
  lower : String → String
  isDigit : String → Bool
  int : String → Except PyExc Int
  loads : String → Except PyExc (Option Json)

namespace TextReader

variable (reader : TextReader)

def coerceText (value : String) : Except PyExc Json :=
  let stripped := strip value
  let lower := reader.lower stripped
  if lower = "true" ∨ lower = "false" then .ok (.bool (lower = "true"))
  else if reader.isDigit stripped then .int <$> reader.int stripped
  else if startsWith stripped "[" ∨ startsWith stripped "\x7b" then
    (fun decoded => decoded.getD (.str value)) <$> reader.loads stripped
  else .ok (.str value)

mutual

def coerceValue : Json → Except PyExc Json
  | .str value => reader.coerceText value
  | .obj fields => .obj <$> coerceToolArgs fields
  | .arr items => .arr <$> coerceItems items
  | value => .ok value

def coerceItems : List Json → Except PyExc (List Json)
  | [] => .ok []
  | item :: rest => do
    let item ← coerceValue item
    return item :: (← coerceItems rest)

def coerceToolArgs : JsonDict → Except PyExc JsonDict
  | [] => .ok []
  | (key, value) :: rest => do
    let value ← coerceValue value
    return (key, value) :: (← coerceToolArgs rest)

end

end TextReader

def reasoningStepTool : String := "reasoning_step"

structure TurnState where
  reasoningDone : Bool := false
  actionTools : Nat := 0
  toolCalls : Nat := 0

/-- The innermost middleware: the two of schema-guided reasoning, `OneToolPerTurnMiddleware` or none. -/
inductive TurnGuard where
  | sgr (requireBeforeAction : Bool)
  | oneTool
  | free

namespace TurnGuard

def wrap (turn : TurnState) (toolName : String) : TurnGuard → TurnState × Option String
  | .sgr requireBeforeAction =>
    if toolName = reasoningStepTool then (turn, none)
    else if requireBeforeAction ∧ ¬turn.reasoningDone then
      (turn, some s!"Call {reasoningStepTool} before using {toolName}.")
    else if turn.actionTools ≥ 1 then (turn, some "Only one action tool per turn is allowed after reasoning_step.")
    else ({ turn with actionTools := turn.actionTools + 1 }, none)
  | .oneTool =>
    let turn := { turn with toolCalls := turn.toolCalls + 1 }
    (turn, if turn.toolCalls > 1 then
      some "Only one tool call per turn is allowed. Complete this step before invoking another tool."
    else none)
  | .free => (turn, none)

def record (turn : TurnState) (reasons : Prop) [Decidable reasons] (handled : Except PyExc ToolMessage) :
    TurnGuard → TurnState
  | .sgr _ =>
    match handled with
    | .ok _ => if reasons then { turn with reasoningDone := true } else turn
    | .error _ => turn
  | .oneTool | .free => turn

def Holds (toolName : String) : TurnGuard → Prop
  | .sgr requireBeforeAction => requireBeforeAction = true ∧ toolName ≠ reasoningStepTool
  | .oneTool | .free => False

theorem wrap_done (guard : TurnGuard) (turn : TurnState) (toolName : String) :
    (guard.wrap turn toolName).1.reasoningDone = turn.reasoningDone := by
  cases guard with
  | sgr requireBeforeAction =>
    unfold wrap
    dsimp only
    split
    · rfl
    · split
      · rfl
      · split <;> rfl
  | oneTool => rfl
  | free => rfl

theorem reasoned_of_wrap {guard : TurnGuard} {turn : TurnState} {toolName : String} (holds : guard.Holds toolName)
    (lets : (guard.wrap turn toolName).2 = none) : turn.reasoningDone = true := by
  cases guard with
  | sgr requireBeforeAction =>
    obtain ⟨required, action⟩ := holds
    by_contra unreasoned
    simp [wrap, action, required, unreasoned] at lets
  | oneTool => exact holds.elim
  | free => exact holds.elim

theorem record_done {guard : TurnGuard} {turn : TurnState} {reasons : Prop} [Decidable reasons]
    {handled : Except PyExc ToolMessage} (done : (guard.record turn reasons handled).reasoningDone = true) :
    turn.reasoningDone = true ∨ (reasons ∧ ∃ message, handled = .ok message) := by
  cases guard with
  | sgr requireBeforeAction =>
    cases handled with
    | error e => exact .inl done
    | ok message =>
      by_cases counts : reasons
      · exact .inr ⟨counts, message, rfl⟩
      · simp only [record, if_neg counts] at done
        exact .inl done
  | oneTool => exact .inl done
  | free => exact .inl done

theorem wrap_first {guard : TurnGuard} {turn : TurnState} {toolName : String} (actions : turn.actionTools = 0)
    (calls : turn.toolCalls = 0) (ready : guard.Holds toolName → turn.reasoningDone = true) :
    (guard.wrap turn toolName).2 = none := by
  cases guard with
  | sgr requireBeforeAction =>
    by_cases reasoning : toolName = reasoningStepTool
    · simp [wrap, reasoning]
    · have waits : ¬(requireBeforeAction = true ∧ ¬turn.reasoningDone = true) := fun waits =>
        waits.2 (ready ⟨waits.1, reasoning⟩)
      simp only [wrap, if_neg reasoning, if_neg waits, actions]
      rfl
  | oneTool => simp [wrap, calls]
  | free => rfl

end TurnGuard

/-- A compiled agent with all the middleware between its model's tool calls and its tools. -/
structure ToolStack extends Agent where
  scope : ScopePolicy
  reader : TextReader
  guard : TurnGuard
  /-- `SchemaGuidedReasoningStep.model_validate` accepts the arguments. -/
  validatesReasoning : JsonDict → Bool

structure ToolTurns where
  world : World
  turn : TurnState := {}
  inFlight : List ToolCall := []

inductive ToolTurnStep where
  /-- The model is called: a turn begins. -/
  | model
  /-- A call of the model, after the review of a person where the agent asks for one. -/
  | enter (call : ToolCall) (node : NodeRun)
  | leave (index : Nat) (handled : Except PyExc ToolMessage)

namespace ToolStack

variable (stack : ToolStack)

def prepared (call : ToolCall) : Option ToolCall :=
  match stack.scope.checkToolCall stack.reader.lower call.name call.args with
  | some _ => none
  | none =>
    match stack.reader.coerceToolArgs call.args with
    | .error _ => none
    | .ok args => some { call with args }

variable {stack} in
theorem prepared_eq_some {call made : ToolCall} (prepared : stack.prepared call = some made) :
    stack.scope.checkToolCall stack.reader.lower call.name call.args = none ∧
      ∃ args, stack.reader.coerceToolArgs call.args = .ok args ∧ made = { call with args } := by
  unfold ToolStack.prepared at prepared
  cases checked : stack.scope.checkToolCall stack.reader.lower call.name call.args with
  | some reason =>
    rw [checked] at prepared
    cases prepared
  | none =>
    rw [checked] at prepared
    cases coerced : stack.reader.coerceToolArgs call.args with
    | error e =>
      rw [coerced] at prepared
      cases prepared
    | ok args =>
      rw [coerced] at prepared
      cases prepared
      exact ⟨rfl, args, rfl, rfl⟩

def Reasons (call : ToolCall) : Prop := call.name = reasoningStepTool ∧ stack.validatesReasoning call.args = true

instance (call : ToolCall) : Decidable (stack.Reasons call) := inferInstanceAs (Decidable (_ ∧ _))

def start (s : ToolTurns) (call : ToolCall) : ToolTurns :=
  let guarded := stack.guard.wrap s.turn call.name
  match guarded.2 with
  | some content => { s with
      turn := guarded.1
      world := final (stack.middleware.conclude call (.ok (call.errorMessage content))) s.world }
  | none =>
    { turn := guarded.1
      inFlight := s.inFlight ++ [call]
      world := { s.world with executedTools := s.world.executedTools ++ stack.executions call } }

def enter (s : ToolTurns) (call : ToolCall) (node : NodeRun) : ToolTurns :=
  match stack.prepared call with
  | none => s
  | some call =>
    match stack.middleware.gate call node s.world with
    | .ok none world => stack.start { s with world } call
    | .ok (some _) world => { s with world }
    | .error _ world => { s with world }

def leave (s : ToolTurns) (index : Nat) (call : ToolCall) (handled : Except PyExc ToolMessage) : ToolTurns where
  world := final (stack.middleware.conclude call handled) s.world
  turn := stack.guard.record s.turn (stack.Reasons call) handled
  inFlight := s.inFlight.eraseIdx index

/-- The model is called again when all its calls have been answered. -/
def step (s : ToolTurns) : ToolTurnStep → Option ToolTurns
  | .model => if s.inFlight = [] then some { s with turn := {} } else none
  | .enter call node => some (stack.enter s call node)
  | .leave index handled =>
    match s.inFlight[index]? with
    | none => none
    | some call => some (stack.leave s index call handled)

end ToolStack

structure ToolStackSettings where
  resolver : ProfilePolicyResolver := {}
  useSgrReasoning : Bool := true
  sgrDefaultMode : SgrMode := .off
  oneToolPerTurn : Bool := true
  reader : TextReader
  validatesReasoning : JsonDict → Bool

/-- `_build_middleware`, from the scope on. -/
def AgentDefinition.buildMiddleware (defn : AgentDefinition) (settings : ToolStackSettings) (agent : Agent) :
    Except PyExc ToolStack := do
  let policy ← settings.resolver.policy agent.middleware.profileId
  let sgr := resolveSgrPolicy policy.sgr defn.reasoningMode settings.useSgrReasoning settings.sgrDefaultMode
  return { agent with
    scope := { allowedTools := defn.tools }
    reader := settings.reader
    guard :=
      if sgr.enabled then .sgr sgr.requireBeforeAction
      else if settings.oneToolPerTurn then .oneTool
      else .free
    validatesReasoning := settings.validatesReasoning }

/-- The agent of `arun`, with its middleware. -/
def AgentRuntime.arunStack (runtime : AgentRuntime) (settings : ToolStackSettings) (call : AgentCall) :
    Except PyExc ToolStack := do
  let defn ← runtime.registry call.name
  let sessionId := orElse call.sessionId s!"agent-{call.name}"
  let agent ← runtime.acreate defn sessionId call.sandboxTools (orElse call.profileId defaultProfileId)
  defn.buildMiddleware settings agent

theorem AgentRuntime.arunStack_ok {runtime : AgentRuntime} {settings : ToolStackSettings} {call : AgentCall}
    {stack : ToolStack} (compiled : runtime.arunStack settings call = .ok stack) :
    runtime.arunAgent call = .ok stack.toAgent ∧
      ∃ defn, runtime.registry call.name = .ok defn ∧ stack.scope.allowedTools = defn.tools := by
  obtain ⟨defn, registered, compiled⟩ := except_bind_ok.mp compiled
  obtain ⟨agent, created, compiled⟩ := except_bind_ok.mp compiled
  obtain ⟨policy, -, built⟩ := except_bind_ok.mp compiled
  cases built
  refine ⟨?_, defn, registered, rfl⟩
  unfold arunAgent
  rw [registered]
  exact created

namespace SecurityMiddleware

def Passable (mw : SecurityMiddleware) (toolName : String) : Prop :=
  mw.Gated { name := toolName } → mw.stage ≠ "dev"

def approvedNode : NodeRun := { answer := some (.obj [("decision", .str "approve")]) }

variable {mw : SecurityMiddleware} {call : ToolCall} {node : NodeRun} {w : World}

theorem passable_of_gate (through : outcome (mw.gate call node) w = .ok none) : mw.Passable call.name := by
  obtain ⟨-, awaited⟩ := (outcome_gate_iff w).mp through
  intro gated dev
  have held : mw.Gated call := gated
  obtain ⟨message, blocked⟩ := awaitHitlIfNeeded_dev node held dev w
  rw [outcome, blocked] at awaited
  cases awaited

theorem gate_approved (passable : mw.Passable call.name) (unspent : w.budgets.checkToolCall mw.sessionId = none) :
    outcome (mw.gate call approvedNode) w = .ok none := by
  refine (outcome_gate_iff w).mpr ⟨⟨unspent, rfl⟩, ?_⟩
  by_cases gated : mw.Gated call
  · rw [outcome, awaitHitlIfNeeded_gated gated (passable gated)]
    rfl
  · rw [outcome, awaitHitlIfNeeded_open gated]

end SecurityMiddleware

def World.Affords (w : World) (sessionId : String) (calls : Int) : Prop :=
  ∀ state, w.budgets.get sessionId = some state → state.toolCalls + calls ≤ state.maxToolCalls

namespace World

variable {w v : World} {sessionId : String} {calls : Int}

theorem Affords.mono {fewer : Int} (affords : w.Affords sessionId calls) (less : fewer ≤ calls) :
    w.Affords sessionId fewer := by
  intro state tracked
  have enough := affords state tracked
  omega

theorem affords_congr (same : v.budgets = w.budgets) : v.Affords sessionId calls ↔ w.Affords sessionId calls := by
  rw [Affords, Affords, same]

theorem affords_one_iff : w.Affords sessionId 1 ↔ w.budgets.checkToolCall sessionId = none := by
  unfold Affords
  cases tracked : w.budgets.get sessionId with
  | none => simp [(JobBudgetTracker.untracked_call w.budgets sessionId tracked).1]
  | some state =>
    rw [JobBudgetTracker.checkToolCall_none_iff tracked]
    simp only [Option.some.injEq, forall_eq']
    omega

theorem affords_returned_iff (mw : SecurityMiddleware) (call : ToolCall) (message : ToolMessage) (w : World)
    (positive : 1 ≤ calls) :
    (final (mw.conclude call (.ok message)) w).Affords mw.sessionId calls ↔ w.Affords mw.sessionId (calls + 1) := by
  unfold Affords
  rw [SecurityMiddleware.budgets_conclude]
  dsimp only
  cases tracked : w.budgets.get mw.sessionId with
  | none =>
    obtain ⟨-, after, recorded, untracked⟩ := JobBudgetTracker.untracked_call w.budgets mw.sessionId tracked
    simp [recorded, untracked]
  | some state =>
    by_cases below : state.toolCalls < state.maxToolCalls
    · obtain ⟨after, recorded⟩ := JobBudgetTracker.recordToolCall_below tracked below
      have counted := JobBudgetTracker.recordToolCall_ok recorded mw.sessionId
      rw [if_pos rfl, tracked] at counted
      simp only [recorded, counted, Option.map_some, Option.some.injEq, forall_eq']
      omega
    · have spent : w.budgets.checkToolCall mw.sessionId ≠ none := fun unspent =>
        below ((JobBudgetTracker.checkToolCall_none_iff tracked).mp unspent)
      obtain ⟨e, refused⟩ := Option.ne_none_iff_exists'.mp spent
      simp only [JobBudgetTracker.recordToolCall, refused, tracked, Option.some.injEq, forall_eq']
      omega

theorem Affords.concluded {mw : SecurityMiddleware} {call : ToolCall} {handled : Except PyExc ToolMessage}
    (affords : (final (mw.conclude call handled) w).Affords mw.sessionId calls) (positive : 1 ≤ calls) :
    w.Affords mw.sessionId calls := by
  cases handled with
  | error e => exact (affords_congr (SecurityMiddleware.budgets_conclude mw call (.error e) w)).mp affords
  | ok message => exact ((affords_returned_iff mw call message w positive).mp affords).mono (by omega)

end World

end CysAgi
