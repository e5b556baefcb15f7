import CysAgi.Hitl.SecurityMiddleware
import CysAgi.Runtime.SgrPolicy
import CysAgi.Runtime.Tools

namespace CysAgi

open Py

structure AgentDefinition where
  name : String
  schemaName : Option String := none
  tools : List String := []
  skills : List String := []
  trustLevel : String := "internal"
  busRecipients : List String := []
  reasoningMode : SgrMode := .off

structure SchemaRegistry where
  names : List String

def SchemaRegistry.get (schemas : SchemaRegistry) (name : String) : Except PyExc (Option String) :=
  if name = "" then .ok none
  else if name ∈ schemas.names then .ok (some name)
  else .error (.exception s!"Unknown schema: {name}")

structure Agent where
  tools : List BoundTool
  middleware : SecurityMiddleware

structure AgentRuntime where
  registry : String → Except PyExc AgentDefinition
  toolRegistry : ToolRegistry
  schemas : SchemaRegistry
  policy : RiskPolicy
  stage : String
  paramsHash : JsonDict → String

structure AgentCall where
  name : String
  userInput : String
  sessionId : String := ""
  sandboxTools : Option (List BoundTool) := none
  jobId : String := ""
  eventId : String := ""
  correlationId : String := ""
  tenantId : String := "default"
  investigationId : String := ""
  sandboxId : String := ""
  profileId : String := defaultProfileId
  deriving DecidableEq

namespace AgentRuntime

def acreate (runtime : AgentRuntime) (defn : AgentDefinition) (sessionId : String := "default")
    (sandboxTools : Option (List BoundTool) := none) (profileId : String := defaultProfileId) :
    Except PyExc Agent := do
  let tools ← match sandboxTools with
    | some tools => pure tools
    | none => do
      let names := runtime.toolRegistry.filterToolsForProfile defn.tools profileId
      let tools ← runtime.toolRegistry.resolve names profileId
      pure (if defn.skills = [] then tools else tools ++ [.loadSkill defn.skills defn.name sessionId])
  let _ ← runtime.schemas.get (defn.schemaName.getD "")
  let middleware : SecurityMiddleware :=
    { agentId := defn.name, sessionId, stage := runtime.stage, policy := runtime.policy
      paramsHash := runtime.paramsHash, profileId }
  return { tools, middleware }

def arunAgent (runtime : AgentRuntime) (call : AgentCall) : Except PyExc Agent := do
  let defn ← runtime.registry call.name
  let sessionId := orElse call.sessionId s!"agent-{call.name}"
  runtime.acreate defn sessionId call.sandboxTools (orElse call.profileId defaultProfileId)

/-- The agent that `aresume` invokes: nothing of the first run but its session is given. -/
def aresumeAgent (runtime : AgentRuntime) (name sessionId : String) : Except PyExc Agent := do
  let defn ← runtime.registry name
  runtime.acreate defn sessionId

theorem acreate_ok {runtime : AgentRuntime} {defn : AgentDefinition} {sessionId profileId : String}
    {sandboxTools : Option (List BoundTool)} {agent : Agent}
    (created : runtime.acreate defn sessionId sandboxTools profileId = .ok agent) :
    agent.middleware.sessionId = sessionId ∧ agent.middleware.profileId = profileId ∧
      (∀ tools, sandboxTools = some tools → agent.tools = tools) ∧
      (sandboxTools = none → ∀ tool ∈ agent.tools,
        (∃ name, tool = .registry name) ∨ ∃ skills, tool = .loadSkill skills defn.name sessionId) := by
  unfold acreate at created
  cases sandboxTools with
  | some given =>
    obtain ⟨tools, same, created⟩ := except_bind_ok.mp created
    obtain ⟨schema, -, created⟩ := except_bind_ok.mp created
    cases same
    cases created
    exact ⟨rfl, rfl, fun _ same => Option.some.inj same, nofun⟩
  | none =>
    obtain ⟨inProcess, resolved, created⟩ := except_bind_ok.mp created
    obtain ⟨tools, made, created⟩ := except_bind_ok.mp created
    obtain ⟨schema, -, created⟩ := except_bind_ok.mp created
    cases made
    cases created
    refine ⟨rfl, rfl, nofun, fun _ tool member => ?_⟩
    have each := ToolRegistry.resolve_registry resolved
    dsimp only at member
    split at member
    · exact .inl (each tool member)
    · rcases List.mem_append.mp member with member | member
      · exact .inl (each tool member)
      · exact .inr ⟨_, List.mem_singleton.mp member⟩

theorem arunAgent_ok {runtime : AgentRuntime} {call : AgentCall} {agent : Agent}
    (started : runtime.arunAgent call = .ok agent) :
    ∃ defn, runtime.acreate defn (orElse call.sessionId s!"agent-{call.name}") call.sandboxTools
      (orElse call.profileId defaultProfileId) = .ok agent := by
  obtain ⟨defn, -, created⟩ := except_bind_ok.mp started
  exact ⟨defn, created⟩

theorem aresumeAgent_ok {runtime : AgentRuntime} {name sessionId : String} {agent : Agent}
    (resumed : runtime.aresumeAgent name sessionId = .ok agent) :
    ∃ defn, runtime.acreate defn sessionId = .ok agent := by
  obtain ⟨defn, -, created⟩ := except_bind_ok.mp resumed
  exact ⟨defn, created⟩

end AgentRuntime

namespace Agent

def findTool (agent : Agent) (name : String) : Option BoundTool :=
  agent.tools.reverse.find? fun tool => tool.name = name

def execution (agent : Agent) (call : ToolCall) (tool : BoundTool) : ToolExecution :=
  { sessionId := agent.middleware.sessionId, callId := call.id, tool, args := call.args }

def handler (agent : Agent) (call : ToolCall) (node : NodeRun) : Effect ToolMessage :=
  match agent.findTool call.name with
  | none => return call.errorMessage s!"Error: {call.name} is not a valid tool"
  | some tool => do
    modify fun w => { w with executedTools := w.executedTools ++ [agent.execution call tool] }
    let content ← resultOf node.handled
    return { content, toolCallId := call.id, status := "success" }

def callTool (agent : Agent) (call : ToolCall) (node : NodeRun) : Effect ToolMessage :=
  agent.middleware.awrapToolCall call node (agent.handler call node)

def executions (agent : Agent) (call : ToolCall) : List ToolExecution :=
  match agent.findTool call.name with
  | none => []
  | some tool => [agent.execution call tool]

theorem mem_of_findTool {agent : Agent} {name : String} {tool : BoundTool}
    (found : agent.findTool name = some tool) : tool ∈ agent.tools :=
  List.mem_reverse.mp (List.mem_of_find?_eq_some found)

theorem name_of_findTool {agent : Agent} {name : String} {tool : BoundTool}
    (found : agent.findTool name = some tool) : tool.name = name := by
  have matched := List.find?_some found
  simpa using matched

theorem mem_executions {agent : Agent} {call : ToolCall} {e : ToolExecution}
    (member : e ∈ agent.executions call) : agent.findTool call.name = some e.tool ∧ e.args = call.args := by
  unfold executions at member
  cases found : agent.findTool call.name with
  | none => simp [found] at member
  | some tool =>
    simp only [found, List.mem_singleton] at member
    subst member
    exact ⟨rfl, rfl⟩

theorem executions_bound {agent : Agent} {call : ToolCall} {e : ToolExecution}
    (member : e ∈ agent.executions call) : e.tool ∈ agent.tools ∧ e.args = call.args :=
  ⟨mem_of_findTool (mem_executions member).1, (mem_executions member).2⟩

theorem final_handler (agent : Agent) (call : ToolCall) (node : NodeRun) (w : World) :
    final (agent.handler call node) w =
      { w with executedTools := w.executedTools ++ agent.executions call } := by
  unfold handler executions
  cases agent.findTool call.name with
  | none => simp [final]
  | some tool =>
    simp only [final, run_bind, run_modify, run_resultOf]
    cases node.handled <;> rfl

theorem executed_callHandler (agent : Agent) (call : ToolCall) (node : NodeRun) (w : World) :
    (final (agent.middleware.callHandler call (agent.handler call node)) w).executedTools =
      w.executedTools ++ agent.executions call := by
  rw [SecurityMiddleware.final_callHandler, final_handler]
  split
  · rfl
  · split <;> rfl

def Passes (agent : Agent) (call : ToolCall) (node : NodeRun) (w : World) : Prop :=
  agent.middleware.Admitted w node ∧ ∃ t, agent.middleware.awaitHitlIfNeeded call node w = .ok none t

theorem executed_awaitHitlIfNeeded (mw : SecurityMiddleware) (call : ToolCall) (node : NodeRun)
    (w : World) : (final (mw.awaitHitlIfNeeded call node) w).executedTools = w.executedTools :=
  SecurityMiddleware.awaitHitlIfNeeded_preserves (P := fun v => v.executedTools = w.executedTools)
    mw call node (fun _ _ _ same => same) (fun _ _ same => same) w rfl

theorem executed_callTool_passes {agent : Agent} {call : ToolCall} {node : NodeRun} {w : World}
    (passes : agent.Passes call node w) :
    (final (agent.callTool call node) w).executedTools = w.executedTools ++ agent.executions call := by
  obtain ⟨admitted, t, gate⟩ := passes
  have kept : t.executedTools = w.executedTools := by
    rw [← executed_awaitHitlIfNeeded agent.middleware call node w, final, gate]
  have ended : final (agent.callTool call node) w =
      final (agent.middleware.callHandler call (agent.handler call node)) t := by
    unfold callTool
    rw [final, SecurityMiddleware.awrapToolCall_admitted admitted, gate]
    rfl
  rw [ended, executed_callHandler, kept]

theorem executed_callTool_stopped {agent : Agent} {call : ToolCall} {node : NodeRun} {w : World}
    (stopped : ¬ agent.Passes call node w) :
    (final (agent.callTool call node) w).executedTools = w.executedTools := by
  unfold callTool
  by_cases admitted : agent.middleware.Admitted w node
  · have kept := executed_awaitHitlIfNeeded agent.middleware call node w
    rw [final] at kept ⊢
    rw [SecurityMiddleware.awrapToolCall_admitted admitted]
    cases gate : agent.middleware.awaitHitlIfNeeded call node w with
    | error e t => simpa [gate] using kept
    | ok blocked t =>
      cases blocked with
      | some message => simpa [gate] using kept
      | none => exact absurd ⟨admitted, t, gate⟩ stopped
  · rw [SecurityMiddleware.awrapToolCall_refused admitted]

def newExecutions (agent : Agent) (call : ToolCall) (node : NodeRun) (w : World) : List ToolExecution :=
  (final (agent.callTool call node) w).executedTools.drop w.executedTools.length

theorem newExecutions_passes {agent : Agent} {call : ToolCall} {node : NodeRun} {w : World}
    (passes : agent.Passes call node w) : agent.newExecutions call node w = agent.executions call := by
  rw [newExecutions, executed_callTool_passes passes, List.drop_left]

theorem newExecutions_stopped {agent : Agent} {call : ToolCall} {node : NodeRun} {w : World}
    (stopped : ¬ agent.Passes call node w) : agent.newExecutions call node w = [] := by
  rw [newExecutions, executed_callTool_stopped stopped, List.drop_length]

theorem mem_newExecutions {agent : Agent} {call : ToolCall} {node : NodeRun} {w : World}
    {e : ToolExecution} (member : e ∈ agent.newExecutions call node w) : e ∈ agent.executions call := by
  by_cases passes : agent.Passes call node w
  · rwa [newExecutions_passes passes] at member
  · rw [newExecutions_stopped passes] at member
    cases member

theorem callTool_runs_iff {agent : Agent} {call : ToolCall} {node : NodeRun} {w : World} :
    (final (agent.callTool call node) w).executedTools ≠ w.executedTools ↔
      agent.Passes call node w ∧ ∃ tool, agent.findTool call.name = some tool := by
  by_cases passes : agent.Passes call node w
  · rw [executed_callTool_passes passes, executions]
    cases agent.findTool call.name <;> simp [passes]
  · rw [executed_callTool_stopped passes]
    simp [passes]

theorem passes_gated_iff {agent : Agent} {call : ToolCall} {node : NodeRun} {w : World}
    (gated : agent.middleware.Gated call) (live : agent.middleware.stage ≠ "dev") :
    agent.Passes call node w ↔
      agent.middleware.Admitted w node ∧ node.publishPaused = some (.ok ()) ∧
        ∃ answer, node.answer = some answer ∧ resumeDecisionApproved answer = .ok true := by
  unfold Passes
  rw [SecurityMiddleware.awaitHitlIfNeeded_gated gated live]
  refine and_congr_right fun _ => ?_
  cases node.publishPaused with
  | none => simp
  | some published =>
    cases published with
    | error e => simp
    | ok _ =>
      cases node.answer with
      | none => simp
      | some answer =>
        cases verdict : resumeDecisionApproved answer with
        | error e => simp [verdict]
        | ok approved => cases approved <;> simp [verdict]

def Submits (agent : Agent) (call : ToolCall) (node : NodeRun) (w : World) : Prop :=
  agent.middleware.Admitted w node ∧ agent.middleware.Gated call ∧ agent.middleware.stage ≠ "dev"

instance (agent : Agent) (call : ToolCall) (node : NodeRun) (w : World) :
    Decidable (agent.Submits call node w) :=
  inferInstanceAs (Decidable ((_ ∧ _) ∧ _ ∧ _))

def gateWorld (agent : Agent) (call : ToolCall) (node : NodeRun) (w : World) : World :=
  if agent.Submits call node w then
    match node.publishPaused with
    | none => w
    | some (.error _) =>
      w.pauseForHitl (agent.middleware.preview call node).pending (agent.middleware.preview call node).toDict
    | some (.ok _) => agent.middleware.submitted call node w
  else w

theorem callTool_frame {α : Type} (field : World → α)
    (executed : ∀ w executions, field { w with executedTools := executions } = field w)
    (counted : ∀ w budgets, field (w.setBudgets budgets) = field w) (agent : Agent) (call : ToolCall)
    (node : NodeRun) (w : World) :
    field (final (agent.callTool call node) w) = field (agent.gateWorld call node w) := by
  have handled : ∀ t, field (final (agent.middleware.callHandler call (agent.handler call node)) t) = field t := by
    intro t
    refine SecurityMiddleware.callHandler_preserves (P := fun v => field v = field t) (fun v same => ?_)
      (fun v budgets _ same => (counted v budgets).trans same) t rfl
    rw [final_handler]
    exact (executed v _).trans same
  unfold callTool gateWorld
  by_cases admitted : agent.middleware.Admitted w node
  · rw [final, SecurityMiddleware.awrapToolCall_admitted admitted]
    by_cases gated : agent.middleware.Gated call
    · by_cases dev : agent.middleware.stage = "dev"
      · have closed : ¬ agent.Submits call node w := fun submits => submits.2.2 dev
        obtain ⟨message, blocked⟩ := SecurityMiddleware.awaitHitlIfNeeded_dev node gated dev w
        rw [if_neg closed, blocked]
      · have submits : agent.Submits call node w := ⟨admitted, gated, dev⟩
        rw [if_pos submits, SecurityMiddleware.awaitHitlIfNeeded_gated gated dev]
        cases node.publishPaused with
        | none => rfl
        | some published =>
          cases published with
          | error e => rfl
          | ok _ =>
            cases node.answer with
            | none => rfl
            | some answer =>
              dsimp only
              cases resumeDecisionApproved answer with
              | error e => rfl
              | ok approved =>
                cases approved with
                | false => rfl
                | true => exact handled _
    · have closed : ¬ agent.Submits call node w := fun submits => gated submits.2.1
      rw [if_neg closed, SecurityMiddleware.awaitHitlIfNeeded_open gated]
      exact handled w
  · have closed : ¬ agent.Submits call node w := fun submits => admitted submits.1
    rw [if_neg closed, SecurityMiddleware.awrapToolCall_refused admitted]

end Agent

end CysAgi
