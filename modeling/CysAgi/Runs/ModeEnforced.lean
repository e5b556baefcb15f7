import CysAgi.Runs.RunState
import CysAgi.Runtime.CallableTools

namespace CysAgi

open Py

namespace RunStep

/-- The arguments of `runtime.arun` in a step; the mode is not among them. -/
def agentCall (context : RunContext) (persona sessionId prompt : String) : AgentCall :=
  { name := persona, userInput := prompt, sessionId, tenantId := context.tenantId
    investigationId := context.contextId, profileId := context.profileId }

end RunStep

/-- `ModePolicy.allow_tool` permits the tool in the mode of the run. -/
def RunContext.Permits (modePolicyOf : String → Except PyExc ModePolicyPayload) (context : RunContext)
    (toolName : String) : Prop :=
  allowTool modePolicyOf context.mode toolName context.profileId = .ok true

/-- Whatever the model calls in a step of the run, only tools run that the mode permits. -/
def ModeEnforced (runtime : AgentRuntime) (settings : ToolStackSettings)
    (modePolicyOf : String → Except PyExc ModePolicyPayload) (context : RunContext) (persona sessionId prompt : String)
    (w : World) : Prop :=
  ∀ stack, runtime.arunStack settings (RunStep.agentCall context persona sessionId prompt) = .ok stack →
    ∀ steps t, Transition.run stack.step { world := w } steps = some t →
      ∀ e ∈ t.newExecutions w, context.Permits modePolicyOf e.tool.name

/-- No middleware asks for the mode: it is kept exactly when the agent has no tool within reach that
    the mode forbids. -/
theorem mode_enforced_iff (runtime : AgentRuntime) (settings : ToolStackSettings)
    (modePolicyOf : String → Except PyExc ModePolicyPayload) (context : RunContext) (persona sessionId prompt : String)
    (w : World) :
    ModeEnforced runtime settings modePolicyOf context persona sessionId prompt w ↔
      ∀ stack, runtime.arunStack settings (RunStep.agentCall context persona sessionId prompt) = .ok stack →
        ∀ toolName, stack.Callable w toolName → context.Permits modePolicyOf toolName := by
  refine forall_congr' fun stack => imp_congr_right fun _ => ?_
  constructor
  · intro enforced toolName callable
    obtain ⟨steps, t, reached, e, ran, named⟩ := ToolStack.executed_of_callable callable
    rw [← named]
    exact enforced steps t reached e ran
  · intro permitted steps t reached e ran
    exact permitted e.tool.name (ToolStack.callable_of_executed reached ran)

theorem mode_enforced_of_listed {runtime : AgentRuntime} {settings : ToolStackSettings}
    {modePolicyOf : String → Except PyExc ModePolicyPayload} {context : RunContext} {persona : String}
    (listed : ∀ defn, runtime.registry persona = .ok defn → ∀ toolName ∈ defn.tools,
      context.Permits modePolicyOf toolName) (sessionId prompt : String) (w : World) :
    ModeEnforced runtime settings modePolicyOf context persona sessionId prompt w := by
  intro stack compiled steps t reached e ran
  obtain ⟨-, defn, registered, scope⟩ := AgentRuntime.arunStack_ok compiled
  apply listed defn registered
  rw [← scope]
  exact (ToolStack.callable_of_executed reached ran).allowed

def auditor : AgentDefinition :=
  { name := "compliance", schemaName := some "ComplianceFinding"
    tools := ["check_control", "map_framework", "audit_evidence", "playbook_framework", "playbook_search"] }

def auditRuntime : AgentRuntime where
  registry _ := .ok auditor
  toolRegistry := { names := auditor.tools }
  schemas := { names := ["ComplianceFinding"] }
  policy := { classifyToolRisk := fun _ _ => .low, hitlThreshold := fun _ => .low }
  stage := "prod"
  paramsHash _ := ""

def auditSettings : ToolStackSettings where
  reader := { lower := fun text => text, isDigit := fun _ => false, int := fun _ => .ok 0, loads := fun _ => .ok none }
  validatesReasoning _ := false

def askContext : RunContext := { contextId := "case-1", kind := .session, mode := some .ask }

def auditStack : ToolStack where
  tools := auditor.tools.map .registry
  middleware := {
    agentId := "compliance", sessionId := "run:session:case-1", stage := "prod", policy := auditRuntime.policy
    paramsHash := auditRuntime.paramsHash }
  scope := { allowedTools := auditor.tools }
  reader := auditSettings.reader
  guard := .oneTool
  validatesReasoning := auditSettings.validatesReasoning

def checkControl : ToolCall where
  id := "call-1"
  name := "check_control"
  args := [("framework", .str "SOC2"), ("control_id", .str "CC6.1"), ("evidence", .str "access review")]

/-- In ask mode an auditor checks a control, which the mode forbids. -/
theorem asked_auditor_checks :
    ¬ ModeEnforced auditRuntime auditSettings (fun _ => .ok defaultModePolicy) askContext "compliance"
      "run:session:case-1" "audit" {} := by
  intro enforced
  have permitted := enforced auditStack rfl [.enter checkControl {}] _ rfl
    (auditStack.execution checkControl (.registry "check_control")) (by decide +kernel)
  have denied : allowTool (fun _ => .ok defaultModePolicy) (some .ask) "check_control" "cybersec-soc" = .ok false := rfl
  cases denied.symm.trans permitted

end CysAgi
