import CysAgi.Base.Transition
import CysAgi.Hitl.PauseSurvival
import CysAgi.Workers.Orchestrator

namespace CysAgi

open Py

/-- A job that the orchestrator runs over the tool gateway, the agent of its run and the
    agent that a resume builds in its place. -/
structure ConfinedJob (o : WorkerOrchestrator) (runtime : AgentRuntime) (job : WorkerJob) (w : World)
    (first resumed : Agent) : Prop where
  ready : w.DependencyReady job
  gateway : o.deps.useToolGateway = true
  started : ∃ prepared v, RunWorkerJob.prepare o.deps job job.sessionId (o.started job w) = .ok prepared v ∧
    prepared.call.sandboxTools ≠ none ∧ runtime.arunAgent prepared.call = .ok first
  resumed : ∃ name, runtime.aresumeAgent name job.sessionId = .ok resumed

structure ResumedJob where
  world : World
  ran : List (ToolExecution × Option JobBudgetState) := []

inductive ResumedStep where
  | resume (env : ResumeEnv) (request : JobResumeRequest)
  | call (call : ToolCall) (node : NodeRun)
  | elsewhere (world : World)

namespace ResumedJob

variable {job : WorkerJob} {first resumed : Agent}

def step (job : WorkerJob) (resumed : Agent) (s : ResumedJob) : ResumedStep → Option ResumedJob
  | .resume env request => some { s with world := final (beginResume env job.jobId request) s.world }
  | .call call node => some
    { world := final (resumed.callTool call node) s.world
      ran := s.ran ++ (resumed.newExecutions call node s.world).map fun e =>
        (e, s.world.budgets.get resumed.middleware.sessionId) }
  | .elsewhere world =>
    if world.budgets.get job.sessionId = s.world.budgets.get job.sessionId then some { s with world } else none

/-- Every tool that has run is one of the first agent's, was checked against counters with
    the job's own limits, and was gated under the first agent's profile. -/
structure Confined (budgeted : WorkerJob) (first resumed : Agent) (s : ResumedJob) : Prop where
  sandboxed : ∀ run ∈ s.ran, run.1.tool ∈ first.tools
  counted : ∀ run ∈ s.ran, ∃ state, run.2 = some state ∧ state.maxTokens = budgeted.maxTokens ∧
    state.maxCostUsd = budgeted.maxCostUsd ∧ state.maxToolCalls = budgeted.maxToolCalls
  profile : resumed.middleware.profileId = first.middleware.profileId

def RunsNoTool (resumed : Agent) (s : ResumedJob) : ResumedStep → Prop
  | .call call node => ¬ (resumed.Passes call node s.world ∧ ∃ tool, resumed.findTool call.name = some tool)
  | _ => True

theorem newExecutions_eq_nil_iff {agent : Agent} {call : ToolCall} {node : NodeRun} {w : World} :
    agent.newExecutions call node w = [] ↔ ¬ (agent.Passes call node w ∧ ∃ tool, agent.findTool call.name = some tool) := by
  by_cases passes : agent.Passes call node w
  · rw [Agent.newExecutions_passes passes, Agent.executions]
    cases agent.findTool call.name <;> simp [passes]
  · simp [Agent.newExecutions_stopped passes, passes]

theorem sessionId_ne_jobId (job : WorkerJob) : job.sessionId ≠ job.jobId := by
  intro same
  have lengths := congrArg String.length same
  simp [WorkerJob.sessionId, workerSession] at lengths

theorem tools_disjoint {o : WorkerOrchestrator} {runtime : AgentRuntime} {w : World}
    (confined : ConfinedJob o runtime job w first resumed) {tool : BoundTool} (member : tool ∈ resumed.tools) :
    tool ∉ first.tools := by
  intro shared
  obtain ⟨prepared, v, ran, given, started⟩ := confined.started
  obtain ⟨-, -, -, -, -, tools, bound, handed⟩ := RunWorkerJob.prepare_ok ran
  obtain ⟨defn, created⟩ := AgentRuntime.arunAgent_ok started
  have sandboxed : prepared.call.sandboxTools = some tools := by
    by_cases none_bound : tools = []
    · rw [if_pos none_bound] at handed
      exact absurd handed given
    · rw [handed, if_neg none_bound]
  have firstTools : first.tools = tools := (AgentRuntime.acreate_ok created).2.2.1 tools sandboxed
  rw [firstTools] at shared
  have bindings := RunWorkerJob.resolveTools_gateway confined.gateway bound tool shared
  obtain ⟨name, rebuilt⟩ := confined.resumed
  obtain ⟨defn', recreated⟩ := AgentRuntime.aresumeAgent_ok rebuilt
  rcases (AgentRuntime.acreate_ok recreated).2.2.2 rfl tool member with ⟨name, rfl⟩ | ⟨skills, rfl⟩
  · rcases bindings with ⟨_, impossible⟩ | ⟨_, impossible⟩ <;> cases impossible
  · rcases bindings with ⟨_, impossible⟩ | ⟨_, same⟩
    · cases impossible
    · injection same with _ _ sameId
      exact sessionId_ne_jobId job sameId

theorem rebuilt_alike {o : WorkerOrchestrator} {runtime : AgentRuntime} {w : World}
    (confined : ConfinedJob o runtime job w first resumed) :
    resumed.middleware.sessionId = job.sessionId ∧ resumed.middleware.profileId = first.middleware.profileId := by
  obtain ⟨prepared, v, ran, -, started⟩ := confined.started
  obtain ⟨-, -, -, -, profile, -⟩ := RunWorkerJob.prepare_ok ran
  obtain ⟨defn, created⟩ := AgentRuntime.arunAgent_ok started
  obtain ⟨name, rebuilt⟩ := confined.resumed
  obtain ⟨defn', recreated⟩ := AgentRuntime.aresumeAgent_ok rebuilt
  obtain ⟨session, same, -⟩ := AgentRuntime.acreate_ok recreated
  refine ⟨session, ?_⟩
  rw [same, (AgentRuntime.acreate_ok created).2.1, profile]
  rfl

theorem budgets_beginResume (env : ResumeEnv) (jobId : String) (request : JobResumeRequest) (w : World) :
    (final (beginResume env jobId request) w).budgets = w.budgets := by
  rcases beginResume_cases env jobId request w with
    ⟨e, refused, -⟩ | ⟨record, pending, -, ⟨-, done⟩ | ⟨-, done⟩⟩
  · rw [final, refused]
  · rw [final, done]
    rfl
  · rw [final, done]
    rfl

theorem untracked_callTool {agent : Agent} {call : ToolCall} {node : NodeRun} {w : World}
    (untracked : w.budgets.get agent.middleware.sessionId = none) :
    (final (agent.callTool call node) w).budgets.get agent.middleware.sessionId = none := by
  refine SecurityMiddleware.awrapToolCall_preserves
    (P := fun v => v.budgets.get agent.middleware.sessionId = none) (fun v held => ?_) (fun _ _ _ held => held)
    (fun _ _ held => held) (fun v budgets recorded held => ?_) w untracked
  · rw [Agent.final_handler]
    exact held
  · obtain ⟨-, after, counted, cleared⟩ := JobBudgetTracker.untracked_call v.budgets _ held
    rw [recorded] at counted
    cases counted
    exact cleared

/-- The session of the job has no counters, and no execution so far has gone through the
    first agent's tools or been counted. -/
structure Escaped (job : WorkerJob) (first : Agent) (s : ResumedJob) : Prop where
  untracked : s.world.budgets.get job.sessionId = none
  ran : ∀ run ∈ s.ran, run.1.tool ∉ first.tools ∧ run.2 = none

theorem Escaped.step {s t : ResumedJob} {action : ResumedStep} (session : resumed.middleware.sessionId = job.sessionId)
    (disjoint : ∀ tool ∈ resumed.tools, tool ∉ first.tools) (escaped : Escaped job first s)
    (taken : s.step job resumed action = some t) : Escaped job first t := by
  cases action with
  | resume env request =>
    cases taken
    refine ⟨?_, escaped.ran⟩
    rw [budgets_beginResume]
    exact escaped.untracked
  | call call node =>
    cases taken
    have untracked := escaped.untracked
    rw [← session] at untracked
    refine ⟨?_, fun run member => ?_⟩
    · rw [← session]
      exact untracked_callTool untracked
    · rcases List.mem_append.mp member with member | member
      · exact escaped.ran run member
      · obtain ⟨e, added, rfl⟩ := List.mem_map.mp member
        exact ⟨disjoint _ (Agent.executions_bound (Agent.mem_newExecutions added)).1, untracked⟩
  | elsewhere world =>
    simp only [ResumedJob.step] at taken
    split at taken <;> cases taken
    rename_i same
    exact ⟨same.trans escaped.untracked, escaped.ran⟩

theorem confined_step {budgeted : WorkerJob} {s t : ResumedJob} {action : ResumedStep}
    (disjoint : ∀ tool ∈ resumed.tools, tool ∉ first.tools) (held : Confined budgeted first resumed s)
    (taken : s.step job resumed action = some t) :
    Confined budgeted first resumed t ↔ RunsNoTool resumed s action := by
  cases action with
  | resume env request =>
    cases taken
    exact iff_of_true { held with } trivial
  | call call node =>
    cases taken
    dsimp only [RunsNoTool]
    rw [← newExecutions_eq_nil_iff]
    constructor
    · intro good
      rw [List.eq_nil_iff_forall_not_mem]
      intro e member
      have bound := (Agent.executions_bound (Agent.mem_newExecutions member)).1
      exact disjoint e.tool bound
        (good.sandboxed _ (List.mem_append_right _ (List.mem_map_of_mem member)))
    · intro silent
      refine ⟨?_, ?_, held.profile⟩
      · rw [silent, List.map_nil, List.append_nil]
        exact held.sandboxed
      · rw [silent, List.map_nil, List.append_nil]
        exact held.counted
  | elsewhere world =>
    simp only [step] at taken
    split at taken <;> cases taken
    exact iff_of_true { held with } trivial

/-- After its run a job stays confined exactly as long as no resumed agent runs a tool: the
    profile stays, but every tool that does run is an in-process one and is counted nowhere. -/
theorem confined_iff {o : WorkerOrchestrator} {runtime : AgentRuntime} {w : World}
    (confined : ConfinedJob o runtime job w first resumed) {actions : List ResumedStep} {t : ResumedJob}
    (reached : Transition.run (step job resumed) { world := final (o.runJob job) w } actions = some t) :
    (Transition.Always (step job resumed) (Confined (enrichJobBudget job (o.catalog job.persona)) first resumed)
        { world := final (o.runJob job) w } actions ↔
      Transition.Guarded (step job resumed) (RunsNoTool resumed) { world := final (o.runJob job) w } actions) ∧
    resumed.middleware.profileId = first.middleware.profileId ∧
    ∀ run ∈ t.ran, run.1.tool ∉ first.tools ∧ run.2 = none := by
  have disjoint : ∀ tool ∈ resumed.tools, tool ∉ first.tools := fun _ member => tools_disjoint confined member
  obtain ⟨session, profile⟩ := rebuilt_alike confined
  have start : Escaped job first { world := final (o.runJob job) w } :=
    ⟨WorkerOrchestrator.untracked_runJob confined.ready, by simp⟩
  refine ⟨?_, profile, ?_⟩
  · exact Transition.always_iff_guarded (fun _ => True) (fun _ _ _ _ _ _ _ => trivial)
      (fun _ _ _ _ held taken => confined_step disjoint held taken) trivial ⟨by simp, by simp, profile⟩ reached
  · exact (Transition.invariant_run (fun _ _ _ escaped taken => escaped.step session disjoint taken) start reached).ran

def cancelledOrchestrator : WorkerOrchestrator :=
  { deps := sampleDeps { pauses := [samplePause], outcome := .error (.baseException "cancelled") } }

def sampleRuntime : AgentRuntime :=
  { registry := cancelledOrchestrator.deps.registry
    toolRegistry := cancelledOrchestrator.deps.toolRegistry
    schemas := cancelledOrchestrator.deps.schemas
    policy := sampleMiddleware.policy
    stage := sampleMiddleware.stage
    paramsHash := sampleHash }

def oneCallJob : WorkerJob := { sampleJob with maxToolCalls := 1 }

def firstAgent : Agent := { tools := [.gateway "shell" "job-1" "soc" "job-1" "inv-1"], middleware := sampleMiddleware }

theorem oneCallJob_confined : ConfinedJob cancelledOrchestrator sampleRuntime oneCallJob {} firstAgent sampleAgent := by
  refine ⟨by decide, rfl, ⟨_, _, rfl, ?_, rfl⟩, "soc", rfl⟩
  exact nofun

def sampleSteps : List ResumedStep :=
  [.resume sampleEnv { decision := "approve" }, .call sampleCall (answeredNode { decision := "approve" }),
    .resume sampleEnv { decision := "approve" }, .call sampleCall (answeredNode { decision := "approve" })]

def sampleEnd : ResumedJob :=
  (Transition.run (step oneCallJob sampleAgent) { world := final (cancelledOrchestrator.runJob oneCallJob) {} }
    sampleSteps).get (by decide)

theorem confined_iff_sample :
    (Transition.Always (step oneCallJob sampleAgent)
        (Confined (enrichJobBudget oneCallJob none) firstAgent sampleAgent)
        { world := final (cancelledOrchestrator.runJob oneCallJob) {} } sampleSteps ↔
      Transition.Guarded (step oneCallJob sampleAgent) (RunsNoTool sampleAgent)
        { world := final (cancelledOrchestrator.runJob oneCallJob) {} } sampleSteps) ∧
    sampleMiddleware.profileId = firstAgent.middleware.profileId ∧
    ∀ run ∈ sampleEnd.ran, run.1.tool ∉ firstAgent.tools ∧ run.2 = none :=
  confined_iff oneCallJob_confined (Option.some_get (by decide)).symm

/-- The approved calls run outside the sandbox, and there are two of them under a budget of one. -/
theorem resumed_tool_unconfined :
    ConfinedJob cancelledOrchestrator sampleRuntime oneCallJob {} firstAgent sampleAgent ∧
      ¬ Confined (enrichJobBudget oneCallJob none) firstAgent sampleAgent sampleEnd ∧
      sampleEnd.ran.map (fun run => (run.1.tool, run.2)) = [(.registry "shell", none), (.registry "shell", none)] ∧
      (enrichJobBudget oneCallJob none).maxToolCalls = 1 := by
  refine ⟨oneCallJob_confined, fun held => ?_, by decide, by decide⟩
  have ran : ∃ run ∈ sampleEnd.ran, run.1.tool ∉ firstAgent.tools := by decide
  obtain ⟨run, member, outside⟩ := ran
  exact outside (held.sandboxed run member)

end ResumedJob

end CysAgi
