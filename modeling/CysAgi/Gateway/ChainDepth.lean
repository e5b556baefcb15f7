import CysAgi.Base.Streak
import CysAgi.Base.Transition
import CysAgi.Gateway.McpTools

namespace CysAgi

open Py

structure JobToolCall where
  viaGateway : Bool
  toolName : String
  sandboxId : String
  args : JsonDict := []
  persona : String := ""
  correlationId : String := ""
  run : ToolRun := {}

namespace JobToolCall

def call (c : JobToolCall) (jobId : String) : McpToolCall :=
  { toolName := c.toolName, sandboxId := c.sandboxId, args := c.args, persona := c.persona, jobId
    correlationId := c.correlationId }

def request (c : JobToolCall) (jobId : String) : ToolInvokeRequest :=
  if c.viaGateway then (c.call jobId).gatewayRequest else (c.call jobId).localRequest

def process (c : JobToolCall) (registry : McpToolRegistry) : String :=
  if c.viaGateway then registry.gatewayProcess else registry.workerProcess

def cell (c : JobToolCall) (registry : McpToolRegistry) (jobId : String) : ChainCell :=
  chainCell (c.process registry) (c.request jobId)

@[simp] theorem request_toolName (c : JobToolCall) (jobId : String) : (c.request jobId).toolName = c.toolName := by
  unfold request
  cases c.viaGateway <;> rfl

end JobToolCall

namespace McpToolRegistry

variable (registry : McpToolRegistry) (jobId : String)

def executeStep (s : ToolState) (c : JobToolCall) : Option ToolState :=
  some (final (registry.invokeTool.execute (c.process registry) (c.request jobId) c.run) s)

def highRisk (e : AcceptedTool) : Bool := decide (registry.invokeTool.IsHighRiskTool e.toolName)

def ChainWithin (s : ToolState) : Prop :=
  Streak.Within registry.highRisk registry.invokeTool.maxHighRiskToolChainDepth.toNat s.accepted

def currentChain (s : ToolState) : List AcceptedTool := s.accepted.rtakeWhile registry.highRisk

def AdmitsStep (s : ToolState) (c : JobToolCall) : Prop :=
  registry.invokeTool.Admits (c.process registry) (c.request jobId) s

/-- A high-risk call is counted in the process and under the key where all of the current chain was counted. -/
def OneCounter (s : ToolState) (c : JobToolCall) : Prop :=
  registry.invokeTool.IsHighRiskTool c.toolName → ∀ e ∈ registry.currentChain s, e.cell = c.cell registry jobId

instance (s : ToolState) (c : JobToolCall) : Decidable (registry.OneCounter jobId s c) :=
  inferInstanceAs (Decidable (_ → _))

def Counted (s : ToolState) : Prop :=
  ∀ cell, (registry.currentChain s).countP (·.cell = cell) ≤ s.consecutiveHighRisk cell

variable {registry jobId} {s : ToolState} {c : JobToolCall}

theorem executeStep_admitted (admits : registry.AdmitsStep jobId s c) : ∃ t, registry.executeStep jobId s c = some t ∧
    t.accepted = s.accepted ++ [{ toolName := c.toolName, cell := c.cell registry jobId }] ∧
    ∀ cell, t.consecutiveHighRisk cell =
      if cell = c.cell registry jobId then
        if registry.invokeTool.IsHighRiskTool c.toolName then s.consecutiveHighRisk cell + 1 else 0
      else s.consecutiveHighRisk cell := by
  obtain ⟨accepted, counted⟩ := InvokeTool.execute_admitted c.run admits
  rw [JobToolCall.request_toolName] at accepted
  refine ⟨_, rfl, accepted, ?_⟩
  intro cell
  rw [counted cell]
  unfold InvokeTool.consecutive
  rw [JobToolCall.request_toolName]
  have own : chainCell (c.process registry) (c.request jobId) = c.cell registry jobId := rfl
  rw [own]
  by_cases same : cell = c.cell registry jobId
  · rw [if_pos same, if_pos same, same]
  · rw [if_neg same, if_neg same]

theorem counted_step {t : ToolState} (counted : registry.Counted s) (taken : registry.executeStep jobId s c = some t) :
    registry.Counted t := by
  by_cases admits : registry.AdmitsStep jobId s c
  · obtain ⟨u, reached, accepted, counters⟩ := executeStep_admitted admits
    rw [reached] at taken
    cases taken
    intro cell
    have before := counted cell
    unfold currentChain at before ⊢
    rw [accepted, counters cell]
    by_cases high : registry.invokeTool.IsHighRiskTool c.toolName
    · have risky : registry.highRisk { toolName := c.toolName, cell := c.cell registry jobId } = true :=
        decide_eq_true high
      rw [List.rtakeWhile_concat_pos _ _ _ risky, List.countP_append, List.countP_singleton, if_pos high]
      by_cases same : cell = c.cell registry jobId
      · rw [if_pos same, if_pos (decide_eq_true same.symm)]
        omega
      · rw [if_neg same, if_neg (by simpa using Ne.symm same)]
        omega
    · have ended : registry.highRisk { toolName := c.toolName, cell := c.cell registry jobId } ≠ true :=
        fun claimed => high (of_decide_eq_true claimed)
      rw [List.rtakeWhile_concat_neg _ _ _ ended]
      exact Nat.zero_le _
  · obtain ⟨accepted, counters⟩ := InvokeTool.execute_refused c.run admits
    cases taken
    intro cell
    unfold currentChain
    rw [accepted, counters cell]
    exact counted cell

theorem chain_lt_of_oneCounter (counted : registry.Counted s) (one : registry.OneCounter jobId s c)
    (high : registry.invokeTool.IsHighRiskTool c.toolName) (admits : registry.AdmitsStep jobId s c) :
    (registry.currentChain s).length < registry.invokeTool.maxHighRiskToolChainDepth.toNat := by
  have all : (registry.currentChain s).countP (·.cell = c.cell registry jobId) =
      (registry.currentChain s).length := by
    rw [List.countP_eq_length]
    intro e member
    exact decide_eq_true (one high e member)
  have few := counted (c.cell registry jobId)
  have below : (s.consecutiveHighRisk (c.cell registry jobId) : Int) <
      registry.invokeTool.maxHighRiskToolChainDepth := by
    apply admits.2
    rw [JobToolCall.request_toolName]
    exact high
  omega

theorem chainWithin_step {t : ToolState} (counted : registry.Counted s) (within : registry.ChainWithin s)
    (one : registry.OneCounter jobId s c) (taken : registry.executeStep jobId s c = some t) :
    registry.ChainWithin t := by
  by_cases admits : registry.AdmitsStep jobId s c
  · obtain ⟨u, reached, accepted, _⟩ := executeStep_admitted admits
    rw [reached] at taken
    cases taken
    unfold ChainWithin
    rw [accepted, Streak.within_concat_iff within]
    intro risky
    exact chain_lt_of_oneCounter counted one (of_decide_eq_true risky) admits
  · obtain ⟨accepted, _⟩ := InvokeTool.execute_refused c.run admits
    cases taken
    unfold ChainWithin
    rw [accepted]
    exact within

theorem cells_step {t : ToolState} {cell : ChainCell} (cells : ∀ e ∈ s.accepted, e.cell = cell)
    (same : c.cell registry jobId = cell) (taken : registry.executeStep jobId s c = some t) :
    ∀ e ∈ t.accepted, e.cell = cell := by
  by_cases admits : registry.AdmitsStep jobId s c
  · obtain ⟨u, reached, accepted, _⟩ := executeStep_admitted admits
    rw [reached] at taken
    cases taken
    rw [accepted]
    intro e member
    rcases List.mem_append.mp member with old | new
    · exact cells e old
    · rw [List.mem_singleton.mp new]
      exact same
  · obtain ⟨accepted, _⟩ := InvokeTool.execute_refused c.run admits
    cases taken
    rw [accepted]
    exact cells

theorem oneCounter_of_one_path {calls : List JobToolCall} {cell : ChainCell}
    (path : ∀ c ∈ calls, c.cell registry jobId = cell) (cells : ∀ e ∈ s.accepted, e.cell = cell) :
    Transition.Guarded (registry.executeStep jobId) (registry.OneCounter jobId) s calls := by
  induction calls generalizing s with
  | nil => trivial
  | cons c rest ih =>
    rw [List.forall_mem_cons] at path
    constructor
    · intro _ e member
      rw [cells e ((List.rtakeWhile_suffix _ _).subset member), path.1]
    · intro t taken
      exact ih path.2 (cells_step cells path.1 taken)

end McpToolRegistry

/-- Nothing is accepted yet on the job's behalf; the counters are as they were left. -/
def ToolState.fresh (s : ToolState) : ToolState := { s with accepted := [] }

/-- In a job's run the high-risk chain is bounded throughout where each chain is counted under one counter. -/
theorem chain_within_of_one_counter (registry : McpToolRegistry) (jobId : String) (s : ToolState)
    {calls : List JobToolCall}
    (one : Transition.Guarded (registry.executeStep jobId) (registry.OneCounter jobId) s.fresh calls) :
    Transition.Always (registry.executeStep jobId) registry.ChainWithin s.fresh calls := by
  apply Transition.always_of_guarded (fun s => registry.Counted s ∧ registry.ChainWithin s) _ _ _ one
  · exact fun _ kept => kept.2
  · intro s c t kept one taken
    exact ⟨McpToolRegistry.counted_step kept.1 taken, McpToolRegistry.chainWithin_step kept.1 kept.2 one taken⟩
  · exact ⟨fun cell => Nat.zero_le _, Streak.within_nil⟩

def scan (viaGateway : Bool) : JobToolCall := { viaGateway, toolName := "run_active_scan", sandboxId := "sandbox-1" }

def fourScans : List JobToolCall := [scan true, scan true, scan true, scan false]

def parted : List JobToolCall :=
  [scan true, scan true, scan true, scan true, { scan true with toolName := "parse_netflow" },
    scan false, scan false, scan false, scan false]

theorem chain_within_of_one_counter_parted :
    Transition.Always (sampleRegistry.executeStep "job-1") sampleRegistry.ChainWithin ({} : ToolState).fresh parted :=
  chain_within_of_one_counter sampleRegistry "job-1" {} (by decide +kernel)

/-- Three scans through the gateway are all that the policy allows in a row, and the worker's
    fallback runs a fourth. -/
theorem fallback_extends_chain :
    ¬ Transition.Always (sampleRegistry.executeStep "job-1") sampleRegistry.ChainWithin ({} : ToolState).fresh
      fourScans := by
  intro always
  have chain : (Transition.run (sampleRegistry.executeStep "job-1") ({} : ToolState).fresh fourScans).map
      (fun t => (t.accepted.length, t.accepted.all sampleRegistry.highRisk)) = some (4, true) := by decide +kernel
  obtain ⟨t, reached, counted⟩ := Option.map_eq_some_iff.mp chain
  obtain ⟨four, risky⟩ := Prod.mk.inj counted
  have short := always.last reached t.accepted List.infix_rfl (List.all_eq_true.mp risky)
  rw [four] at short
  exact absurd short (by decide)

end CysAgi
