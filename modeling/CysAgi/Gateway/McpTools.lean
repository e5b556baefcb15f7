import CysAgi.Gateway.InvokeTool

namespace CysAgi

open Py

structure McpToolCall where
  toolName : String
  sandboxId : String
  args : JsonDict := []
  persona : String := ""
  jobId : String := ""
  correlationId : String := ""

def McpToolCall.gatewayRequest (call : McpToolCall) : ToolInvokeRequest :=
  { toolName := call.toolName, args := call.args, persona := call.persona, sandboxId := call.sandboxId
    jobId := call.jobId, correlationId := call.correlationId }

def McpToolCall.localRequest (call : McpToolCall) : ToolInvokeRequest :=
  { toolName := call.toolName, args := call.args, persona := "local", sandboxId := call.sandboxId }

/-- What comes of one POST: an error status before the tool's use case ran (authentication, a
    body that does not validate), a transport error before it ran, or a run of it whose answer
    arrives or is lost. -/
inductive GatewayOutcome where
  | rejected (error : PyExc)
  | unreached (error : PyExc)
  | executed (run : ToolRun) (delivery : Except PyExc Unit)

def serverError : PyExc := .exception "500 Internal Server Error"

/-- What `_gateway_invoke` raises. -/
def GatewayOutcome.failure : GatewayOutcome → Option PyExc
  | .rejected e => some e
  | .unreached e => some e
  | .executed run delivery =>
    match run.audited, delivery with
    | .error _, _ => some serverError
    | .ok _, .error e => some e
    | .ok _, .ok _ => none

structure McpToolRegistry where
  useGateway : Bool
  invokeTool : InvokeTool
  workerProcess : String := "worker"
  gatewayProcess : String := "gateway"

namespace McpToolRegistry

def localInvoke (registry : McpToolRegistry) (call : McpToolCall) (run : ToolRun) : ToolEffect ToolInvokeResponse :=
  registry.invokeTool.execute registry.workerProcess call.localRequest run

def gatewayInvoke (registry : McpToolRegistry) (call : McpToolCall) : GatewayOutcome → ToolEffect ToolInvokeResponse
  | .rejected e => throw e
  | .unreached e => throw e
  | .executed run delivery => do
    let response ← tryCatch (registry.invokeTool.execute registry.gatewayProcess call.gatewayRequest run)
      fun _ => throw serverError
    resultOf delivery
    return response

def onGatewayFailure (registry : McpToolRegistry) (call : McpToolCall) (fallback : ToolRun) (e : PyExc) :
    ToolEffect ToolInvokeResponse :=
  if e.caught then registry.localInvoke call fallback else throw e

def invoke (registry : McpToolRegistry) (call : McpToolCall) (outcome : GatewayOutcome) (fallback : ToolRun) :
    ToolEffect ToolInvokeResponse := do
  resultOf (requireSandbox call.sandboxId)
  if registry.useGateway then
    tryCatch (registry.gatewayInvoke call outcome) (registry.onGatewayFailure call fallback)
  else
    registry.localInvoke call fallback

variable (registry : McpToolRegistry) (call : McpToolCall) (outcome : GatewayOutcome) (fallback : ToolRun)
variable (s : ToolState)

def Rejected (s : ToolState) : GatewayOutcome → Prop
  | .rejected _ => True
  | .unreached _ => False
  | .executed _ _ => ¬ registry.invokeTool.Admits registry.gatewayProcess call.gatewayRequest s

def GatewayRan (s : ToolState) : GatewayOutcome → Prop
  | .rejected _ => False
  | .unreached _ => False
  | .executed run _ => registry.invokeTool.Admits registry.gatewayProcess call.gatewayRequest s ∧
    registry.invokeTool.HasBackend call.gatewayRequest run

def FallbackRuns : Prop :=
  registry.invokeTool.Admits registry.workerProcess call.localRequest s ∧
    registry.invokeTool.HasBackend call.localRequest fallback

def AtMostOnce : Prop :=
  (final (registry.invoke call outcome fallback) s).backendRuns.length ≤ s.backendRuns.length + 1 ∧
    (registry.useGateway = true → registry.Rejected call s outcome →
      (final (registry.invoke call outcome fallback) s).backendRuns = s.backendRuns)

/-- Wherever an exception of the gateway is passed over, the gateway neither ran the backend nor
    rejected the call, or the worker's own checks stop it. -/
def FallbackSafe : Prop :=
  registry.useGateway = true → ∀ e, outcome.failure = some e → e.caught = true →
    (¬ registry.GatewayRan call s outcome ∧ ¬ registry.Rejected call s outcome) ∨
      ¬ registry.FallbackRuns call fallback (final (registry.gatewayInvoke call outcome) s)

variable {registry call outcome fallback s}

theorem run_gatewayInvoke_executed (registry : McpToolRegistry) (call : McpToolCall) (s : ToolState) (run : ToolRun)
    (delivery : Except PyExc Unit) : ∃ response,
    registry.gatewayInvoke call (.executed run delivery) s =
      match (GatewayOutcome.executed run delivery).failure with
      | some e => .error e
        (final (registry.invokeTool.execute registry.gatewayProcess call.gatewayRequest run) s)
      | none => .ok response
        (final (registry.invokeTool.execute registry.gatewayProcess call.gatewayRequest run) s) := by
  obtain ⟨response, records, ran⟩ := InvokeTool.run_execute registry.invokeTool registry.gatewayProcess
    call.gatewayRequest run s
  refine ⟨response, ?_⟩
  simp only [gatewayInvoke, run_bind, run_tryCatch, final, GatewayOutcome.failure, ran]
  cases run.audited with
  | error e => rfl
  | ok _ => cases delivery <;> rfl

theorem gatewayInvoke_failed {e : PyExc} (failed : outcome.failure = some e) :
    registry.gatewayInvoke call outcome s = .error e (final (registry.gatewayInvoke call outcome) s) := by
  cases outcome with
  | rejected error =>
    cases failed
    rfl
  | unreached error =>
    cases failed
    rfl
  | executed run delivery =>
    obtain ⟨response, ran⟩ := run_gatewayInvoke_executed registry call s run delivery
    rw [failed] at ran
    rw [final, ran]

theorem gatewayInvoke_answered (registry : McpToolRegistry) (call : McpToolCall) (s : ToolState)
    (answered : outcome.failure = none) : ∃ response,
    registry.gatewayInvoke call outcome s = .ok response (final (registry.gatewayInvoke call outcome) s) := by
  cases outcome with
  | rejected error => cases answered
  | unreached error => cases answered
  | executed run delivery =>
    obtain ⟨response, ran⟩ := run_gatewayInvoke_executed registry call s run delivery
    rw [answered] at ran
    refine ⟨response, ?_⟩
    rw [final, ran]

theorem final_gatewayInvoke_executed (run : ToolRun) (delivery : Except PyExc Unit) :
    final (registry.gatewayInvoke call (.executed run delivery)) s =
      final (registry.invokeTool.execute registry.gatewayProcess call.gatewayRequest run) s := by
  obtain ⟨response, ran⟩ := run_gatewayInvoke_executed registry call s run delivery
  rw [final, ran]
  cases (GatewayOutcome.executed run delivery).failure <;> rfl

theorem gateway_ran (ran : registry.GatewayRan call s outcome) :
    (final (registry.gatewayInvoke call outcome) s).backendRuns = s.backendRuns ++ [call.gatewayRequest] := by
  cases outcome with
  | rejected error => exact absurd ran id
  | unreached error => exact absurd ran id
  | executed run delivery =>
    rw [final_gatewayInvoke_executed, InvokeTool.backendRuns_execute]
    exact if_pos ran

theorem gateway_idle (idle : ¬ registry.GatewayRan call s outcome) :
    (final (registry.gatewayInvoke call outcome) s).backendRuns = s.backendRuns := by
  cases outcome with
  | rejected error => rfl
  | unreached error => rfl
  | executed run delivery =>
    rw [final_gatewayInvoke_executed, InvokeTool.backendRuns_execute]
    exact if_neg idle

theorem rejected_idle (rejected : registry.Rejected call s outcome) : ¬ registry.GatewayRan call s outcome := by
  cases outcome with
  | rejected error => exact id
  | unreached error => exact absurd rejected id
  | executed run delivery => exact fun ran => rejected ran.1

theorem fallback_runs (runs : registry.FallbackRuns call fallback s) :
    (final (registry.localInvoke call fallback) s).backendRuns = s.backendRuns ++ [call.localRequest] := by
  unfold localInvoke
  rw [InvokeTool.backendRuns_execute]
  exact if_pos runs

theorem fallback_idle (idle : ¬ registry.FallbackRuns call fallback s) :
    (final (registry.localInvoke call fallback) s).backendRuns = s.backendRuns := by
  unfold localInvoke
  rw [InvokeTool.backendRuns_execute]
  exact if_neg idle

theorem final_invoke_denied (denied : requireSandbox call.sandboxId ≠ .ok ()) :
    final (registry.invoke call outcome fallback) s = s := by
  unfold invoke
  cases sandbox : requireSandbox call.sandboxId with
  | ok _ => exact absurd sandbox denied
  | error e => rfl

theorem final_invoke_local (sandbox : requireSandbox call.sandboxId = .ok ()) (direct : registry.useGateway = false) :
    final (registry.invoke call outcome fallback) s = final (registry.localInvoke call fallback) s := by
  unfold invoke
  rw [sandbox, direct]
  rfl

section

variable (sandbox : requireSandbox call.sandboxId = .ok ()) (remote : registry.useGateway = true)

include sandbox remote

theorem final_invoke_remote : final (registry.invoke call outcome fallback) s =
    final (tryCatch (registry.gatewayInvoke call outcome) (registry.onGatewayFailure call fallback)) s := by
  unfold invoke
  rw [sandbox, remote]
  rfl

theorem final_invoke_answered (fallback : ToolRun) (s : ToolState) (answered : outcome.failure = none) :
    final (registry.invoke call outcome fallback) s = final (registry.gatewayInvoke call outcome) s := by
  obtain ⟨response, ran⟩ := gatewayInvoke_answered registry call s answered
  rw [final_invoke_remote sandbox remote, final, run_tryCatch, ran]

theorem final_invoke_raised (fallback : ToolRun) (s : ToolState) {e : PyExc} (failed : outcome.failure = some e)
    (uncaught : e.caught = false) :
    final (registry.invoke call outcome fallback) s = final (registry.gatewayInvoke call outcome) s := by
  have thrown : registry.onGatewayFailure call fallback e = throw e := by
    unfold onGatewayFailure
    rw [uncaught]
    rfl
  rw [final_invoke_remote sandbox remote, final, run_tryCatch, gatewayInvoke_failed failed]
  dsimp only
  rw [thrown]
  rfl

theorem final_invoke_fallback {e : PyExc} (failed : outcome.failure = some e) (caught : e.caught = true) :
    final (registry.invoke call outcome fallback) s =
      final (registry.localInvoke call fallback) (final (registry.gatewayInvoke call outcome) s) := by
  have passed : registry.onGatewayFailure call fallback e = registry.localInvoke call fallback := if_pos caught
  rw [final_invoke_remote sandbox remote, final, run_tryCatch, gatewayInvoke_failed failed]
  dsimp only
  rw [passed]
  rfl

end

theorem gateway_once :
    (final (registry.gatewayInvoke call outcome) s).backendRuns.length ≤ s.backendRuns.length + 1 := by
  by_cases ran : registry.GatewayRan call s outcome
  · rw [gateway_ran ran, List.length_append]
    exact Nat.le_refl _
  · rw [gateway_idle ran]
    omega

theorem fallback_once :
    (final (registry.localInvoke call fallback) s).backendRuns.length ≤ s.backendRuns.length + 1 := by
  by_cases runs : registry.FallbackRuns call fallback s
  · rw [fallback_runs runs, List.length_append]
    exact Nat.le_refl _
  · rw [fallback_idle runs]
    omega

theorem atMostOnce_gateway
    (only : final (registry.invoke call outcome fallback) s = final (registry.gatewayInvoke call outcome) s) :
    registry.AtMostOnce call outcome fallback s := by
  unfold AtMostOnce
  rw [only]
  exact ⟨gateway_once, fun _ rejected => gateway_idle (rejected_idle rejected)⟩

theorem atMostOnce_fallback_iff
    (both : final (registry.invoke call outcome fallback) s =
      final (registry.localInvoke call fallback) (final (registry.gatewayInvoke call outcome) s))
    (remote : registry.useGateway = true) :
    registry.AtMostOnce call outcome fallback s ↔
      (¬ registry.GatewayRan call s outcome ∧ ¬ registry.Rejected call s outcome) ∨
        ¬ registry.FallbackRuns call fallback (final (registry.gatewayInvoke call outcome) s) := by
  unfold AtMostOnce
  rw [both]
  by_cases runs : registry.FallbackRuns call fallback (final (registry.gatewayInvoke call outcome) s)
  · rw [fallback_runs runs]
    constructor
    · intro ⟨once, otherwise⟩
      refine .inl ⟨?_, ?_⟩
      · intro ran
        rw [gateway_ran ran] at once
        simp only [List.length_append, List.length_singleton] at once
        omega
      · intro rejected
        have same := otherwise remote rejected
        rw [gateway_idle (rejected_idle rejected)] at same
        have longer := congrArg List.length same
        simp only [List.length_append, List.length_singleton] at longer
        omega
    · intro safe
      rcases safe with ⟨idle, kept⟩ | stopped
      · rw [gateway_idle idle, List.length_append]
        exact ⟨Nat.le_refl _, fun _ rejected => absurd rejected kept⟩
      · exact absurd runs stopped
  · rw [fallback_idle runs]
    constructor
    · intro _
      exact .inr runs
    · intro _
      exact ⟨gateway_once, fun _ rejected => gateway_idle (rejected_idle rejected)⟩

end McpToolRegistry

open McpToolRegistry in
/-- A tool call runs the backend at most once, and never after a rejection, exactly where the
    exceptions it passes over leave that to the fallback. -/
theorem invoke_at_most_once_iff (registry : McpToolRegistry) (call : McpToolCall) (outcome : GatewayOutcome)
    (fallback : ToolRun) (s : ToolState) :
    registry.AtMostOnce call outcome fallback s ↔ registry.FallbackSafe call outcome fallback s := by
  by_cases sandbox : requireSandbox call.sandboxId = .ok ()
  · cases remote : registry.useGateway with
    | false =>
      unfold AtMostOnce FallbackSafe
      rw [final_invoke_local sandbox remote, remote]
      constructor
      · intro _ used
        cases used
      · intro _
        refine ⟨fallback_once, ?_⟩
        intro used
        cases used
    | true =>
      cases failed : outcome.failure with
      | none =>
        have only := final_invoke_answered sandbox remote fallback s failed
        unfold FallbackSafe
        rw [failed]
        constructor
        · intro _ _ _ same
          cases same
        · intro _
          exact atMostOnce_gateway only
      | some e =>
        unfold FallbackSafe
        rw [failed, remote]
        simp only [Option.some.injEq, forall_const, forall_eq']
        cases caught : e.caught with
        | false =>
          have only := final_invoke_raised sandbox remote fallback s failed caught
          constructor
          · intro _ same
            cases same
          · intro _
            exact atMostOnce_gateway only
        | true =>
          rw [atMostOnce_fallback_iff (final_invoke_fallback sandbox remote failed caught) remote]
          simp only [forall_const]
  · unfold AtMostOnce FallbackSafe
    rw [final_invoke_denied sandbox]
    constructor
    · intro _ _ _ _ _
      exact .inr fun runs => sandbox runs.1.1
    · intro _
      exact ⟨by omega, fun _ _ => rfl⟩

def sampleInvokeTool : InvokeTool :=
  { toolRegistry := { names := ["run_active_scan", "parse_netflow"] }
    classifyToolRisk := fun name => if name = "run_active_scan" then .high else .low
    loads := fun _ => none }

def sampleRegistry : McpToolRegistry := { useGateway := true, invokeTool := sampleInvokeTool }

def scanCall : McpToolCall :=
  { toolName := "run_active_scan", sandboxId := "sandbox-1", persona := "redteam", jobId := "job-1" }

/-- The answer times out after the scan ran, and the gateway refuses the caller's token: the
    worker runs the scan itself, in the one case for the second time, in the other all the same. -/
theorem fallback_repeats_and_overrides :
    ¬ sampleRegistry.AtMostOnce scanCall (.executed {} (.error (.exception "timed out"))) {} {} ∧
      ¬ sampleRegistry.AtMostOnce scanCall (.rejected (.exception "403 Forbidden")) {} {} := by
  constructor
  · intro ⟨once, _⟩
    exact absurd once (by decide +kernel)
  · intro ⟨_, never⟩
    exact absurd (never rfl trivial) (by decide +kernel)

end CysAgi
