import Mathlib.Data.List.Sort
import Mathlib.Data.String.Basic
import CysAgi.Hitl.SecurityMiddleware
import CysAgi.Runtime.Tools

namespace CysAgi

open Py

structure ToolInvokeRequest where
  toolName : String
  args : JsonDict := []
  persona : String
  sandboxId : String
  jobId : String := ""
  correlationId : String := ""
  deriving DecidableEq

structure ToolInvokeResponse where
  success : Bool
  toolName : String
  data : JsonDict := []
  sanitizedPayload : String := ""
  error : String := ""
  deriving DecidableEq

structure ToolAuditRecord where
  tool : String
  persona : String
  sandboxId : String
  jobId : String
  correlationId : String
  success : Bool
  error : String
  argsKeys : List String
  deriving DecidableEq

/-- A counter of `_chains`: the process that keeps it and its key there. -/
abbrev ChainCell := String × String

structure AcceptedTool where
  toolName : String
  cell : ChainCell
  deriving DecidableEq

structure ToolState where
  /-- `_chains` of every process. -/
  chains : Dict ChainCell Nat := .empty
  /-- Every call that passed the chain policy. -/
  accepted : List AcceptedTool := []
  /-- Every request a tool's backend was run for. -/
  backendRuns : List ToolInvokeRequest := []
  auditRecords : List ToolAuditRecord := []

abbrev ToolEffect := EStateM PyExc ToolState

/-- What is outside of one `InvokeTool.execute`: the adapter of the tool if it has one, else its
    `invoke`, the sanitizer, and the publication of the audit record. The errors are texts. -/
structure ToolRun where
  adapter : Option (Except String JsonDict) := none
  raw : Except String Json := .ok (.obj [])
  sanitized : Except String String := .ok ""
  audited : Except PyExc Unit := .ok ()

structure InvokeTool where
  toolRegistry : ToolRegistry
  classifyToolRisk : String → RiskLevel
  maxHighRiskToolChainDepth : Int := 3
  /-- `json.loads`, nothing on a `JSONDecodeError`. -/
  loads : String → Option Json

def chainKey (request : ToolInvokeRequest) : String :=
  if request.jobId = "" then request.sandboxId else request.jobId

def chainCell (process : String) (request : ToolInvokeRequest) : ChainCell := (process, chainKey request)

def raised {α : Type} : Except String α → Except PyExc α
  | .ok value => .ok value
  | .error message => .error (.exception message)

namespace ToolState

def consecutiveHighRisk (s : ToolState) (cell : ChainCell) : Nat := (s.chains.get? cell).getD 0

/-- `_chains.setdefault(key, ToolChainState())`. -/
def withChain (s : ToolState) (cell : ChainCell) : ToolState :=
  { s with chains := s.chains.set cell (s.consecutiveHighRisk cell) }

def accept (s : ToolState) (cell : ChainCell) (toolName : String) (consecutive : Nat) : ToolState :=
  { s with
    chains := s.chains.set cell consecutive
    accepted := s.accepted ++ [{ toolName, cell }] }

def runBackend (s : ToolState) (request : ToolInvokeRequest) : ToolState :=
  { s with backendRuns := s.backendRuns ++ [request] }

end ToolState

namespace InvokeTool

def IsHighRiskTool (tool : InvokeTool) (toolName : String) : Prop :=
  RiskLevel.high.order ≤ (tool.classifyToolRisk toolName).order

instance (tool : InvokeTool) (toolName : String) : Decidable (tool.IsHighRiskTool toolName) :=
  inferInstanceAs (Decidable (_ ≤ _))

def checkToolChain (tool : InvokeTool) (process : String) (request : ToolInvokeRequest) : ToolEffect Unit := do
  let cell := chainCell process request
  modify fun s => s.withChain cell
  if tool.IsHighRiskTool request.toolName then
    let limit := tool.maxHighRiskToolChainDepth
    if ((← get).consecutiveHighRisk cell : Int) ≥ limit then
      throw (.exception s!"High-risk tool chain depth exceeded ({limit} sequential max)")
    else
      modify fun s => s.accept cell request.toolName (s.consecutiveHighRisk cell + 1)
  else
    modify fun s => s.accept cell request.toolName 0

def normalizeRawResult (tool : InvokeTool) : Json → JsonDict
  | .obj fields => fields
  | .str text =>
    match tool.loads text with
    | some (.obj fields) => fields
    | _ => [("raw", .str text)]
  | raw => [("result", raw)]

def executeTool (tool : InvokeTool) (request : ToolInvokeRequest) (run : ToolRun) : ToolEffect JsonDict := do
  match run.adapter with
  | some answer =>
    modify fun s => s.runBackend request
    resultOf (raised answer)
  | none =>
    let _ ← resultOf (tool.toolRegistry.get request.toolName)
    modify fun s => s.runBackend request
    let raw ← resultOf (raised run.raw)
    return tool.normalizeRawResult raw

def buildAuditRecord (request : ToolInvokeRequest) (response : ToolInvokeResponse) : ToolAuditRecord :=
  { tool := request.toolName, persona := request.persona, sandboxId := request.sandboxId, jobId := request.jobId
    correlationId := request.correlationId, success := response.success, error := response.error
    argsKeys := (request.args.map Prod.fst).insertionSort (· ≤ ·) }

def recordToolInvocation (request : ToolInvokeRequest) (response : ToolInvokeResponse)
    (audited : Except PyExc Unit) : ToolEffect Unit := do
  modify fun s => { s with auditRecords := s.auditRecords ++ [buildAuditRecord request response] }
  resultOf audited

/-- The `try` block of `execute`. -/
def attempt (tool : InvokeTool) (process : String) (request : ToolInvokeRequest) (run : ToolRun) :
    ToolEffect ToolInvokeResponse := do
  resultOf (requireSandbox request.sandboxId)
  tool.checkToolChain process request
  let data ← tool.executeTool request run
  let sanitizedPayload ← resultOf (raised run.sanitized)
  return { success := true, toolName := request.toolName, data, sanitizedPayload }

def execute (tool : InvokeTool) (process : String) (request : ToolInvokeRequest) (run : ToolRun) :
    ToolEffect ToolInvokeResponse := do
  let response ← tryCatch (tool.attempt process request run)
    fun e => return { success := false, toolName := request.toolName, error := e.message }
  recordToolInvocation request response run.audited
  return response

def ChainOpen (tool : InvokeTool) (process : String) (request : ToolInvokeRequest) (s : ToolState) : Prop :=
  tool.IsHighRiskTool request.toolName →
    (s.consecutiveHighRisk (chainCell process request) : Int) < tool.maxHighRiskToolChainDepth

def Admits (tool : InvokeTool) (process : String) (request : ToolInvokeRequest) (s : ToolState) : Prop :=
  requireSandbox request.sandboxId = .ok () ∧ tool.ChainOpen process request s

def HasBackend (tool : InvokeTool) (request : ToolInvokeRequest) (run : ToolRun) : Prop :=
  run.adapter ≠ none ∨ request.toolName ∈ tool.toolRegistry.names

instance (tool : InvokeTool) (process : String) (request : ToolInvokeRequest) (s : ToolState) :
    Decidable (tool.ChainOpen process request s) :=
  inferInstanceAs (Decidable (_ → _))

instance (tool : InvokeTool) (process : String) (request : ToolInvokeRequest) (s : ToolState) :
    Decidable (tool.Admits process request s) :=
  inferInstanceAs (Decidable (_ ∧ _))

instance (tool : InvokeTool) (request : ToolInvokeRequest) (run : ToolRun) :
    Decidable (tool.HasBackend request run) :=
  inferInstanceAs (Decidable (_ ∨ _))

def consecutive (tool : InvokeTool) (process : String) (request : ToolInvokeRequest) (s : ToolState) : Nat :=
  if tool.IsHighRiskTool request.toolName then s.consecutiveHighRisk (chainCell process request) + 1 else 0

def admitted (tool : InvokeTool) (process : String) (request : ToolInvokeRequest) (s : ToolState) : ToolState :=
  (s.withChain (chainCell process request)).accept (chainCell process request) request.toolName
    (tool.consecutive process request s)

variable {tool : InvokeTool} {process : String} {request : ToolInvokeRequest} {run : ToolRun} {s : ToolState}

theorem consecutive_withChain (s : ToolState) (cell other : ChainCell) :
    (s.withChain cell).consecutiveHighRisk other = s.consecutiveHighRisk other := by
  unfold ToolState.consecutiveHighRisk ToolState.withChain
  rw [Dict.get?_set]
  by_cases same : other = cell
  · rw [if_pos same, same]
    rfl
  · rw [if_neg same]

theorem run_checkToolChain_open (open' : tool.ChainOpen process request s) :
    tool.checkToolChain process request s = .ok () (tool.admitted process request s) := by
  unfold checkToolChain admitted consecutive
  by_cases high : tool.IsHighRiskTool request.toolName
  · have below := open' high
    simp only [run_bind, run_modify, if_pos high, run_get, consecutive_withChain]
    rw [if_neg (by omega), run_modify, consecutive_withChain]
  · simp only [run_bind, run_modify, if_neg high]

theorem run_checkToolChain_closed (closed : ¬ tool.ChainOpen process request s) :
    ∃ e, tool.checkToolChain process request s = .error e (s.withChain (chainCell process request)) := by
  obtain ⟨high, reached⟩ := Classical.not_imp.mp closed
  unfold checkToolChain
  simp only [run_bind, run_modify, if_pos high, run_get, consecutive_withChain]
  rw [if_pos (by omega)]
  exact ⟨_, rfl⟩

theorem final_executeTool_backend (backend : tool.HasBackend request run) :
    final (tool.executeTool request run) s = s.runBackend request := by
  unfold executeTool
  cases adapter : run.adapter with
  | some answer =>
    dsimp only
    rw [final_bind]
    exact final_resultOf _ _
  | none =>
    have known : request.toolName ∈ tool.toolRegistry.names := by
      rcases backend with adapted | known
      · exact absurd adapter adapted
      · exact known
    have found : tool.toolRegistry.get request.toolName = .ok request.toolName := if_pos known
    dsimp only
    rw [found, final_bind, outcome_resultOf, final_resultOf]
    dsimp only
    rw [final_bind]
    show final (resultOf (raised run.raw) >>= _) (s.runBackend request) = _
    rw [final_bind, final_resultOf, outcome_resultOf]
    cases raised run.raw <;> rfl

theorem final_executeTool_none (missing : ¬ tool.HasBackend request run) :
    final (tool.executeTool request run) s = s := by
  obtain ⟨adapter, unknown⟩ := not_or.mp missing
  have failed : tool.toolRegistry.get request.toolName = .error (.exception s!"Unknown tool: {request.toolName}") :=
    if_neg unknown
  unfold executeTool
  rw [not_not.mp adapter]
  dsimp only
  rw [failed]
  rfl

theorem final_attempt_admitted (admits : tool.Admits process request s) :
    final (tool.attempt process request run) s =
      final (tool.executeTool request run) (tool.admitted process request s) := by
  unfold attempt
  rw [admits.1, final_bind, outcome_resultOf, final_resultOf]
  dsimp only
  rw [final_bind]
  simp only [outcome, final, run_checkToolChain_open admits.2]
  rw [run_bind]
  cases ran : tool.executeTool request run (tool.admitted process request s) with
  | error e t => rfl
  | ok data t =>
    dsimp only
    rw [run_bind, run_resultOf]
    cases raised run.sanitized <;> rfl

theorem final_attempt_denied (denied : requireSandbox request.sandboxId ≠ .ok ()) :
    final (tool.attempt process request run) s = s := by
  unfold attempt
  cases sandbox : requireSandbox request.sandboxId with
  | ok _ => exact absurd sandbox denied
  | error e => rfl

theorem final_attempt_closed (sandbox : requireSandbox request.sandboxId = .ok ())
    (closed : ¬ tool.ChainOpen process request s) :
    final (tool.attempt process request run) s = s.withChain (chainCell process request) := by
  obtain ⟨e, raised⟩ := run_checkToolChain_closed closed
  unfold attempt
  rw [sandbox, final_bind, outcome_resultOf, final_resultOf]
  dsimp only
  rw [final_bind]
  simp only [outcome, final, raised]

theorem run_execute (tool : InvokeTool) (process : String) (request : ToolInvokeRequest) (run : ToolRun)
    (s : ToolState) :
    ∃ response records,
    tool.execute process request run s =
      match run.audited with
      | .ok _ => .ok response { final (tool.attempt process request run) s with auditRecords := records }
      | .error e => .error e { final (tool.attempt process request run) s with auditRecords := records } := by
  unfold execute recordToolInvocation
  rw [run_bind, run_tryCatch]
  unfold final
  cases tool.attempt process request run s with
  | ok response t =>
    refine ⟨response, t.auditRecords ++ [buildAuditRecord request response], ?_⟩
    simp only [run_bind, run_modify, run_resultOf]
    cases run.audited <;> rfl
  | error e t =>
    let response : ToolInvokeResponse := { success := false, toolName := request.toolName, error := e.message }
    refine ⟨response, t.auditRecords ++ [buildAuditRecord request response], ?_⟩
    simp only [run_bind, run_pure, run_modify, run_resultOf]
    cases run.audited <;> rfl

theorem final_execute (tool : InvokeTool) (process : String) (request : ToolInvokeRequest) (run : ToolRun)
    (s : ToolState) : ∃ records,
    final (tool.execute process request run) s =
      { final (tool.attempt process request run) s with auditRecords := records } := by
  obtain ⟨response, records, ran⟩ := run_execute tool process request run s
  refine ⟨records, ?_⟩
  rw [final, ran]
  cases run.audited <;> rfl

theorem outcome_execute : (∃ response, outcome (tool.execute process request run) s = .ok response) ∧
      run.audited = .ok () ∨
    ∃ e, outcome (tool.execute process request run) s = .error e ∧ run.audited = .error e := by
  obtain ⟨response, records, ran⟩ := run_execute tool process request run s
  rw [outcome, ran]
  cases run.audited with
  | ok _ => exact .inl ⟨⟨response, rfl⟩, rfl⟩
  | error e => exact .inr ⟨e, rfl, rfl⟩

theorem backendRuns_execute (tool : InvokeTool) (process : String) (request : ToolInvokeRequest) (run : ToolRun)
    (s : ToolState) :
    (final (tool.execute process request run) s).backendRuns =
      if tool.Admits process request s ∧ tool.HasBackend request run then s.backendRuns ++ [request]
      else s.backendRuns := by
  obtain ⟨records, ended⟩ := final_execute tool process request run s
  rw [ended]
  dsimp only
  by_cases admits : tool.Admits process request s
  · rw [final_attempt_admitted admits]
    by_cases backend : tool.HasBackend request run
    · rw [final_executeTool_backend backend, if_pos ⟨admits, backend⟩]
      rfl
    · rw [final_executeTool_none backend, if_neg fun both => backend both.2]
      rfl
  · rw [if_neg fun both => admits both.1]
    by_cases sandbox : requireSandbox request.sandboxId = .ok ()
    · rw [final_attempt_closed sandbox fun open' => admits ⟨sandbox, open'⟩]
      rfl
    · rw [final_attempt_denied sandbox]

theorem accepted_executeTool (tool : InvokeTool) (request : ToolInvokeRequest) (run : ToolRun) (s : ToolState) :
    (final (tool.executeTool request run) s).accepted = s.accepted ∧
      (final (tool.executeTool request run) s).chains = s.chains := by
  by_cases backend : tool.HasBackend request run
  · rw [final_executeTool_backend backend]
    exact ⟨rfl, rfl⟩
  · rw [final_executeTool_none backend]
    exact ⟨rfl, rfl⟩

theorem execute_admitted (run : ToolRun) (admits : tool.Admits process request s) :
    (final (tool.execute process request run) s).accepted =
        s.accepted ++ [{ toolName := request.toolName, cell := chainCell process request }] ∧
      ∀ cell, (final (tool.execute process request run) s).consecutiveHighRisk cell =
        if cell = chainCell process request then tool.consecutive process request s
        else s.consecutiveHighRisk cell := by
  obtain ⟨records, ended⟩ := final_execute tool process request run s
  obtain ⟨accepted, chains⟩ := accepted_executeTool tool request run (tool.admitted process request s)
  rw [ended, final_attempt_admitted admits]
  constructor
  · exact accepted
  · intro cell
    have counted : (tool.admitted process request s).consecutiveHighRisk cell =
        if cell = chainCell process request then tool.consecutive process request s
        else s.consecutiveHighRisk cell := by
      unfold admitted ToolState.consecutiveHighRisk ToolState.accept
      rw [Dict.get?_set]
      by_cases same : cell = chainCell process request
      · rw [if_pos same, if_pos same]
        rfl
      · rw [if_neg same, if_neg same]
        exact consecutive_withChain s (chainCell process request) cell
    rw [← counted]
    unfold ToolState.consecutiveHighRisk
    dsimp only
    rw [chains]

theorem execute_refused (run : ToolRun) (refused : ¬ tool.Admits process request s) :
    (final (tool.execute process request run) s).accepted = s.accepted ∧
      ∀ cell, (final (tool.execute process request run) s).consecutiveHighRisk cell = s.consecutiveHighRisk cell := by
  obtain ⟨records, ended⟩ := final_execute tool process request run s
  rw [ended]
  by_cases sandbox : requireSandbox request.sandboxId = .ok ()
  · rw [final_attempt_closed sandbox fun open' => refused ⟨sandbox, open'⟩]
    exact ⟨rfl, consecutive_withChain s (chainCell process request)⟩
  · rw [final_attempt_denied sandbox]
    exact ⟨rfl, fun _ => rfl⟩

end InvokeTool

end CysAgi
