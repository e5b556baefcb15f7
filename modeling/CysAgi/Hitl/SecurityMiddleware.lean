import CysAgi.Hitl.Pause

namespace CysAgi

open Py

inductive RiskLevel where
  | low
  | medium
  | high
  | critical
  deriving DecidableEq

namespace RiskLevel

def order : RiskLevel → Nat
  | .low => 0
  | .medium => 1
  | .high => 2
  | .critical => 3

def value : RiskLevel → String
  | .low => "low"
  | .medium => "medium"
  | .high => "high"
  | .critical => "critical"

end RiskLevel

structure ToolCall where
  id : String := ""
  name : String := ""
  args : JsonDict := []
  deriving DecidableEq

structure ToolMessage where
  content : String
  toolCallId : String
  status : String
  deriving DecidableEq

def ToolCall.errorMessage (call : ToolCall) (content : String) : ToolMessage :=
  { content, toolCallId := call.id, status := "error" }

structure RiskPolicy where
  classifyToolRisk : String → String → RiskLevel
  hitlThreshold : String → RiskLevel

structure SecurityMiddleware where
  agentId : String
  sessionId : String
  stage : String
  policy : RiskPolicy
  paramsHash : JsonDict → String
  profileId : String := defaultProfileId

/-- What the world outside answers during one run of the tool node for one call: the rate
    limiter, the approval id generator, the publisher of paused jobs and the tool itself.
    An interrupt returns the answer it is resumed with and raises while there is none. -/
structure NodeRun where
  rateLimit : Except PyExc Unit := .ok ()
  approvalId : String := ""
  publishPaused : Option (Except PyExc Unit) := some (.ok ())
  answer : Option Json := none
  handled : Except PyExc String := .ok ""

namespace SecurityMiddleware

def Gated (mw : SecurityMiddleware) (call : ToolCall) : Prop :=
  ¬ (mw.policy.classifyToolRisk call.name mw.profileId).order ≤ (mw.policy.hitlThreshold mw.profileId).order

instance (mw : SecurityMiddleware) (call : ToolCall) : Decidable (mw.Gated call) :=
  inferInstanceAs (Decidable (¬ _))

def preview (mw : SecurityMiddleware) (call : ToolCall) (node : NodeRun) : HitlPreview :=
  buildHitlPreview mw.paramsHash node.approvalId call.name call.args
    (mw.policy.classifyToolRisk call.name mw.profileId).value mw.sessionId mw.agentId

def interrupt (node : NodeRun) (value : JsonDict) : Effect Json :=
  match node.answer with
  | none => throw (.graphInterrupt value)
  | some answer => return answer

def awaitHitlIfNeeded (mw : SecurityMiddleware) (call : ToolCall) (node : NodeRun) :
    Effect (Option ToolMessage) := do
  if ¬ mw.Gated call then
    return none
  else if mw.stage = "dev" then
    let risk := (mw.policy.classifyToolRisk call.name mw.profileId).value
    return some (call.errorMessage s!"Tool '{call.name}' (risk={risk}) requires human approval.")
  else
    let _ ← registerHitlPause node.publishPaused (mw.preview call node)
    let decision ← interrupt node (mw.preview call node).toDict
    if ← resultOf (resumeDecisionApproved decision) then
      return none
    else
      return some (call.errorMessage s!"Tool '{call.name}' rejected by human reviewer.")

def onToolFailure (call : ToolCall) : PyExc → Effect ToolMessage
  | .jobBudgetExceeded message => return call.errorMessage message
  | e => throw e

def callHandler (mw : SecurityMiddleware) (call : ToolCall) (handler : Effect ToolMessage) :
    Effect ToolMessage :=
  tryCatch
    (do
      let result ← handler
      let budgets ← resultOf ((← get).budgets.recordToolCall mw.sessionId)
      modify fun w => w.setBudgets budgets
      return result)
    (onToolFailure call)

def awrapToolCall (mw : SecurityMiddleware) (call : ToolCall) (node : NodeRun)
    (handler : Effect ToolMessage) : Effect ToolMessage := do
  match (← get).budgets.checkToolCall mw.sessionId with
  | some e => return call.errorMessage e.message
  | none =>
    match node.rateLimit with
    | .error (.baseException message) => throw (.baseException message)
    | .error e => return call.errorMessage e.message
    | .ok _ =>
      match ← mw.awaitHitlIfNeeded call node with
      | some blocked => return blocked
      | none => mw.callHandler call handler

def Admitted (mw : SecurityMiddleware) (w : World) (node : NodeRun) : Prop :=
  w.budgets.checkToolCall mw.sessionId = none ∧ node.rateLimit = .ok ()

def submitted (mw : SecurityMiddleware) (call : ToolCall) (node : NodeRun) (w : World) : World :=
  { w.pauseForHitl (mw.preview call node).pending (mw.preview call node).toDict with
    pausedRecords := w.pausedRecords ++ [(mw.preview call node).pausedRecord] }

section

variable {mw : SecurityMiddleware} {call : ToolCall} {node : NodeRun} {w : World}
variable {handler : Effect ToolMessage}

theorem awaitHitlIfNeeded_open (auto : ¬ mw.Gated call) (w : World) :
    mw.awaitHitlIfNeeded call node w = .ok none w := by
  unfold awaitHitlIfNeeded
  rw [if_pos auto]
  rfl

theorem awaitHitlIfNeeded_dev (node : NodeRun) (gated : mw.Gated call) (dev : mw.stage = "dev") (w : World) :
    ∃ message, mw.awaitHitlIfNeeded call node w = .ok (some message) w := by
  unfold awaitHitlIfNeeded
  rw [if_neg (not_not.mpr gated), if_pos dev]
  exact ⟨_, rfl⟩

theorem awaitHitlIfNeeded_gated (gated : mw.Gated call) (live : mw.stage ≠ "dev") (w : World) :
    mw.awaitHitlIfNeeded call node w =
      match node.publishPaused with
      | none => .error (.exception
          "HITL pause registry not configured; call bootstrap.container.wire_hitl_pause()") w
      | some (.error e) =>
        .error e (w.pauseForHitl (mw.preview call node).pending (mw.preview call node).toDict)
      | some (.ok _) =>
        match node.answer with
        | none => .error (.graphInterrupt (mw.preview call node).toDict) (mw.submitted call node w)
        | some answer =>
          match resumeDecisionApproved answer with
          | .error e => .error e (mw.submitted call node w)
          | .ok true => .ok none (mw.submitted call node w)
          | .ok false => .ok
              (some (call.errorMessage s!"Tool '{call.name}' rejected by human reviewer."))
              (mw.submitted call node w) := by
  unfold awaitHitlIfNeeded registerHitlPause interrupt
  rw [if_neg (not_not.mpr gated), if_neg live, run_bind]
  cases node.publishPaused with
  | none => rfl
  | some published =>
    cases published with
    | error e => rfl
    | ok _ =>
      cases node.answer with
      | none => rfl
      | some answer =>
        cases verdict : resumeDecisionApproved answer with
        | error e => simp only [run_bind, run_modify, run_resultOf, run_pure, verdict]; rfl
        | ok approved =>
          cases approved <;> simp only [run_bind, run_modify, run_resultOf, run_pure, verdict] <;> rfl

theorem awrapToolCall_refused (refused : ¬ mw.Admitted w node) :
    final (mw.awrapToolCall call node handler) w = w := by
  unfold Admitted at refused
  unfold awrapToolCall
  rw [final_bind]
  simp only [outcome, final, run_get]
  cases budget : w.budgets.checkToolCall mw.sessionId with
  | some e => rfl
  | none =>
    cases limit : node.rateLimit with
    | error e => cases e <;> rfl
    | ok _ => exact absurd ⟨budget, limit⟩ refused

theorem awrapToolCall_admitted (admitted : mw.Admitted w node) :
    mw.awrapToolCall call node handler w =
      match mw.awaitHitlIfNeeded call node w with
      | .error e t => .error e t
      | .ok (some blocked) t => .ok blocked t
      | .ok none t => mw.callHandler call handler t := by
  obtain ⟨budget, limit⟩ := admitted
  unfold awrapToolCall
  rw [run_bind, run_get]
  simp only [budget, limit, run_bind]
  cases mw.awaitHitlIfNeeded call node w with
  | error e t => rfl
  | ok blocked t => cases blocked <;> rfl

theorem final_callHandler (w : World) :
    final (mw.callHandler call handler) w =
      match outcome handler w with
      | .error _ => final handler w
      | .ok _ =>
        match (final handler w).budgets.recordToolCall mw.sessionId with
        | .error _ => final handler w
        | .ok budgets => (final handler w).setBudgets budgets := by
  have rethrown : ∀ e t, final (onToolFailure call e) t = t := by
    intro e t
    cases e <;> rfl
  unfold callHandler
  cases ran : handler w with
  | ok result t =>
    have returned : outcome handler w = .ok result := by rw [outcome, ran]
    have ended : final handler w = t := by rw [final, ran]
    rw [returned, ended]
    dsimp only
    cases counted : t.budgets.recordToolCall mw.sessionId with
    | ok budgets =>
      simp only [final, run_tryCatch, run_bind, ran, run_get, counted, run_resultOf, run_modify, run_pure]
    | error e =>
      rw [final, run_tryCatch]
      simp only [run_bind, ran, run_get, counted, run_resultOf]
      exact rethrown e t
  | error e t =>
    have raised : outcome handler w = .error e := by rw [outcome, ran]
    have ended : final handler w = t := by rw [final, ran]
    rw [raised, ended, final, run_tryCatch]
    simp only [run_bind, ran]
    exact rethrown e t

theorem callHandler_preserves {P : World → Prop} (body : Preserves P handler)
    (counted : ∀ w budgets, w.budgets.recordToolCall mw.sessionId = .ok budgets → P w → P (w.setBudgets budgets)) :
    Preserves P (mw.callHandler call handler) := by
  intro w start
  have after := body w start
  rw [final_callHandler]
  split
  · exact after
  · split
    · exact after
    · rename_i budgets recorded
      exact counted _ budgets recorded after

theorem awaitHitlIfNeeded_preserves {P : World → Prop} (mw : SecurityMiddleware) (call : ToolCall)
    (node : NodeRun)
    (paused : ∀ w pending preview, P w → P (w.pauseForHitl pending preview))
    (announced : ∀ w records, P w → P { w with pausedRecords := records }) :
    Preserves P (mw.awaitHitlIfNeeded call node) := by
  intro w start
  by_cases gated : mw.Gated call
  · by_cases dev : mw.stage = "dev"
    · obtain ⟨message, done⟩ := awaitHitlIfNeeded_dev node gated dev w
      rw [final, done]
      exact start
    · have registered := paused w (mw.preview call node).pending (mw.preview call node).toDict start
      have out : P (mw.submitted call node w) := announced _ _ registered
      rw [final, awaitHitlIfNeeded_gated gated dev]
      cases node.publishPaused with
      | none => exact start
      | some published =>
        cases published with
        | error e => exact registered
        | ok _ =>
          cases node.answer with
          | none => exact out
          | some answer =>
            cases verdict : resumeDecisionApproved answer with
            | error e => simpa only [verdict] using out
            | ok approved => cases approved <;> simpa only [verdict] using out
  · rw [final, awaitHitlIfNeeded_open gated]
    exact start

theorem awrapToolCall_preserves {P : World → Prop} (body : Preserves P handler)
    (paused : ∀ w pending preview, P w → P (w.pauseForHitl pending preview))
    (announced : ∀ w records, P w → P { w with pausedRecords := records })
    (counted : ∀ w budgets, w.budgets.recordToolCall mw.sessionId = .ok budgets → P w → P (w.setBudgets budgets)) :
    Preserves P (mw.awrapToolCall call node handler) := by
  intro w start
  by_cases admitted : mw.Admitted w node
  · have waited := awaitHitlIfNeeded_preserves mw call node paused announced w start
    rw [final] at waited ⊢
    rw [awrapToolCall_admitted admitted]
    cases gate : mw.awaitHitlIfNeeded call node w with
    | error e t => simpa [gate] using waited
    | ok blocked t =>
      rw [gate] at waited
      cases blocked with
      | some message => exact waited
      | none => exact callHandler_preserves body counted t waited
  · rw [awrapToolCall_refused admitted]
    exact start

end

end SecurityMiddleware

end CysAgi
