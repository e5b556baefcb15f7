import CysAgi.Runtime.World

namespace CysAgi

open Py

/-- `text.split(":", 1)`, when there is a colon. -/
def splitColon : List Char → Option (List Char × List Char)
  | [] => none
  | c :: rest =>
    if c = ':' then some ([], rest)
    else (splitColon rest).map fun (head, tail) => (c :: head, tail)

def jobIdFromSession (sessionId : String) : Option String :=
  match splitColon sessionId.toList with
  | none => none
  | some (kind, rest) =>
    match splitColon rest with
    | none => none
    | some (_, jobId) => if kind = "worker".toList then some (String.ofList jobId) else none

def workerSession (persona jobId : String) : String := "worker:" ++ persona ++ ":" ++ jobId

theorem splitColon_append (head : List Char) (plain : ':' ∉ head) (rest : List Char) :
    splitColon (head ++ ':' :: rest) = some (head, rest) := by
  induction head with
  | nil => simp [splitColon]
  | cons c head ih =>
    rw [List.mem_cons, not_or] at plain
    have other : c ≠ ':' := Ne.symm plain.1
    simp [splitColon, other, ih plain.2]

theorem jobIdFromSession_workerSession {persona : String} (plain : ':' ∉ persona.toList)
    (jobId : String) : jobIdFromSession (workerSession persona jobId) = some jobId := by
  have outer : splitColon (workerSession persona jobId).toList =
      some ("worker".toList, persona.toList ++ ':' :: jobId.toList) := by
    rw [← splitColon_append "worker".toList (by decide)]
    simp [workerSession]
  simp [jobIdFromSession, outer, splitColon_append _ plain]

/-- `build_hitl_preview`'s dict. The action is always a tool call. -/
structure HitlPreview where
  tool : String
  args : JsonDict
  risk : String
  jobId : String
  sessionId : String
  persona : String
  approvalId : String
  paramsHash : String

namespace HitlPreview

def toDict (preview : HitlPreview) : JsonDict :=
  [("action", .str "tool_call"), ("tool", .str preview.tool), ("args", .obj preview.args),
    ("risk", .str preview.risk), ("job_id", .str preview.jobId),
    ("session_id", .str preview.sessionId), ("persona", .str preview.persona),
    ("approval_id", .str preview.approvalId), ("params_hash", .str preview.paramsHash)]

def pending (preview : HitlPreview) : PendingHitlAction :=
  { jobId := preview.jobId, sessionId := preview.sessionId, persona := preview.persona
    toolName := preview.tool, toolArgs := preview.args, riskLevel := preview.risk
    approvalId := preview.approvalId }

def pausedRecord (preview : HitlPreview) : PausedRecord :=
  { jobId := preview.jobId, persona := preview.persona, tool := preview.tool
    approvalId := preview.approvalId, status := "awaiting_approval" }

end HitlPreview

def buildHitlPreview (paramsHash : JsonDict → String) (approvalId toolName : String)
    (toolArgs : JsonDict) (riskLevel sessionId persona : String) : HitlPreview :=
  { tool := toolName, args := toolArgs, risk := riskLevel
    jobId := orElse ((jobIdFromSession sessionId).getD "") sessionId
    sessionId, persona, approvalId, paramsHash := paramsHash toolArgs }

/-- The pause is in the job store before its event is published. The publisher is the one
    that `configure` was given, none before that. -/
def registerHitlPause (publishPaused : Option (Except PyExc Unit)) (preview : HitlPreview) :
    Effect PendingHitlAction :=
  match publishPaused with
  | none => throw (.exception
      "HITL pause registry not configured; call bootstrap.container.wire_hitl_pause()")
  | some published => do
    modify fun w => w.pauseForHitl preview.pending preview.toDict
    resultOf published
    modify fun w => { w with pausedRecords := w.pausedRecords ++ [preview.pausedRecord] }
    return preview.pending

/-- `resume_decision_approved`. A bad shape raises what Python raises there. -/
def resumeDecisionApproved : Json → Except PyExc Bool
  | .obj decision =>
    let given := JsonDict.getD decision "decision" .null
    if given = .str "reject" then .ok false
    else if given.unhashable then .error (.exception "unhashable type")
    else if given = .str "approve" ∨ given = .str "edit" then .ok true
    else
      let decisions := JsonDict.getD decision "decisions" (.arr [])
      if decisions.truthy then
        match decisions with
        | .arr (.obj first :: _) => .ok (decide (JsonDict.getD first "type" .null ≠ .str "reject"))
        | _ => .error (.exception "decisions[0].get failed")
      else .ok true
  | value => .ok value.truthy

def ExplicitRefusal : Json → Prop
  | .obj decision =>
    let given := JsonDict.getD decision "decision" .null
    let decisions := JsonDict.getD decision "decisions" (.arr [])
    given = .str "reject" ∨ given.unhashable ∨
      (given ≠ .str "approve" ∧ given ≠ .str "edit" ∧ decisions.truthy ∧
        ∀ first rest, decisions = .arr (.obj first :: rest) →
          JsonDict.getD first "type" .null = .str "reject")
  | value => value.truthy = false

theorem resumeDecisionApproved_iff (value : Json) :
    resumeDecisionApproved value = .ok true ↔ ¬ ExplicitRefusal value := by
  cases value with
  | obj decision =>
    simp only [resumeDecisionApproved, ExplicitRefusal]
    generalize JsonDict.getD decision "decision" .null = given
    generalize JsonDict.getD decision "decisions" (.arr []) = decisions
    by_cases reject : given = .str "reject"
    · simp [reject]
    by_cases bad : given.unhashable = true
    · simp [reject, bad]
    by_cases known : given = .str "approve" ∨ given = .str "edit"
    · simp only [reject, bad, known, if_true, if_false, Bool.false_eq_true, false_or, true_iff]
      intro both
      obtain ⟨notApprove, notEdit, -⟩ := both
      exact known.elim notApprove notEdit
    have others := not_or.mp known
    simp only [reject, bad, if_false, Bool.false_eq_true, false_or, others.1, others.2,
      ne_eq, not_false_eq_true, true_and]
    by_cases listed : decisions.truthy = true
    · simp only [listed, if_true, true_and]
      cases decisions with
      | arr items =>
        rcases items with _ | ⟨first, rest⟩
        · simp [Json.truthy] at listed
        cases first <;> simp
      | _ => simp
    · simp [listed]
  | _ => simp [resumeDecisionApproved, ExplicitRefusal]

end CysAgi
