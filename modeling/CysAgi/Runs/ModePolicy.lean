import CysAgi.Base.Text
import CysAgi.Runs.Models

namespace CysAgi

open Py

/-- `try: return attempt, except Exception: pass`, then the rest. -/
def orOnException {α : Type} (attempt rest : Except PyExc α) : Except PyExc α :=
  match attempt with
  | .error exc => if exc.caught then rest else .error exc
  | .ok value => .ok value

structure ModePolicyPayload where
  readOnlyTools : List String := []
  planBlockedTools : List String := []
  mutatingTools : List String := ["spawn_worker", "update_todos"]

def mutatingTools : List String := ["spawn_worker", "update_todos"]

def readOnlyTools : List String :=
  ["build_timeline", "correlate_dns", "correlate_findings", "dedup_alerts", "enrich_ioc", "load_skill", "parse_netflow",
    "parse_sast_report", "playbook_for_technique", "playbook_framework", "playbook_get", "playbook_procedure",
    "playbook_search", "query_siem_readonly", "rag_query", "read_document", "read_repo_metadata", "reasoning_check",
    "reasoning_step", "search_archived_webpage", "search_personas", "search_skills", "search_tools",
    "ti_search_in_category", "vision_analyze", "web_search"]

def planBlockedTools : List String :=
  ["ask_user", "browser_use", "delegate_research", "plan_tool_calls", "python_sandbox", "spawn_worker", "update_todos"]

def defaultModePolicy : ModePolicyPayload := { readOnlyTools, planBlockedTools, mutatingTools }

structure ModeSets where
  readOnly : List String
  planBlocked : List String
  mutating : List String

def ModeSets.default : ModeSets :=
  { readOnly := readOnlyTools, planBlocked := planBlockedTools, mutating := mutatingTools }

def modeSetsFromPolicy (policy : ModePolicyPayload) : ModeSets :=
  if policy.readOnlyTools = [] ∧ policy.planBlockedTools = [] then .default
  else {
    readOnly := given policy.readOnlyTools readOnlyTools
    planBlocked := given policy.planBlockedTools planBlockedTools
    mutating := given policy.mutatingTools mutatingTools }
where
  given (tools otherwise : List String) : List String := if tools = [] then otherwise else tools

def isMutating (toolName : String) (mutating : List String) : Bool :=
  toolName ∈ mutating || ["run_", "write_", "spawn_", "execute_"].any (startsWith toolName)

def allowToolPure (mode : Option InteractionMode) (toolName : String)
    (modePolicy : ModePolicyPayload := defaultModePolicy) : Bool :=
  let sets := modeSetsFromPolicy modePolicy
  match mode with
  | some .plan => toolName ∉ sets.planBlocked && !isMutating toolName sets.mutating
  | some .ask => toolName ∈ sets.readOnly || startsWith toolName "search_"
  | _ => true

/-- `ModePolicy.allow_tool`, where `modePolicyOf` reads the mode policy of a profile. -/
def allowTool (modePolicyOf : String → Except PyExc ModePolicyPayload) (mode : Option InteractionMode)
    (toolName : String) (profileId : String := "") (modePolicy : Option ModePolicyPayload := none) :
    Except PyExc Bool :=
  match modePolicy with
  | some modePolicy => .ok (allowToolPure mode toolName modePolicy)
  | none =>
    let byDefault := allowToolPure mode toolName
    if profileId = "" then .ok byDefault
    else orOnException ((modePolicyOf profileId).map fun policy => allowToolPure mode toolName policy) (.ok byDefault)

theorem plan_denies_mutating {toolName : String} {policy : ModePolicyPayload}
    (mutates : isMutating toolName (modeSetsFromPolicy policy).mutating = true) :
    allowToolPure (some .plan) toolName policy = false := by
  simp [allowToolPure, mutates]

theorem default_ask_tools_plan {toolName : String} (listed : toolName ∈ readOnlyTools) :
    allowToolPure (some .ask) toolName = true ∧ allowToolPure (some .plan) toolName = true := by
  have every : ∀ name ∈ readOnlyTools,
      allowToolPure (some .ask) name = true ∧ allowToolPure (some .plan) name = true := by decide +kernel
  exact every toolName listed

theorem allowToolPure_free {mode : Option InteractionMode} (free : mode ≠ some .plan ∧ mode ≠ some .ask)
    (toolName : String) (policy : ModePolicyPayload) : allowToolPure mode toolName policy = true := by
  obtain ⟨unplanned, unasked⟩ := free
  match mode with
  | none | some .agent | some .debug => rfl
  | some .plan => exact absurd rfl unplanned
  | some .ask => exact absurd rfl unasked

end CysAgi
