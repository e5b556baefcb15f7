import CysAgi.Security.InputSanitizer
import CysAgi.Catalog.Postgres
import Mathlib.Data.List.Sort

open Py

namespace CysAgi.Catalog

/-- What the gate uses beside the catalogs: the sanitizer, the hexadecimal SHA-256 of an encoded text, the
    registered tools, and the allowlist in force for a profile. -/
structure GateLibrary where
  sanitizer : InputSanitizer
  sha256Hex : String → String
  toolNames : List String
  allowlist : String → Option (List String)

def filterToolsForProfile (lib : GateLibrary) (tools : List String) (profileId : String) : List String :=
  match lib.allowlist profileId with
  | none => tools
  | some allowed => tools.filter fun tool => tool ∈ allowed

def commaSeparated (names : List String) : String := ", ".intercalate names

def validateAgent (lib : GateLibrary) (skillIds : List String) (entry : AgentCatalogEntry) : Except PyExc Unit :=
  let unknownTools := entry.tools.filter fun tool => tool ∉ lib.toolNames
  let allowed := filterToolsForProfile lib entry.tools entry.profileId
  let unknownSkills := entry.skills.filter fun skill => skill ∉ skillIds
  if unknownTools ≠ [] then .error (.exception s!"Unknown tools: {commaSeparated unknownTools}")
  else if allowed.length ≠ entry.tools.length then
    let blocked := (entry.tools.filter fun tool => tool ∉ allowed).eraseDups.insertionSort (· ≤ ·)
    .error (.exception s!"Tools blocked by profile policy: {commaSeparated blocked}")
  else if unknownSkills ≠ [] then .error (.exception s!"Unknown skills: {commaSeparated unknownSkills}")
  else .ok ()

def validateSkill (entry : SkillCatalogEntry) : Except PyExc Unit :=
  if strip entry.id = "" then .error (.exception "Skill id is required")
  else if entry.stagingStatus = .draft ∧ strip entry.body = "" then
    .error (.exception "Draft skill requires non-empty body")
  else .ok ()

def promptDigest (lib : GateLibrary) (prompt : String) : String := String.ofList ((lib.sha256Hex prompt).toList.take 16)

def checkAgent (lib : GateLibrary) (skillIds : List String) (entry : AgentCatalogEntry) :
    AgentCatalogEntry × Except PyExc Unit :=
  if entry.systemPrompt = "" then (entry, validateAgent lib skillIds entry)
  else
    match lib.sanitizer.sanitize entry.systemPrompt .catalog with
    | .error raised => (entry, .error raised)
    | .ok prompt =>
      let entry := { entry with systemPrompt := prompt, systemPromptDigest := promptDigest lib prompt }
      (entry, validateAgent lib skillIds entry)

def checkSkill (lib : GateLibrary) (entry : SkillCatalogEntry) : SkillCatalogEntry × Except PyExc Unit :=
  if entry.body = "" then (entry, validateSkill entry)
  else
    match lib.sanitizer.sanitize entry.body .skill with
    | .error raised => (entry, .error raised)
    | .ok body =>
      let entry := { entry with body, contentHash := lib.sha256Hex body }
      (entry, validateSkill entry)

theorem checkAgent_map {β : Type} (f : AgentCatalogEntry → β) (lib : GateLibrary) (skillIds : List String)
    {entry : AgentCatalogEntry}
    (blind : ∀ systemPrompt systemPromptDigest, f { entry with systemPrompt, systemPromptDigest } = f entry) :
    f (checkAgent lib skillIds entry).1 = f entry := by
  unfold checkAgent
  by_cases blank : entry.systemPrompt = ""
  · rw [if_pos blank]
  · rw [if_neg blank]
    cases lib.sanitizer.sanitize entry.systemPrompt .catalog with
    | error raised => rfl
    | ok prompt => exact blind prompt (promptDigest lib prompt)

theorem checkAgent_name (lib : GateLibrary) (skillIds : List String) (entry : AgentCatalogEntry) :
    (checkAgent lib skillIds entry).1.name = entry.name :=
  checkAgent_map AgentCatalogEntry.name lib skillIds fun _ _ => rfl

theorem checkSkill_map {β : Type} (f : SkillCatalogEntry → β) (lib : GateLibrary) {entry : SkillCatalogEntry}
    (blind : ∀ body contentHash, f { entry with body, contentHash } = f entry) :
    f (checkSkill lib entry).1 = f entry := by
  unfold checkSkill
  by_cases blank : entry.body = ""
  · rw [if_pos blank]
  · rw [if_neg blank]
    cases lib.sanitizer.sanitize entry.body .skill with
    | error raised => rfl
    | ok body => exact blind body (lib.sha256Hex body)

theorem checkSkill_key (lib : GateLibrary) (entry : SkillCatalogEntry) :
    itemKey (checkSkill lib entry).1 = itemKey entry :=
  checkSkill_map itemKey lib fun _ _ => rfl

def saveAgent (lib : GateLibrary) (skillIds : List String) (agents : AgentCatalog) (live : Bool)
    (entry : AgentCatalogEntry) : AgentCatalog × Except PyExc AgentCatalogEntry :=
  let checked := checkAgent lib skillIds entry
  let held := if live then agents.hold checked.1 else agents
  match checked.2 with
  | .error raised => (held, .error raised)
  | .ok () => ((held.upsertAgent checked.1).1, .ok (held.upsertAgent checked.1).2)

def saveSkill (lib : GateLibrary) (backend : Backend) (skills : JsonPayloadCatalog SkillCatalogEntry) (live : Bool)
    (entry : SkillCatalogEntry) : JsonPayloadCatalog SkillCatalogEntry × Except PyExc SkillCatalogEntry :=
  let checked := checkSkill lib entry
  let held := if live then skills.put checked.1 else skills
  match checked.2 with
  | .error raised => (held, .error raised)
  | .ok () => ((backend.upsertSkill held checked.1).1, .ok (backend.upsertSkill held checked.1).2)

structure AuditRecord where
  action : String
  agent : String
  actor : String
  details : JsonDict := []
  resourceType : String
  resourceId : String
  deriving DecidableEq

structure GateState where
  agents : InMemoryAgentCatalog
  skills : InMemorySkillCatalog
  plans : InMemoryPlanCatalog
  mcp : InMemoryMcpServerCatalog
  audit : List AuditRecord

namespace GateState

variable (lib : GateLibrary) (s : GateState)

def record (entry : AuditRecord) : GateState := { s with audit := s.audit ++ [entry] }

def holdAgent (live : Bool) (entry : AgentCatalogEntry) : GateState :=
  if live then { s with agents := { s.agents with agents := s.agents.agents.put entry } } else s

def holdSkill (live : Bool) (entry : SkillCatalogEntry) : GateState :=
  if live then { s with skills := s.skills.put entry } else s

def upsertAgent (live : Bool) (entry : AgentCatalogEntry) (actor : String) :
    GateState × Except PyExc AgentCatalogEntry :=
  let checked := checkAgent lib s.skills.ids entry
  let held := s.holdAgent live checked.1
  match checked.2 with
  | .error raised => (held, .error raised)
  | .ok () =>
    let stored := held.agents.upsertAgent checked.1
    ({ held with agents := stored.1 }.record
      { action := "upsert", agent := checked.1.name, actor, details := [("version", .int stored.2.version)]
        resourceType := "agent", resourceId := checked.1.name }, .ok stored.2)

def upsertSkill (backend : Backend) (live : Bool) (entry : SkillCatalogEntry) (actor : String) :
    GateState × Except PyExc SkillCatalogEntry :=
  let checked := checkSkill lib entry
  let held := s.holdSkill live checked.1
  match checked.2 with
  | .error raised => (held, .error raised)
  | .ok () =>
    let stored := backend.upsertSkill held.skills checked.1
    ({ held with skills := stored.1 }.record
      { action := "upsert", agent := checked.1.id, actor
        details := [("version", .int stored.2.version), ("staging", .str stored.2.stagingStatus.value)]
        resourceType := "skill", resourceId := checked.1.id }, .ok stored.2)

def approveSkill (backend : Backend) (skillId profileId actor : String) : GateState × Except PyExc SkillCatalogEntry :=
  match s.skills.getItem skillId profileId with
  | none => (s, .error (.exception s!"\x27Unknown skill: {skillId}\x27"))
  | some entry => s.upsertSkill lib backend backend.live { entry with stagingStatus := .vetted } actor

def upsertPlan (entry : PlanCatalogEntry) (actor : String) : GateState × PlanCatalogEntry :=
  let stored := s.plans.upsertPlan entry
  ({ s with plans := stored.1 }.record
    { action := "upsert", agent := entry.id, actor, details := [("version", .int stored.2.version)]
      resourceType := "plan", resourceId := entry.id }, stored.2)

def upsertMcpServer (entry : McpServerEntry) (actor : String) : GateState × McpServerEntry :=
  let stored := s.mcp.upsertServer entry
  ({ s with mcp := stored.1 }.record
    { action := "upsert", agent := entry.id, actor, details := [("url", .str entry.url)]
      resourceType := "mcp_server", resourceId := entry.id }, stored.2)

def deleteAgent (name profileId actor : String) : GateState × Bool :=
  let deleted := s.agents.deleteAgent name profileId
  if deleted.2 then
    ({ s with agents := deleted.1 }.record
      { action := "delete", agent := name, actor, resourceType := "agent", resourceId := name }, true)
  else ({ s with agents := deleted.1 }, false)

def deleteSkill (backend : Backend) (skillId profileId actor : String) : GateState × Bool :=
  let deleted := backend.deleteSkill s.skills skillId profileId
  if deleted.2 then
    ({ s with skills := deleted.1 }.record
      { action := "delete", agent := skillId, actor, resourceType := "skill", resourceId := skillId }, true)
  else ({ s with skills := deleted.1 }, false)

theorem upsertAgent_eq_saveAgent (live : Bool) (entry : AgentCatalogEntry) (actor : String) :
    saveAgent lib s.skills.ids (.inMemory s.agents) live entry =
      (.inMemory (s.upsertAgent lib live entry actor).1.agents, (s.upsertAgent lib live entry actor).2) := by
  cases checked : (checkAgent lib s.skills.ids entry).2 with
  | error raised =>
    simp only [saveAgent, upsertAgent, checked]
    cases live <;> rfl
  | ok _ =>
    simp only [saveAgent, upsertAgent, checked]
    cases live <;> rfl

theorem upsertSkill_eq_saveSkill (backend : Backend) (live : Bool) (entry : SkillCatalogEntry) (actor : String) :
    saveSkill lib backend s.skills live entry =
      ((s.upsertSkill lib backend live entry actor).1.skills, (s.upsertSkill lib backend live entry actor).2) := by
  cases checked : (checkSkill lib entry).2 with
  | error raised =>
    simp only [saveSkill, upsertSkill, checked]
    cases live <;> rfl
  | ok _ =>
    simp only [saveSkill, upsertSkill, checked]
    cases live <;> rfl

end GateState

inductive Given (κ ε : Type) where
  | fresh (entry : ε)
  | stored (key : κ)

namespace Given

variable {κ ε : Type} [DecidableEq κ] {keyOf : ε → κ}

def entry? (dict : KeyedDict κ ε keyOf) : Given κ ε → Option ε
  | .fresh entry => some entry
  | .stored key => dict.get? key

def live : Given κ ε → Bool
  | .fresh _ => false
  | .stored _ => true

end Given

inductive GateCall where
  | upsertAgent (entry : Given String AgentCatalogEntry) (actor : String)
  | upsertSkill (entry : Given ItemKey SkillCatalogEntry) (actor : String)
  | approveSkill (skillId profileId actor : String)
  | upsertPlan (entry : Given ItemKey PlanCatalogEntry) (actor : String)
  | upsertMcpServer (entry : Given ItemKey McpServerEntry) (actor : String)
  | deleteAgent (name profileId actor : String)
  | deleteSkill (skillId profileId actor : String)

def raisedBy (outcome : Except PyExc α) : Option PyExc :=
  match outcome with
  | .ok _ => none
  | .error raised => some raised

def GateState.perform (lib : GateLibrary) (s : GateState) : GateCall → Option (GateState × Option PyExc)
  | .upsertAgent given actor => (given.entry? s.agents.agents).map fun entry =>
    ((s.upsertAgent lib given.live entry actor).1, raisedBy (s.upsertAgent lib given.live entry actor).2)
  | .upsertSkill given actor => (given.entry? s.skills).map fun entry =>
    ((s.upsertSkill lib .inMemory given.live entry actor).1,
      raisedBy (s.upsertSkill lib .inMemory given.live entry actor).2)
  | .approveSkill skillId profileId actor =>
    some ((s.approveSkill lib .inMemory skillId profileId actor).1,
      raisedBy (s.approveSkill lib .inMemory skillId profileId actor).2)
  | .upsertPlan given actor => (given.entry? s.plans).map fun entry => ((s.upsertPlan entry actor).1, none)
  | .upsertMcpServer given actor => (given.entry? s.mcp).map fun entry => ((s.upsertMcpServer entry actor).1, none)
  | .deleteAgent name profileId actor => some ((s.deleteAgent name profileId actor).1, none)
  | .deleteSkill skillId profileId actor => some ((s.deleteSkill .inMemory skillId profileId actor).1, none)

def emptyAgents : AgentCatalog := .inMemory { agents := .empty, versions := .empty }

def emptyGate : GateState where
  agents := { agents := .empty, versions := .empty }
  skills := .empty
  plans := .empty
  mcp := .empty
  audit := []

def gateLibrary : GateLibrary where
  sanitizer := plainSanitizer
  sha256Hex text := text
  toolNames := []
  allowlist _ := none

end CysAgi.Catalog
