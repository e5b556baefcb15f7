import CysAgi.Catalog.PromptDigest
import CysAgi.Rag.Retrieve
import CysAgi.Runtime.SgrPolicy
import CysAgi.Workers.JobBudget

open Py

namespace CysAgi

def DataClassification.value : DataClassification → String
  | .publicData => "public"
  | .internal => "internal"
  | .confidential => "confidential"
  | .restricted => "restricted"

namespace Catalog

def lookedUp (catalog : String → Except PyExc (Option AgentCatalogEntry)) (persona : String) :
    Except PyExc (Option AgentCatalogEntry) :=
  match catalog persona with
  | .ok entry => .ok entry
  | .error raised => if raised.caught then .ok none else .error raised

def AgentCatalogEntry.budgets (entry : AgentCatalogEntry) : CysAgi.AgentCatalogEntry where
  profileId := entry.profileId
  budgetMaxTokens := entry.budgetMaxTokens
  budgetMaxCostUsd := entry.budgetMaxCostUsd
  budgetMaxToolCalls := entry.budgetMaxToolCalls

def definitionToEntry (catalog : String → Except PyExc (Option AgentCatalogEntry)) (profileId : String)
    (defn : AgentDefinition) : Except PyExc AgentCatalogEntry := do
  let budgeted ← lookedUp catalog defn.name
  let budget := personaBudget defn.name (budgeted.map AgentCatalogEntry.budgets)
  let cleared ← lookedUp catalog defn.name
  let clearance ← personaClearancePure defn.name (cleared.map AgentCatalogEntry.dataClearance)
  return { name := defn.name, description := defn.description, role := defn.role, outputSchema := defn.schemaName
           tools := defn.tools, skills := defn.skills, hitlTools := defn.hitlTools, trustLevel := defn.trustLevel
           busRecipients := defn.busRecipients, systemPrompt := defn.systemPrompt
           systemPromptDigest := defn.systemPromptDigest, profileId, source := .filesystem, enabled := true
           capabilities := defn.capabilities, budgetMaxTokens := some budget.maxTokens
           budgetMaxCostUsd := some budget.maxCostUsd, budgetMaxToolCalls := some budget.maxToolCalls
           dataClearance := clearance.value }

/-- `entry_to_definition(definition_to_entry(d))`. -/
def mappedBack (validationError : PyExc) (catalog : String → Except PyExc (Option AgentCatalogEntry))
    (profileId : String) (defn : AgentDefinition) : Except PyExc AgentDefinition := do
  let entry ← definitionToEntry catalog profileId defn
  entryToDefinition validationError entry

namespace AgentDefinition

def catalogued (defn : AgentDefinition) : AgentDefinition :=
  { defn with sampleInput := none, interruptOn := [], skillPath := none, reasoningMode := "off" }

/-- The fields that the runtime reads to build the agent are the same. -/
structure BuildsSame (defn other : AgentDefinition) : Prop where
  systemPrompt : other.systemPrompt = defn.systemPrompt
  systemPromptDigest : other.systemPromptDigest = defn.systemPromptDigest
  tools : other.tools = defn.tools
  hitlTools : other.hitlTools = defn.hitlTools
  skills : other.skills = defn.skills
  schemaName : other.schemaName = defn.schemaName
  trustLevel : other.trustLevel = defn.trustLevel
  busRecipients : other.busRecipients = defn.busRecipients
  capabilities : other.capabilities = defn.capabilities
  reasoningMode : other.reasoningMode = defn.reasoningMode

theorem buildsSame_catalogued_iff (defn : AgentDefinition) :
    defn.BuildsSame defn.catalogued ↔ defn.reasoningMode = "off" := by
  constructor
  · intro same
    exact same.reasoningMode.symm
  · intro off
    have kept : defn.catalogued.reasoningMode = defn.reasoningMode := off.symm
    exact ⟨rfl, rfl, rfl, rfl, rfl, rfl, rfl, rfl, rfl, kept⟩

end AgentDefinition

/-- The catalog answers for the persona, and with a clearance that there is. -/
def Cleared (catalog : String → Except PyExc (Option AgentCatalogEntry)) (persona : String) : Prop :=
  ∃ entry, lookedUp catalog persona = .ok entry ∧
    ∃ clearance, personaClearancePure persona (entry.map AgentCatalogEntry.dataClearance) = .ok clearance

section

variable {validationError : PyExc} {catalog : String → Except PyExc (Option AgentCatalogEntry)} {profileId : String}
    {defn : AgentDefinition}

theorem mappedBack_cleared (role : defn.role ∈ agentRoles) (cleared : Cleared catalog defn.name) :
    mappedBack validationError catalog profileId defn = .ok defn.catalogued := by
  obtain ⟨entry, found, clearance, given⟩ := cleared
  simp only [mappedBack, definitionToEntry, found, given, bind, Except.bind, pure, Except.pure]
  exact if_neg (not_not_intro role)

theorem cleared_of_mappedBack {back : AgentDefinition}
    (mapped : mappedBack validationError catalog profileId defn = .ok back) : Cleared catalog defn.name := by
  simp only [mappedBack, definitionToEntry, bind, Except.bind] at mapped
  cases found : lookedUp catalog defn.name with
  | error raised =>
    rw [found] at mapped
    cases mapped
  | ok entry =>
    cases given : personaClearancePure defn.name (entry.map AgentCatalogEntry.dataClearance) with
    | error raised =>
      simp only [found, given] at mapped
      cases mapped
    | ok clearance => exact ⟨entry, found, clearance, given⟩

end

/-- A definition of a known role builds the same agent through the catalog exactly when it asks for no reasoning
    mode, and the catalog answers for its clearance. -/
theorem mapping_round_trip_iff (validationError : PyExc) (catalog : String → Except PyExc (Option AgentCatalogEntry))
    (profileId : String) (defn : AgentDefinition) (role : defn.role ∈ agentRoles) :
    (∃ back, mappedBack validationError catalog profileId defn = .ok back ∧ defn.BuildsSame back) ↔
      defn.reasoningMode = "off" ∧ Cleared catalog defn.name := by
  constructor
  · rintro ⟨back, mapped, same⟩
    have cleared := cleared_of_mappedBack mapped
    rw [mappedBack_cleared role cleared] at mapped
    cases mapped
    exact ⟨defn.buildsSame_catalogued_iff.mp same, cleared⟩
  · rintro ⟨off, cleared⟩
    exact ⟨defn.catalogued, mappedBack_cleared role cleared, defn.buildsSame_catalogued_iff.mpr off⟩

def sgrModeOf : String → SgrMode
  | "sgr_hybrid" => .sgrHybrid
  | "sgr_iron" => .sgrIron
  | _ => .off

theorem seeded_reasoning (validationError : PyExc) (catalog : String → Except PyExc (Option AgentCatalogEntry))
    (profileId : String) (defn back : AgentDefinition) (role : defn.role ∈ agentRoles)
    (mapped : mappedBack validationError catalog profileId defn = .ok back) (sgr : SgrPolicy)
    (useSgrReasoning : Bool) (defaultMode : SgrMode) :
    resolveSgrPolicy sgr (sgrModeOf back.reasoningMode) useSgrReasoning defaultMode =
      resolveSgrPolicy sgr .off useSgrReasoning defaultMode := by
  rw [mappedBack_cleared role (cleared_of_mappedBack mapped)] at mapped
  cases mapped
  rfl

def ironAnalyst : AgentDefinition :=
  { name := "analyst", description := "Triage", role := "worker", systemPrompt := "Triage the alerts."
    reasoningMode := "sgr_iron" }

/-- Seeded through an empty catalog, an agent that asks to reason before every action does not. -/
theorem reasoning_mode_lost :
    ¬ (∃ back, mappedBack (.exception "") (fun _ => .ok none) defaultProfileId ironAnalyst = .ok back ∧
      ironAnalyst.BuildsSame back) := by
  rintro ⟨back, mapped, same⟩
  cases mapped
  exact absurd same.reasoningMode (by decide)

theorem mapping_round_trip_plain :
    (∃ back, mappedBack (.exception "") (fun _ => .ok none) defaultProfileId
        { ironAnalyst with reasoningMode := "off" } = .ok back ∧
      AgentDefinition.BuildsSame { ironAnalyst with reasoningMode := "off" } back) ↔
    "off" = "off" ∧ Cleared (fun _ => .ok none) "analyst" :=
  mapping_round_trip_iff (.exception "") (fun _ => .ok none) defaultProfileId
    { ironAnalyst with reasoningMode := "off" } List.mem_cons_self

end Catalog

end CysAgi
