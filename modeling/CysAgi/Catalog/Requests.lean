import CysAgi.Catalog.WriteGate

open Py

namespace CysAgi.Catalog

/-- What the upserts use of Python and pydantic: `str`, `repr`, what is taken as a number or a bool, and the error
    of a body that is refused. -/
structure BodyLibrary where
  str : Json → String
  repr : Json → String
  bool : Json → Option Bool
  int : Json → Option Int
  float : Json → Option Rat
  validationError : JsonDict → PyExc

def resolveProfileId (python : BodyLibrary) (payload : JsonDict) : String :=
  let given := JsonDict.getD payload "profile_id" .null
  if given.truthy then python.str given else defaultProfileId

def textsOf : Json → Option (List String)
  | .arr items => items.mapM Json.asText
  | _ => none

def dictsOf : Json → Option (List JsonDict)
  | .arr items => items.mapM Json.asDict
  | _ => none

def optional {α : Type} (parse : Json → Option α) : Json → Option (Option α)
  | .null => some none
  | value => (parse value).map some

def StagingStatus.ofValue : Json → Option StagingStatus
  | .str "draft" => some .draft
  | .str "vetted" => some .vetted
  | .str "builtin" => some .builtin
  | _ => none

/-- `body.get("name") or item_id`. -/
def nameOr (body : JsonDict) (itemId : String) : Option String :=
  let name := JsonDict.getD body "name" .null
  Json.asText (if name.truthy then name else .str itemId)

def UpsertSkill.entry (python : BodyLibrary) (skillId : String) (body : JsonDict) : Except PyExc SkillCatalogEntry :=
  let status := JsonDict.getD body "staging_status" (.str "draft")
  match StagingStatus.ofValue status with
  | none => .error (.exception s!"{python.repr status} is not a valid StagingStatus")
  | some stagingStatus =>
    match nameOr body skillId, field Json.asText body "description" "", field Json.asText body "body" "",
      field Json.asText body "trust_tier" "community" with
    | some name, some description, some text, some trustTier => .ok
      { id := skillId, name, description, body := text, profileId := resolveProfileId python body, trustTier
        stagingStatus }
    | _, _, _, _ => .error (python.validationError body)

def UpsertPlan.entry (python : BodyLibrary) (planId : String) (body : JsonDict) : Except PyExc PlanCatalogEntry :=
  match nameOr body planId, field Json.asText body "description" "", field dictsOf body "rules" [],
    field python.bool body "enabled" true with
  | some name, some description, some rules, some enabled => .ok
    { id := planId, name, description, rules, profileId := resolveProfileId python body, enabled }
  | _, _, _, _ => .error (python.validationError body)

/-- What `schema_registry.get` raises for the schema of a body, where the catalog is not dynamic. -/
def unknownSchema (python : BodyLibrary) (schemaNames : List String) (useDynamicCatalog : Bool) (body : JsonDict) :
    Option PyExc :=
  let given := JsonDict.getD body "output_schema" .null
  if given.truthy = false then none
  else if given.unhashable then some (.exception "unhashable type")
  else if (Json.asText given).any (· ∈ schemaNames) || useDynamicCatalog then none
  else some (.exception s!"\x27Unknown schema: {python.str given}\x27")

/-- The fields of the entry that `UpsertCatalogAgent` makes of a request body. What a body leaves out is taken
    from the stored entry, for some of them. -/
def UpsertCatalogAgent.fields (python : BodyLibrary) (existing : Option AgentCatalogEntry) (name : String)
    (body : JsonDict) : Option AgentCatalogEntry := do
  let description ← field Json.asText body "description" ""
  let role ← field Json.asText body "role" "worker"
  let outputSchema ← field (optional Json.asText) body "output_schema" none
  let tools ← field textsOf body "tools" []
  let skills ← field textsOf body "skills" []
  let capabilities ← field textsOf body "capabilities" (existing.elim [] AgentCatalogEntry.capabilities)
  let trustLevel ← field Json.asText body "trust_level" "internal"
  let busRecipients ← field textsOf body "bus_recipients" []
  let enabled ← field python.bool body "enabled" true
  let profileId ← field Json.asText body "profile_id" defaultProfileId
  let systemPrompt ← field Json.asText body "system_prompt" (existing.elim "" AgentCatalogEntry.systemPrompt)
  let versionTag ← field Json.asText body "version_tag" (existing.elim "" AgentCatalogEntry.versionTag)
  let budgetMaxTokens ← field (optional python.int) body "budget_max_tokens"
    (existing.bind AgentCatalogEntry.budgetMaxTokens)
  let budgetMaxCostUsd ← field (optional python.float) body "budget_max_cost_usd"
    (existing.bind AgentCatalogEntry.budgetMaxCostUsd)
  let budgetMaxToolCalls ← field (optional python.int) body "budget_max_tool_calls"
    (existing.bind AgentCatalogEntry.budgetMaxToolCalls)
  let dataClearance ← field Json.asText body "data_clearance" (existing.elim "internal" AgentCatalogEntry.dataClearance)
  return { name, description, role, outputSchema, tools, skills, capabilities, trustLevel, busRecipients, enabled
           profileId, systemPrompt, systemPromptDigest := existing.elim "" AgentCatalogEntry.systemPromptDigest
           versionTag, quality := existing.elim {} AgentCatalogEntry.quality, source := .api, budgetMaxTokens
           budgetMaxCostUsd, budgetMaxToolCalls, dataClearance }

def UpsertCatalogAgent.entry (python : BodyLibrary) (existing : Option AgentCatalogEntry) (name : String)
    (body : JsonDict) : Except PyExc AgentCatalogEntry :=
  match UpsertCatalogAgent.fields python existing name body with
  | none => .error (python.validationError body)
  | some entry => .ok entry

def plainBodies : BodyLibrary where
  str value := (Json.asText value).getD ""
  repr value := (Json.asText value).elim "" fun text => s!"\x27{text}\x27"
  bool value := match value with
    | .bool b => some b
    | _ => none
  int value := match value with
    | .int n => some n
    | _ => none
  float value := match value with
    | .float q => some q
    | _ => none
  validationError _ := .exception "validation error"

section

variable {python : BodyLibrary} {body : JsonDict}

theorem UpsertSkill.entry_made {skillId : String} {entry : SkillCatalogEntry}
    (made : UpsertSkill.entry python skillId body = .ok entry) : entry.enabled = true ∧ entry.quality = {} := by
  simp only [UpsertSkill.entry] at made
  split at made
  · cases made
  · split at made
    · cases made
      exact ⟨rfl, rfl⟩
    · cases made

theorem UpsertPlan.entry_quality {planId : String} {entry : PlanCatalogEntry}
    (made : UpsertPlan.entry python planId body = .ok entry) : entry.quality = {} := by
  unfold UpsertPlan.entry at made
  split at made
  · cases made
    rfl
  · cases made

theorem UpsertPlan.entry_inactive {planId : String} {entry : PlanCatalogEntry}
    (made : UpsertPlan.entry python planId body = .ok entry) : entry.active = false := by
  unfold UpsertPlan.entry at made
  split at made
  · cases made
    rfl
  · cases made

theorem bind_some_all {α β : Type} {P : β → Prop} {first : Option α} {rest : α → Option β} {b : β}
    (each : ∀ a, rest a = some b → P b) (made : first.bind rest = some b) : P b := by
  obtain ⟨a, -, rested⟩ := Option.bind_eq_some_iff.mp made
  exact each a rested

theorem UpsertCatalogAgent.fields_made {existing : Option AgentCatalogEntry} {name : String}
    {entry : AgentCatalogEntry} (made : UpsertCatalogAgent.fields python existing name body = some entry) :
    entry.name = name ∧ entry.quality = existing.elim {} AgentCatalogEntry.quality := by
  unfold UpsertCatalogAgent.fields at made
  revert made
  iterate 16
    apply bind_some_all (P := fun entry : AgentCatalogEntry =>
      entry.name = name ∧ entry.quality = existing.elim {} AgentCatalogEntry.quality)
    intro _
  intro made
  cases made
  exact ⟨rfl, rfl⟩

theorem UpsertCatalogAgent.entry_made {existing : Option AgentCatalogEntry} {name : String}
    {entry : AgentCatalogEntry} (made : UpsertCatalogAgent.entry python existing name body = .ok entry) :
    entry.name = name ∧ entry.quality = existing.elim {} AgentCatalogEntry.quality := by
  unfold UpsertCatalogAgent.entry at made
  cases fields : UpsertCatalogAgent.fields python existing name body with
  | none =>
    rw [fields] at made
    cases made
  | some other =>
    rw [fields] at made
    cases made
    exact UpsertCatalogAgent.fields_made fields

end

end CysAgi.Catalog
