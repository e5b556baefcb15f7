import CysAgi.Catalog.QualityKept

open Py

namespace CysAgi.Catalog

structure AgentCatalogPut where
  description : String := ""
  role : String := "worker"
  outputSchema : Option String := none
  tools : List String := []
  skills : List String := []
  capabilities : List String := []
  trustLevel : String := "internal"
  busRecipients : List String := []
  enabled : Bool := true
  profileId : String := defaultProfileId
  systemPrompt : String := ""
  versionTag : String := ""
  budgetMaxTokens : Option Int := none
  budgetMaxCostUsd : Option Rat := none
  budgetMaxToolCalls : Option Int := none
  dataClearance : String := "internal"
  deriving DecidableEq

namespace AgentCatalogPut

def parse (python : BodyLibrary) (request : JsonDict) : Option AgentCatalogPut := do
  let description ← field Json.asText request "description" ""
  let role ← field Json.asText request "role" "worker"
  let outputSchema ← field (optional Json.asText) request "output_schema" none
  let tools ← field textsOf request "tools" []
  let skills ← field textsOf request "skills" []
  let capabilities ← field textsOf request "capabilities" []
  let trustLevel ← field Json.asText request "trust_level" "internal"
  let busRecipients ← field textsOf request "bus_recipients" []
  let enabled ← field python.bool request "enabled" true
  let profileId ← field Json.asText request "profile_id" defaultProfileId
  let systemPrompt ← field Json.asText request "system_prompt" ""
  let versionTag ← field Json.asText request "version_tag" ""
  let budgetMaxTokens ← field (optional python.int) request "budget_max_tokens" none
  let budgetMaxCostUsd ← field (optional python.float) request "budget_max_cost_usd" none
  let budgetMaxToolCalls ← field (optional python.int) request "budget_max_tool_calls" none
  let dataClearance ← field Json.asText request "data_clearance" "internal"
  return { description, role, outputSchema, tools, skills, capabilities, trustLevel, busRecipients, enabled, profileId
           systemPrompt, versionTag, budgetMaxTokens, budgetMaxCostUsd, budgetMaxToolCalls, dataClearance }

def texts (items : List String) : Json := .arr (items.map .str)

/-- `body.model_dump()`, with every field, set or not. -/
def modelDump (put : AgentCatalogPut) : JsonDict := [
  ("description", .str put.description),
  ("role", .str put.role),
  ("output_schema", put.outputSchema.elim .null .str),
  ("tools", texts put.tools),
  ("skills", texts put.skills),
  ("capabilities", texts put.capabilities),
  ("trust_level", .str put.trustLevel),
  ("bus_recipients", texts put.busRecipients),
  ("enabled", .bool put.enabled),
  ("profile_id", .str put.profileId),
  ("system_prompt", .str put.systemPrompt),
  ("version_tag", .str put.versionTag),
  ("budget_max_tokens", put.budgetMaxTokens.elim .null .int),
  ("budget_max_cost_usd", put.budgetMaxCostUsd.elim .null .float),
  ("budget_max_tool_calls", put.budgetMaxToolCalls.elim .null .int),
  ("data_clearance", .str put.dataClearance)]

def ofEntry (entry : AgentCatalogEntry) : AgentCatalogPut where
  description := entry.description
  role := entry.role
  outputSchema := entry.outputSchema
  tools := entry.tools
  skills := entry.skills
  capabilities := entry.capabilities
  trustLevel := entry.trustLevel
  busRecipients := entry.busRecipients
  enabled := entry.enabled
  profileId := entry.profileId
  systemPrompt := entry.systemPrompt
  versionTag := entry.versionTag
  budgetMaxTokens := entry.budgetMaxTokens
  budgetMaxCostUsd := entry.budgetMaxCostUsd
  budgetMaxToolCalls := entry.budgetMaxToolCalls
  dataClearance := entry.dataClearance

/-- The fields that the request does not set, beside the defaults of the others. -/
def unset (request : JsonDict) (put : AgentCatalogPut) : AgentCatalogPut where
  description := other "description" "" put.description
  role := other "role" "worker" put.role
  outputSchema := other "output_schema" none put.outputSchema
  tools := other "tools" [] put.tools
  skills := other "skills" [] put.skills
  capabilities := other "capabilities" [] put.capabilities
  trustLevel := other "trust_level" "internal" put.trustLevel
  busRecipients := other "bus_recipients" [] put.busRecipients
  enabled := other "enabled" true put.enabled
  profileId := other "profile_id" defaultProfileId put.profileId
  systemPrompt := other "system_prompt" "" put.systemPrompt
  versionTag := other "version_tag" "" put.versionTag
  budgetMaxTokens := other "budget_max_tokens" none put.budgetMaxTokens
  budgetMaxCostUsd := other "budget_max_cost_usd" none put.budgetMaxCostUsd
  budgetMaxToolCalls := other "budget_max_tool_calls" none put.budgetMaxToolCalls
  dataClearance := other "data_clearance" "internal" put.dataClearance
where
  other {α : Type} (key : String) (default value : α) : α := if JsonDict.has request key then default else value

end AgentCatalogPut

/-- `put_agent`, for an operator. -/
def CatalogService.putAgent (service : CatalogService) (s : Catalogs) (name : String) (request : JsonDict) :
    Catalogs × Except PyExc AgentCatalogEntry :=
  match AgentCatalogPut.parse service.python request with
  | none => (s, .error (service.python.validationError request))
  | some put => service.upsertCatalogAgent s name put.modelDump

/-- What the request neither sets nor can say is the same in both entries. The version, the source and the time of
    an update are the store's own. -/
structure Frame (request : JsonDict) (before after : AgentCatalogEntry) : Prop where
  unset : (AgentCatalogPut.ofEntry after).unset request = (AgentCatalogPut.ofEntry before).unset request
  name : after.name = before.name
  hitlTools : after.hitlTools = before.hitlTools
  tags : after.tags = before.tags
  quality : after.quality = before.quality
  digest : JsonDict.has request "system_prompt" = false → after.systemPromptDigest = before.systemPromptDigest

structure BodyLibrary.Lawful (python : BodyLibrary) : Prop where
  bool : ∀ b, python.bool (.bool b) = some b
  int : ∀ n, python.int (.int n) = some n
  float : ∀ q, python.float (.float q) = some q

section

variable {python : BodyLibrary} {request : JsonDict}

theorem textsOf_texts (items : List String) : textsOf (AgentCatalogPut.texts items) = some items := by
  unfold textsOf AgentCatalogPut.texts
  induction items with
  | nil => rfl
  | cons item rest ih => simp_all [Json.asText]

theorem optional_elim {α : Type} (parse : Json → Option α) (wrap : α → Json) (read : ∀ a, parse (wrap a) = some a)
    (notNull : ∀ a, wrap a ≠ .null) (value : Option α) :
    optional parse (value.elim .null wrap) = some value := by
  cases value with
  | none => rfl
  | some a =>
    unfold optional
    split
    · rename_i null
      exact absurd null (notNull a)
    · rw [Option.elim_some, read]
      rfl

def AgentCatalogPut.toEntry (put : AgentCatalogPut) (existing : AgentCatalogEntry) (name : String) :
    AgentCatalogEntry where
  name := name
  description := put.description
  role := put.role
  outputSchema := put.outputSchema
  tools := put.tools
  skills := put.skills
  capabilities := put.capabilities
  trustLevel := put.trustLevel
  busRecipients := put.busRecipients
  systemPrompt := put.systemPrompt
  systemPromptDigest := existing.systemPromptDigest
  profileId := put.profileId
  versionTag := put.versionTag
  source := .api
  enabled := put.enabled
  quality := existing.quality
  budgetMaxTokens := put.budgetMaxTokens
  budgetMaxCostUsd := put.budgetMaxCostUsd
  budgetMaxToolCalls := put.budgetMaxToolCalls
  dataClearance := put.dataClearance

theorem fields_modelDump (lawful : python.Lawful) (existing : AgentCatalogEntry) (name : String)
    (put : AgentCatalogPut) :
    UpsertCatalogAgent.fields python (some existing) name put.modelDump = some (put.toEntry existing name) := by
  have schema (value : Option String) : optional Json.asText (value.elim .null .str) = some value :=
    optional_elim Json.asText .str (fun _ => rfl) (fun _ null => by cases null) value
  have int (value : Option Int) : optional python.int (value.elim .null .int) = some value :=
    optional_elim python.int .int lawful.int (fun _ null => by cases null) value
  have float (value : Option Rat) : optional python.float (value.elim .null .float) = some value :=
    optional_elim python.float .float lawful.float (fun _ null => by cases null) value
  simp [UpsertCatalogAgent.fields, AgentCatalogPut.modelDump, field, JsonDict.get?, Assoc.lookup_cons, Json.asText,
    textsOf_texts, schema, int, float, lawful.bool, AgentCatalogPut.toEntry]

theorem other_field {α : Type} {parse : Json → Option α} {key : String} {default value : α}
    (made : field parse request key default = some value) :
    AgentCatalogPut.unset.other request key default value = default := by
  unfold AgentCatalogPut.unset.other
  cases given : JsonDict.has request key with
  | true => rfl
  | false =>
    have absent : JsonDict.get? request key = none := by simpa [JsonDict.has] using given
    simp only [field, absent, Option.some.injEq] at made
    exact made.symm

theorem unset_parse {put : AgentCatalogPut} (parsed : AgentCatalogPut.parse python request = some put) :
    put.unset request = {} := by
  unfold AgentCatalogPut.parse at parsed
  iterate 16 obtain ⟨_, _, parsed⟩ := Option.bind_eq_some_iff.mp parsed
  cases parsed
  unfold AgentCatalogPut.unset
  congr 1 <;> exact other_field (by assumption)

def Checked (entry checked : AgentCatalogEntry) : Prop :=
  checked = entry ∨ entry.systemPrompt ≠ "" ∧
    ∃ systemPrompt systemPromptDigest, checked = { entry with systemPrompt, systemPromptDigest }

theorem checked_checkAgent (lib : GateLibrary) (skillIds : List String) (entry : AgentCatalogEntry) :
    Checked entry (checkAgent lib skillIds entry).1 := by
  unfold checkAgent
  by_cases blank : entry.systemPrompt = ""
  · rw [if_pos blank]
    exact .inl rfl
  · rw [if_neg blank]
    cases lib.sanitizer.sanitize entry.systemPrompt .catalog with
    | error raised => exact .inl rfl
    | ok prompt => exact .inr ⟨blank, _, _, rfl⟩

theorem upsertCatalogAgent_ok {service : CatalogService} {s t : Catalogs} {name : String} {body : JsonDict}
    {saved : AgentCatalogEntry} (accepted : service.upsertCatalogAgent s name body = (t, .ok saved)) :
    ∃ entry checked, UpsertCatalogAgent.fields service.python (s.agents.getAgent name) name body = some entry ∧
      Checked entry checked ∧ t = { s with agents := (s.agents.upsertAgent checked).1 } ∧
      saved = (s.agents.upsertAgent checked).2 := by
  unfold CatalogService.upsertCatalogAgent at accepted
  split at accepted
  · cases accepted
  · split at accepted
    · cases accepted
    · rename_i entry made
      have fields : UpsertCatalogAgent.fields service.python (s.agents.getAgent name) name body = some entry := by
        unfold UpsertCatalogAgent.entry at made
        split at made
        · cases made
        · rename_i fields
          cases made
          exact fields
      cases gated : service.gated with
      | false =>
        rw [gated] at accepted
        cases accepted
        exact ⟨entry, entry, fields, .inl rfl, rfl, rfl⟩
      | true =>
        cases passed : (checkAgent service.lib s.skills.ids entry).2 with
        | error raised =>
          simp only [gated, if_true, saveAgent, passed] at accepted
          cases accepted
        | ok _ =>
          simp only [gated, if_true, saveAgent, passed] at accepted
          cases accepted
          exact ⟨entry, _, fields, checked_checkAgent service.lib s.skills.ids entry, rfl, rfl⟩

structure Reset (request : JsonDict) (existing made : AgentCatalogEntry) : Prop where
  unset : (AgentCatalogPut.ofEntry made).unset request = {}
  name : made.name = existing.name
  hitlTools : made.hitlTools = []
  tags : made.tags = []
  digest : JsonDict.has request "system_prompt" = false → made.systemPromptDigest = existing.systemPromptDigest

theorem reset_checked {put : AgentCatalogPut} {existing checked : AgentCatalogEntry}
    (unset : put.unset request = {}) (gate : Checked (put.toEntry existing existing.name) checked) :
    Reset request existing checked := by
  rcases gate with rfl | ⟨given, prompt, digest, rfl⟩
  · exact ⟨unset, rfl, rfl, rfl, fun _ => rfl⟩
  · have set : JsonDict.has request "system_prompt" = true := by
      by_contra absent
      have default := congrArg AgentCatalogPut.systemPrompt unset
      simp only [AgentCatalogPut.unset, AgentCatalogPut.unset.other, if_neg absent] at default
      exact given default
    constructor
    · rw [← unset]
      simp only [AgentCatalogPut.unset, AgentCatalogPut.unset.other, AgentCatalogPut.ofEntry, AgentCatalogPut.toEntry,
        if_pos set]
    · rfl
    · rfl
    · rfl
    · intro absent
      rw [set] at absent
      cases absent

theorem putAgent_ok {service : CatalogService} (lawful : service.python.Lawful) {s t : Catalogs} {name : String}
    {existing saved : AgentCatalogEntry} (found : s.agents.getAgent name = some existing)
    (accepted : service.putAgent s name request = (t, .ok saved)) :
    t.agents.getAgent name = some saved ∧ Reset request existing saved ∧ saved.quality = existing.quality := by
  unfold CatalogService.putAgent at accepted
  split at accepted
  · cases accepted
  · rename_i put parsed
    obtain ⟨entry, checked, fields, gate, rfl, rfl⟩ := upsertCatalogAgent_ok accepted
    rw [found, fields_modelDump lawful] at fields
    cases fields
    have named : existing.name = name := AgentCatalog.name_of_getAgent found
    rw [← named] at gate
    have reset := reset_checked (unset_parse parsed) gate
    have here : name = checked.name := named.symm.trans reset.name.symm
    have stored : (s.agents.upsertAgent checked).2 =
        { checked with version := existing.version + 1, quality := existing.quality, source := .api } := by
      have lookup : s.agents.getAgent checked.name = some existing := by rw [← here, found]
      rw [AgentCatalog.upsertAgent_saved, lookup]
      rfl
    refine ⟨?_, ?_, ?_⟩
    · rw [AgentCatalog.getAgent_upsertAgent, if_pos here]
    · rw [stored]
      exact ⟨reset.unset, reset.name, reset.hitlTools, reset.tags, reset.digest⟩
    · rw [stored]

/-- An update that is accepted leaves the fields that its body does not set or cannot say exactly when all of them
    have their defaults. -/
theorem put_frame_iff (service : CatalogService) (lawful : service.python.Lawful) (s t : Catalogs) (name : String)
    (request : JsonDict) (existing saved : AgentCatalogEntry) (found : s.agents.getAgent name = some existing)
    (accepted : service.putAgent s name request = (t, .ok saved)) :
    (∃ after, t.agents.getAgent name = some after ∧ Frame request existing after) ↔
      existing.hitlTools = [] ∧ existing.tags = [] ∧ (AgentCatalogPut.ofEntry existing).unset request = {} := by
  obtain ⟨stored, reset, quality⟩ := putAgent_ok lawful found accepted
  constructor
  · intro ⟨after, held, frame⟩
    rw [stored] at held
    cases held
    exact ⟨frame.hitlTools.symm.trans reset.hitlTools, frame.tags.symm.trans reset.tags,
      frame.unset.symm.trans reset.unset⟩
  · intro ⟨hitlTools, tags, unset⟩
    refine ⟨saved, stored, ?_⟩
    exact ⟨reset.unset.trans unset.symm, reset.name, reset.hitlTools.trans hitlTools.symm,
      reset.tags.trans tags.symm, quality, reset.digest⟩

theorem plainBodies_lawful : plainBodies.Lawful := ⟨fun _ => rfl, fun _ => rfl, fun _ => rfl⟩

def edit : JsonDict := [("description", .str "scans hosts")]

def scannerCatalogs (scanner : AgentCatalogEntry) : Catalogs :=
  { memoryCatalogs with agents := .inMemory { agents := KeyedDict.empty.seed [scanner], versions := .empty } }

theorem put_frame_defaults : ∃ t saved,
    plainService.putAgent (scannerCatalogs { name := "scanner" }) "scanner" edit = (t, .ok saved) ∧
      ∃ after, t.agents.getAgent "scanner" = some after ∧ Frame edit { name := "scanner" } after := by
  refine ⟨_, _, rfl, ?_⟩
  exact (put_frame_iff plainService plainBodies_lawful _ _ "scanner" edit { name := "scanner" } _ rfl rfl).mpr
    ⟨rfl, rfl, by decide⟩

def scanner : AgentCatalogEntry := { name := "scanner", hitlTools := [("run_scan", true)] }

/-- An edit of the description takes away that a tool waits for approval. -/
theorem edit_drops_hitl_tools :
    ∃ t saved after, plainService.putAgent (scannerCatalogs scanner) "scanner" edit = (t, .ok saved) ∧
      (scannerCatalogs scanner).agents.getAgent "scanner" = some scanner ∧
      t.agents.getAgent "scanner" = some after ∧ after.hitlTools = [] :=
  ⟨_, _, _, rfl, rfl, rfl, rfl⟩

end

end CysAgi.Catalog
