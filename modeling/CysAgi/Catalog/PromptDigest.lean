import CysAgi.Catalog.WriteGate

open Py

namespace CysAgi.Catalog

structure AgentDefinition where
  name : String
  description : String
  role : String
  systemPrompt : String
  systemPromptDigest : String := ""
  schemaName : Option String := none
  tools : List String := []
  skills : List String := []
  hitlTools : List (String × Bool) := []
  trustLevel : String := "internal"
  busRecipients : List String := []
  sampleInput : Option String := none
  interruptOn : List (String × Bool) := []
  skillPath : Option String := none
  capabilities : List String := []
  reasoningMode : String := "off"
  deriving DecidableEq

def agentRoles : List String := ["worker", "control", "specialist", "critic", "coordinator"]

/-- `entry_to_definition`, which raises the given error for a role that is none of the literals. -/
def entryToDefinition (validationError : PyExc) (entry : AgentCatalogEntry) : Except PyExc AgentDefinition :=
  if entry.role ∉ agentRoles then .error validationError
  else .ok
    { name := entry.name, description := entry.description, role := entry.role, systemPrompt := entry.systemPrompt
      systemPromptDigest := entry.systemPromptDigest, schemaName := entry.outputSchema, tools := entry.tools
      skills := entry.skills, hitlTools := entry.hitlTools, trustLevel := entry.trustLevel
      busRecipients := entry.busRecipients, capabilities := entry.capabilities }

def refusalMessage : String := "I cannot process requests that conflict with my operational guidelines."

structure InjectionAttempt where
  agentId : String
  sessionId : String
  verdict : String
  reason : String
  deriving DecidableEq

structure PromptContextMiddleware where
  agentId : String
  systemPromptDigest : String := ""
  sessionId : String := "default"

namespace PromptContextMiddleware

/-- The middleware that `_build_middleware` makes for a definition. -/
def ofDefinition (defn : AgentDefinition) (sessionId : String) : PromptContextMiddleware :=
  { agentId := defn.name, systemPromptDigest := defn.systemPromptDigest, sessionId }

/-- `_validate_system_context`: the attempts recorded so far go on, with the refusal if there is one. -/
def validateSystemContext (middleware : PromptContextMiddleware) (sha256Hex : String → String)
    (attempts : List InjectionAttempt) (systemMessage : Option String) : List InjectionAttempt × Option String :=
  match systemMessage with
  | none => (attempts, none)
  | some text =>
    if middleware.systemPromptDigest = "" then (attempts, none)
    else if sha256Hex text ≠ middleware.systemPromptDigest then
      (attempts ++ [{ agentId := middleware.agentId, sessionId := middleware.sessionId, verdict := "hard"
                      reason := "system_prompt_digest_mismatch" }], some refusalMessage)
    else (attempts, none)

def Accepts (middleware : PromptContextMiddleware) (sha256Hex : String → String) (prompt : String) : Prop :=
  ∀ attempts, middleware.validateSystemContext sha256Hex attempts (some prompt) = (attempts, none)

theorem accepts_iff (middleware : PromptContextMiddleware) (sha256Hex : String → String) (prompt : String) :
    middleware.Accepts sha256Hex prompt ↔
      middleware.systemPromptDigest = "" ∨ sha256Hex prompt = middleware.systemPromptDigest := by
  simp only [Accepts, validateSystemContext]
  by_cases unset : middleware.systemPromptDigest = ""
  · simp only [if_pos unset]
    exact ⟨fun _ => .inl unset, fun _ _ => trivial⟩
  · simp only [if_neg unset]
    by_cases same : sha256Hex prompt = middleware.systemPromptDigest
    · simp only [if_neg (not_not_intro same)]
      exact ⟨fun _ => .inr same, fun _ _ => trivial⟩
    · simp only [if_pos same]
      constructor
      · intro passed
        cases (Prod.mk.inj (passed [])).2
      · intro either
        rcases either with empty | held
        · exact absurd empty unset
        · exact absurd held same

theorem accepts_only_iff {middleware : PromptContextMiddleware} {sha256Hex : String → String} {prompt : String}
    (digest : (sha256Hex prompt).length = 64) (injective : ∀ text, sha256Hex text = sha256Hex prompt → text = prompt) :
    (middleware.Accepts sha256Hex prompt ∧ ∀ text, text ≠ prompt → ¬ middleware.Accepts sha256Hex text) ↔
      middleware.systemPromptDigest = sha256Hex prompt := by
  have set : sha256Hex prompt ≠ "" := by
    intro blank
    rw [blank] at digest
    cases digest
  simp only [accepts_iff]
  constructor
  · intro given
    obtain ⟨unset | same, others⟩ := given
    · have longer : prompt ++ "." ≠ prompt := by
        intro same
        have lengths := congrArg String.length same
        rw [String.length_append] at lengths
        have one : ".".length = 1 := rfl
        omega
      exact absurd (.inl unset) (others _ longer)
    · exact same.symm
  · intro same
    rw [same]
    refine ⟨.inr rfl, fun text ne => ?_⟩
    intro either
    rcases either with unset | held
    · exact set unset
    · exact ne (injective text held)

end PromptContextMiddleware

theorem length_promptDigest (lib : GateLibrary) (prompt : String) : (promptDigest lib prompt).length ≤ 16 := by
  unfold promptDigest
  rw [String.length_ofList, List.length_take]
  exact Nat.min_le_left 16 _

theorem checkAgent_sanitized {lib : GateLibrary} {skillIds : List String} {entry : AgentCatalogEntry}
    (passed : (checkAgent lib skillIds entry).2 = .ok ()) (given : entry.systemPrompt ≠ "") :
    ∃ prompt, (checkAgent lib skillIds entry).1.systemPromptDigest = promptDigest lib prompt := by
  unfold checkAgent at passed ⊢
  rw [if_neg given] at passed ⊢
  cases sanitized : lib.sanitizer.sanitize entry.systemPrompt .catalog with
  | error raised =>
    rw [sanitized] at passed
    cases passed
  | ok prompt => exact ⟨prompt, rfl⟩

theorem saveAgent_saved {lib : GateLibrary} {skillIds : List String} {agents : AgentCatalog} {live : Bool}
    {entry stored : AgentCatalogEntry} (saved : (saveAgent lib skillIds agents live entry).2 = .ok stored) :
    (checkAgent lib skillIds entry).2 = .ok () ∧
    stored.systemPrompt = (checkAgent lib skillIds entry).1.systemPrompt ∧
    stored.systemPromptDigest = (checkAgent lib skillIds entry).1.systemPromptDigest := by
  unfold saveAgent at saved
  cases checked : (checkAgent lib skillIds entry).2 with
  | error raised =>
    simp only [checked] at saved
    cases saved
  | ok _ =>
    simp only [checked] at saved
    cases saved
    rw [AgentCatalog.upsertAgent_saved]
    cases AgentCatalog.getAgent _ _ with
    | none => exact ⟨rfl, rfl, rfl⟩
    | some existing => exact ⟨rfl, rfl, rfl⟩

theorem savedDigest_iff {lib : GateLibrary} {skillIds : List String} {agents : AgentCatalog} {live : Bool}
    {entry stored : AgentCatalogEntry} (saved : (saveAgent lib skillIds agents live entry).2 = .ok stored)
    (digest : (lib.sha256Hex stored.systemPrompt).length = 64) :
    stored.systemPromptDigest = lib.sha256Hex stored.systemPrompt ↔
      entry.systemPrompt = "" ∧ entry.systemPromptDigest = lib.sha256Hex "" := by
  obtain ⟨passed, prompt, stamp⟩ := saveAgent_saved saved
  by_cases blank : entry.systemPrompt = ""
  · have unchanged : (checkAgent lib skillIds entry).1 = entry := by
      unfold checkAgent
      rw [if_pos blank]
    rw [unchanged] at prompt stamp
    rw [stamp, prompt, blank]
    exact ⟨fun same => ⟨rfl, same⟩, fun both => both.2⟩
  · refine ⟨fun same => ?_, fun both => absurd both.1 blank⟩
    have short : stored.systemPromptDigest.length ≤ 16 := by
      obtain ⟨sanitized, shortened⟩ := checkAgent_sanitized passed blank
      rw [stamp, shortened]
      exact length_promptDigest lib sanitized
    rw [same, digest] at short
    omega

/-- The middleware accepts the stored prompt and nothing else exactly when an empty prompt was saved with the
    digest of the empty text. The digest that the gate makes is cut and never the one that is compared. -/
theorem saved_prompt_accepted_iff (lib : GateLibrary) (skillIds : List String) (agents : AgentCatalog) (live : Bool)
    (entry stored : AgentCatalogEntry) (validationError : PyExc) (defn : AgentDefinition) (sessionId : String)
    (saved : (saveAgent lib skillIds agents live entry).2 = .ok stored)
    (mapped : entryToDefinition validationError stored = .ok defn)
    (digest : (lib.sha256Hex stored.systemPrompt).length = 64)
    (injective : ∀ text, lib.sha256Hex text = lib.sha256Hex stored.systemPrompt → text = stored.systemPrompt) :
    ((PromptContextMiddleware.ofDefinition defn sessionId).Accepts lib.sha256Hex stored.systemPrompt ∧
      ∀ text, text ≠ stored.systemPrompt →
        ¬ (PromptContextMiddleware.ofDefinition defn sessionId).Accepts lib.sha256Hex text) ↔
      entry.systemPrompt = "" ∧ entry.systemPromptDigest = lib.sha256Hex "" := by
  have kept : defn.systemPromptDigest = stored.systemPromptDigest := by
    unfold entryToDefinition at mapped
    by_cases other : stored.role ∉ agentRoles
    · rw [if_pos other] at mapped
      cases mapped
    · rw [if_neg other] at mapped
      cases mapped
      rfl
  rw [PromptContextMiddleware.accepts_only_iff digest injective, ← savedDigest_iff saved digest, ← kept]
  rfl

def promptSha256Hex (text : String) : String :=
  if text = "" then "e3b0c44298fc1c149afbf4c8996fb92427ae41e4649b934ca495991b7852b855"
  else if text = wrapUserData "Triage alerts" .catalog then
    "411a8fed110b92bbd5386ac65ad6ed8d9400280f986c7c87943a1045c4f7c279"
  else String.ofList (List.replicate 64 '0')

def promptLibrary : GateLibrary := { gateLibrary with sha256Hex := promptSha256Hex }

def triageAgent : AgentCatalogEntry := { name := "soc", systemPrompt := "Triage alerts" }

def savedTriageAgent : AgentCatalogEntry :=
  { triageAgent with
    systemPrompt := wrapUserData "Triage alerts" .catalog, systemPromptDigest := "411a8fed110b92bb", source := .api }

/-- The middleware refuses the prompt that was stored, unmodified. -/
theorem saved_prompt_refused :
    (saveAgent promptLibrary [] emptyAgents false triageAgent).2 = .ok savedTriageAgent ∧
    ∃ defn, entryToDefinition (.exception "role") savedTriageAgent = .ok defn ∧
      ¬ (PromptContextMiddleware.ofDefinition defn "default").Accepts promptSha256Hex savedTriageAgent.systemPrompt := by
  constructor
  · decide +kernel
  · refine ⟨_, rfl, ?_⟩
    rw [PromptContextMiddleware.accepts_iff]
    decide +kernel

def blankAgent : AgentCatalogEntry := { name := "soc", systemPromptDigest := promptSha256Hex "" }

theorem saved_prompt_accepted_iff_blank :
    ((PromptContextMiddleware.mk "soc" (promptSha256Hex "") "default").Accepts promptLibrary.sha256Hex "" ∧
      ∀ text, text ≠ "" →
        ¬ (PromptContextMiddleware.mk "soc" (promptSha256Hex "") "default").Accepts promptLibrary.sha256Hex text) ↔
      blankAgent.systemPrompt = "" ∧ blankAgent.systemPromptDigest = promptLibrary.sha256Hex "" := by
  apply saved_prompt_accepted_iff promptLibrary [] emptyAgents false blankAgent { blankAgent with source := .api }
    (.exception "role") _ "default" rfl rfl
  · decide +kernel
  · intro text same
    have other : String.ofList (List.replicate 64 '0') ≠ promptSha256Hex "" := by
      decide +kernel
    have wrapped : "411a8fed110b92bbd5386ac65ad6ed8d9400280f986c7c87943a1045c4f7c279" ≠ promptSha256Hex "" := by
      decide +kernel
    change promptSha256Hex text = promptSha256Hex "" at same
    by_contra filled
    have filled : text ≠ "" := filled
    rw [promptSha256Hex, if_neg filled] at same
    by_cases known : text = wrapUserData "Triage alerts" .catalog
    · rw [if_pos known] at same
      exact wrapped same
    · rw [if_neg known] at same
      exact other same

end CysAgi.Catalog
