import CysAgi.Catalog.PromptDigest

open Py

namespace CysAgi.Catalog

structure AgentRegistry where
  agents : Dict String AgentDefinition

def AgentRegistry.get? (registry : AgentRegistry) (name : String) : Option AgentDefinition := registry.agents.get? name

/-- What `load_hybrid_registry` goes by: the settings, the definitions loader and the error that a catalog entry with
    an invalid role raises. -/
structure HybridLoader where
  useDynamicCatalog : Bool
  load : Except PyExc (Dict String AgentDefinition)
  validationError : PyExc

namespace HybridLoader

variable (loader : HybridLoader)

def override (merged : Dict String AgentDefinition) :
    List AgentCatalogEntry → Except PyExc (Dict String AgentDefinition)
  | [] => .ok merged
  | entry :: rest =>
    match entryToDefinition loader.validationError entry with
    | .error raised => .error raised
    | .ok defn => override (merged.set entry.name defn) rest

/-- `load_hybrid_registry`, where the catalog answers `list_agents` with the given entries. -/
def loadHybridRegistry (listed : List AgentCatalogEntry) : Except PyExc AgentRegistry :=
  match loader.load with
  | .error raised => .error raised
  | .ok fsAgents =>
    if loader.useDynamicCatalog then (loader.override fsAgents listed).map AgentRegistry.mk
    else .ok { agents := fsAgents }

/-- The registry is one that the loader may return from the catalog. -/
def Returns (catalog : AgentCatalog) (registry : AgentRegistry) : Prop :=
  ∃ listed, catalog.ListAgents "" true listed ∧ loader.loadHybridRegistry listed = .ok registry

/-- A disabled persona is absent, and an enabled entry is there with the catalog's definition. -/
structure FollowsCatalog (catalog : AgentCatalog) (registry : AgentRegistry) : Prop where
  disabled : ∀ name entry, catalog.getAgent name = some entry → entry.enabled = false → registry.get? name = none
  enabled : ∀ row ∈ catalog.selectAgents "" true, ∃ defn,
    entryToDefinition loader.validationError row = .ok defn ∧ registry.get? row.name = some defn

/-- Without the catalog the files have to say what the catalog says. With it no disabled persona may have a file, or
    an enabled row in another profile, and the enabled rows of one name have to agree. -/
def Agrees (catalog : AgentCatalog) (fsAgents : Dict String AgentDefinition) : Prop :=
  (∀ name entry, catalog.getAgent name = some entry → entry.enabled = false → fsAgents.get? name = none) ∧
    if loader.useDynamicCatalog then
      (∀ name entry, catalog.getAgent name = some entry → entry.enabled = false →
        ∀ row ∈ catalog.selectAgents "" true, row.name ≠ name) ∧
      ∀ row ∈ catalog.selectAgents "" true, ∀ other ∈ catalog.selectAgents "" true, row.name = other.name →
        entryToDefinition loader.validationError row = entryToDefinition loader.validationError other
    else ∀ row ∈ catalog.selectAgents "" true, ∃ defn,
      entryToDefinition loader.validationError row = .ok defn ∧ fsAgents.get? row.name = some defn

variable {loader} {merged registry : Dict String AgentDefinition} {listed : List AgentCatalogEntry}

theorem override_cons {entry : AgentCatalogEntry} {rest : List AgentCatalogEntry}
    (overridden : loader.override merged (entry :: rest) = .ok registry) :
    ∃ defn, entryToDefinition loader.validationError entry = .ok defn ∧
      loader.override (merged.set entry.name defn) rest = .ok registry := by
  unfold override at overridden
  split at overridden
  · cases overridden
  · rename_i defn made
    exact ⟨defn, made, overridden⟩

theorem override_unlisted (overridden : loader.override merged listed = .ok registry) {name : String}
    (unlisted : ∀ row ∈ listed, row.name ≠ name) : registry.get? name = merged.get? name := by
  induction listed generalizing merged with
  | nil =>
    cases overridden
    rfl
  | cons entry rest ih =>
    obtain ⟨defn, -, overridden⟩ := override_cons overridden
    rw [ih overridden fun row member => unlisted row (List.mem_cons_of_mem _ member)]
    exact Dict.get?_set_of_ne _ _ (Ne.symm (unlisted entry List.mem_cons_self))

theorem override_listed (overridden : loader.override merged listed = .ok registry) {row : AgentCatalogEntry}
    (member : row ∈ listed) : ∃ last ∈ listed, last.name = row.name ∧ ∃ defn,
      entryToDefinition loader.validationError last = .ok defn ∧ registry.get? row.name = some defn := by
  induction listed generalizing merged row with
  | nil => cases member
  | cons entry rest ih =>
    obtain ⟨defn, made, overridden⟩ := override_cons overridden
    by_cases later : ∃ other ∈ rest, other.name = row.name
    · obtain ⟨other, inside, named⟩ := later
      obtain ⟨last, held, same, found⟩ := ih overridden inside
      rw [named] at same found
      exact ⟨last, List.mem_cons_of_mem _ held, same, found⟩
    · have unlisted : ∀ other ∈ rest, other.name ≠ row.name := fun other inside named => later ⟨other, inside, named⟩
      have first : row = entry := by
        rcases List.mem_cons.mp member with first | inside
        · exact first
        · exact absurd rfl (unlisted row inside)
      refine ⟨entry, List.mem_cons_self, by rw [first], defn, made, ?_⟩
      rw [override_unlisted overridden unlisted, first]
      exact Dict.get?_set_self _ _ _

theorem followsCatalog_dynamic_iff {catalog : AgentCatalog} (dynamic : loader.useDynamicCatalog = true)
    (answered : catalog.ListAgents "" true listed) (overridden : loader.override merged listed = .ok registry) :
    loader.FollowsCatalog catalog { agents := registry } ↔ loader.Agrees catalog merged := by
  have inside := AgentCatalog.mem_listed_iff answered
  simp only [Agrees, if_pos dynamic, ← inside]
  constructor
  · intro follows
    have unlisted : ∀ name entry, catalog.getAgent name = some entry → entry.enabled = false →
        ∀ row ∈ listed, row.name ≠ name := by
      intro name entry found off row member named
      obtain ⟨-, -, -, defn, -, shown⟩ := override_listed overridden member
      have absent : registry.get? name = none := follows.disabled name entry found off
      rw [named, absent] at shown
      cases shown
    refine ⟨?_, unlisted, ?_⟩
    · intro name entry found off
      rw [← override_unlisted overridden (unlisted name entry found off)]
      exact follows.disabled name entry found off
    · intro row member other beside same
      obtain ⟨defn, made, shown⟩ := follows.enabled row ((inside row).mp member)
      obtain ⟨second, madeOther, shownOther⟩ := follows.enabled other ((inside other).mp beside)
      rw [same, shownOther] at shown
      rw [made, madeOther, Option.some.inj shown]
  · intro ⟨files, unlisted, agree⟩
    constructor
    · intro name entry found off
      exact (override_unlisted overridden (unlisted name entry found off)).trans (files name entry found off)
    · intro row selected
      have member := (inside row).mpr selected
      obtain ⟨last, held, same, defn, made, shown⟩ := override_listed overridden member
      exact ⟨defn, (agree row member last held same.symm).trans made, shown⟩

/-- The registry that is returned follows the catalog exactly when the files agree with it. -/
theorem followsCatalog_iff (loader : HybridLoader) (catalog : AgentCatalog) (fsAgents : Dict String AgentDefinition)
    (loaded : loader.load = .ok fsAgents) (registry : AgentRegistry) (returned : loader.Returns catalog registry) :
    loader.FollowsCatalog catalog registry ↔ loader.Agrees catalog fsAgents := by
  obtain ⟨listed, answered, built⟩ := returned
  simp only [loadHybridRegistry, loaded] at built
  by_cases dynamic : loader.useDynamicCatalog = true
  · rw [if_pos dynamic] at built
    cases overridden : loader.override fsAgents listed with
    | error raised =>
      rw [overridden] at built
      cases built
    | ok agents =>
      rw [overridden] at built
      cases built
      exact followsCatalog_dynamic_iff dynamic answered overridden
  · rw [if_neg dynamic] at built
    cases built
    simp only [Agrees, if_neg dynamic]
    constructor
    · intro follows
      exact ⟨follows.disabled, follows.enabled⟩
    · intro agrees
      exact ⟨agrees.1, agrees.2⟩

def analystFile : AgentDefinition := { name := "analyst", description := "", role := "worker", systemPrompt := "triage" }

def fileLoader : HybridLoader where
  useDynamicCatalog := true
  load := .ok (Dict.empty.set "analyst" analystFile)
  validationError := .exception "validation error"

def deletedAnalyst : AgentCatalog :=
  (AgentCatalog.inMemory { agents := KeyedDict.empty.seed [{ name := "analyst" }], versions := .empty }).deleteAgent
    "analyst" defaultProfileId

theorem deletedAnalyst_returns :
    fileLoader.Returns deletedAnalyst { agents := Dict.empty.set "analyst" analystFile } := by
  refine ⟨[], ?_, rfl⟩
  rfl

/-- A persona that was deleted through the catalog is resolved from its file. -/
theorem deleted_persona_resolved :
    ∃ registry entry, fileLoader.Returns deletedAnalyst registry ∧ deletedAnalyst.getAgent "analyst" = some entry ∧
      entry.enabled = false ∧ registry.get? "analyst" = some analystFile :=
  ⟨_, _, deletedAnalyst_returns, rfl, rfl, rfl⟩

theorem deletedAnalyst_not_followed :
    ¬fileLoader.FollowsCatalog deletedAnalyst { agents := Dict.empty.set "analyst" analystFile } := by
  rw [followsCatalog_iff fileLoader deletedAnalyst _ rfl _ deletedAnalyst_returns]
  intro agrees
  cases agrees.1 "analyst" _ rfl rfl

end HybridLoader

end CysAgi.Catalog
