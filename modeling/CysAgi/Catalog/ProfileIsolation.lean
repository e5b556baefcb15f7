import CysAgi.Catalog.Postgres

open Py

namespace CysAgi.Catalog

inductive AgentWrite where
  | upsert (entry : AgentCatalogEntry)
  | delete (name profileId : String)

def AgentWrite.profileId : AgentWrite → String
  | upsert entry => entry.profileId
  | delete _ profileId => profileId

namespace AgentCatalog

def apply (catalog : AgentCatalog) : AgentWrite → AgentCatalog
  | .upsert entry => (catalog.upsertAgent entry).1
  | .delete name profileId => catalog.deleteAgent name profileId

def getUnder (catalog : AgentCatalog) (profileId name : String) : Option AgentCatalogEntry :=
  (catalog.getAgent name).filter fun entry => entry.profileId = profileId

/-- Everything read under the profile is the same in both states. -/
structure SameReads (profileId : String) (before after : AgentCatalog) : Prop where
  lists : ∀ enabledOnly answer,
    before.ListAgents profileId enabledOnly answer ↔ after.ListAgents profileId enabledOnly answer
  entries : ∀ name, before.getUnder profileId name = after.getUnder profileId name

def DeletesNothing (catalog : AgentCatalog) (name profileId : String) : Prop :=
  ∀ entry, catalog.getAgent name = some entry → entry.profileId = profileId →
    catalog.backend = .inMemory ∧ entry.enabled = false

/-- An upsert takes the place of no entry of the profile. An empty profile id lists all profiles. -/
def Spares (catalog : AgentCatalog) (profileId : String) : AgentWrite → Prop
  | .upsert entry => profileId ≠ "" ∧ catalog.getUnder profileId entry.name = none
  | .delete name owner => profileId ≠ "" ∨ catalog.DeletesNothing name owner

theorem SameReads.refl (profileId : String) (catalog : AgentCatalog) : SameReads profileId catalog catalog :=
  ⟨fun _ _ => Iff.rfl, fun _ => rfl⟩

section

variable {catalog : AgentCatalog} {profileId : String} {entry : AgentCatalogEntry}

theorem profileId_saved (existing : Option AgentCatalogEntry) (entry : AgentCatalogEntry) :
    (InMemoryAgentCatalog.saved existing entry).profileId = entry.profileId := by
  cases existing <;> rfl

theorem getUnder_upsertAgent (other : profileId ≠ entry.profileId) (name : String) :
    (catalog.upsertAgent entry).1.getUnder profileId name =
      if name = entry.name then none else catalog.getUnder profileId name := by
  unfold getUnder
  rw [getAgent_upsertAgent, upsertAgent_saved]
  by_cases here : name = entry.name
  · rw [if_pos here, if_pos here]
    refine Option.filter_eq_none_iff.mpr fun item same => ?_
    rw [← Option.some.inj same, profileId_saved]
    simpa using Ne.symm other
  · rw [if_neg here, if_neg here]

theorem foreign_of_getUnder {name : String} (spared : catalog.getUnder profileId name = none)
    {held : AgentCatalogEntry} (found : catalog.getAgent name = some held) : held.profileId ≠ profileId := by
  simpa using Option.filter_eq_none_iff.mp spared held found

theorem sameReads_put {agents next : InMemoryAgentCatalog} (written : next.agents = agents.agents.put entry)
    (nonempty : profileId ≠ "") (other : entry.profileId ≠ profileId)
    (spared : ∀ held, agents.getAgent entry.name = some held → held.profileId ≠ profileId) :
    SameReads profileId (inMemory agents) (inMemory next) := by
  constructor
  · intro enabledOnly answer
    have same : next.selectAgents profileId enabledOnly = agents.selectAgents profileId enabledOnly := by
      rw [InMemoryAgentCatalog.selectAgents, written]
      apply KeyedDict.select_put_of_unselected
      · simp [InMemoryAgentCatalog.listed, nonempty, other]
      · intro held found
        simp [InMemoryAgentCatalog.listed, nonempty, spared held found]
    simp only [ListAgents, InMemoryAgentCatalog.listAgents, same]
  · intro name
    have after : next.getAgent name = if name = entry.name then some entry else agents.getAgent name := by
      rw [InMemoryAgentCatalog.getAgent, written]
      exact KeyedDict.get?_put agents.agents entry name
    simp only [getUnder, getAgent, after]
    by_cases here : name = entry.name
    · rw [if_pos here, here]
      have before := Option.filter_eq_none_iff.mpr fun held found => decide_eq_true_iff.not.mpr (spared held found)
      rw [before]
      simp [Option.filter, other]
    · rw [if_neg here]

theorem sameReads_upsert_row {table : PostgresAgentCatalog} (nonempty : profileId ≠ "")
    (other : profileId ≠ entry.profileId) (spared : (postgres table).getUnder profileId entry.name = none) :
    SameReads profileId (postgres table) (postgres (table.upsertAgent entry).1) := by
  constructor
  · intro enabledOnly answer
    have same : (table.upsertAgent entry).1.selectAgents profileId enabledOnly =
        table.selectAgents profileId enabledOnly := by
      apply KeyedDict.select_put_of_unselected
      · simp [PostgresAgentCatalog.listed, agentKey, nonempty, profileId_saved, Ne.symm other]
      · intro held found
        simp [PostgresAgentCatalog.listed, agentKey, nonempty, profileId_saved, Ne.symm other]
    simp only [ListAgents, PostgresAgentCatalog.ListAgents, same]
  · intro name
    have after : ((postgres table).upsertAgent entry).1.getUnder profileId name = _ := getUnder_upsertAgent other name
    refine Eq.trans ?_ after.symm
    by_cases here : name = entry.name
    · rw [if_pos here, here, spared]
    · rw [if_neg here]

theorem sameReads_upsertAgent (nonempty : profileId ≠ "") (other : profileId ≠ entry.profileId)
    (spared : catalog.getUnder profileId entry.name = none) :
    SameReads profileId catalog (catalog.upsertAgent entry).1 := by
  cases catalog with
  | inMemory agents =>
    have foreign : (InMemoryAgentCatalog.saved (agents.getAgent entry.name) entry).profileId ≠ profileId := by
      rw [profileId_saved]
      exact Ne.symm other
    refine sameReads_put rfl nonempty foreign ?_
    intro held found
    rw [InMemoryAgentCatalog.name_saved] at found
    exact foreign_of_getUnder spared found
  | postgres table => exact sameReads_upsert_row nonempty other spared

theorem saved_ne (existing : Option AgentCatalogEntry) (entry : AgentCatalogEntry) :
    existing ≠ some (InMemoryAgentCatalog.saved existing entry) := by
  intro same
  cases existing with
  | none => cases same
  | some existing =>
    have version : existing.version = existing.version + 1 := congrArg AgentCatalogEntry.version (Option.some.inj same)
    omega

theorem saved_not_selected (enabledOnly : Bool) :
    (catalog.upsertAgent entry).2 ∉ catalog.selectAgents profileId enabledOnly := by
  intro member
  cases catalog with
  | inMemory agents =>
    have found := ((KeyedDict.mem_select _ _).mp member).1
    rw [upsertAgent_saved, InMemoryAgentCatalog.name_saved] at found
    exact saved_ne _ entry found
  | postgres table =>
    have found := ((KeyedDict.mem_select _ _).mp member).1
    have row : (table.upsertAgent entry).2 ∈ table.rowsNamed entry.name := by
      refine List.mem_map.mpr ⟨_, List.mem_filter.mpr ⟨(Dict.mem_entries_iff _).mpr found, ?_⟩, rfl⟩
      exact decide_eq_true (InMemoryAgentCatalog.name_saved _ entry)
    exact lt_irrefl _ (table.version_lt_upsertAgent row)

theorem saved_selected (entry : AgentCatalogEntry) :
    (catalog.upsertAgent entry).2 ∈ (catalog.upsertAgent entry).1.selectAgents "" false := by
  cases catalog with
  | inMemory agents =>
    refine (KeyedDict.mem_select _ _).mpr ⟨KeyedDict.get?_put_self agents.agents _, ?_⟩
    simp [InMemoryAgentCatalog.listed]
  | postgres table =>
    refine (KeyedDict.mem_select _ _).mpr ⟨KeyedDict.get?_put_self table.rows _, ?_⟩
    simp [PostgresAgentCatalog.listed]

theorem selected_of_sameReads {next : AgentCatalog} (same : SameReads profileId catalog next) {enabledOnly : Bool}
    {item : AgentCatalogEntry} (member : item ∈ next.selectAgents profileId enabledOnly) :
    item ∈ catalog.selectAgents profileId enabledOnly := by
  obtain ⟨answer, listed⟩ := next.exists_listed profileId enabledOnly
  have before := (same.lists enabledOnly answer).mpr listed
  exact (mem_listed_iff before item).mp ((mem_listed_iff listed item).mpr member)

theorem not_sameReads_upsertAgent_all : ¬SameReads "" catalog (catalog.upsertAgent entry).1 :=
  fun same => saved_not_selected false (selected_of_sameReads same (saved_selected entry))

theorem sameReads_upsertAgent_iff (other : profileId ≠ entry.profileId) :
    SameReads profileId catalog (catalog.upsertAgent entry).1 ↔ catalog.Spares profileId (.upsert entry) := by
  constructor
  · intro same
    constructor
    · intro empty
      rw [empty] at same
      exact not_sameReads_upsertAgent_all same
    · rw [same.entries, getUnder_upsertAgent other, if_pos rfl]
  · intro ⟨nonempty, spared⟩
    exact sameReads_upsertAgent nonempty other spared

theorem sameReads_delete_inMemory_iff {agents : InMemoryAgentCatalog} {name : String}
    (found : agents.getAgent name = some entry) (other : entry.profileId ≠ profileId) :
    SameReads profileId (inMemory agents)
        (inMemory { agents with agents := agents.agents.put { entry with enabled := false } }) ↔
      profileId ≠ "" ∨ entry.enabled = false := by
  have named : entry.name = name := KeyedDict.keyOf_of_get? found
  constructor
  · intro same
    by_cases empty : profileId = ""
    · right
      rw [empty] at same
      have shown : { entry with enabled := false } ∈ (inMemory agents).selectAgents "" false := by
        apply selected_of_sameReads same
        refine (KeyedDict.mem_select _ _).mpr ⟨KeyedDict.get?_put_self agents.agents _, ?_⟩
        simp [InMemoryAgentCatalog.listed]
      have stored : agents.getAgent entry.name = some { entry with enabled := false } :=
        ((KeyedDict.mem_select _ _).mp shown).1
      rw [named, found] at stored
      exact congrArg AgentCatalogEntry.enabled (Option.some.inj stored)
    · exact .inl empty
  · intro spared
    by_cases empty : profileId = ""
    · have disabled := spared.resolve_left (not_not.mpr empty)
      have stored : { entry with enabled := false } = entry := by rw [← disabled]
      rw [stored, KeyedDict.put_stored agents.agents found]
      exact SameReads.refl profileId _
    · refine sameReads_put rfl empty other ?_
      intro held there
      have here : agents.getAgent entry.name = some held := there
      rw [named, found] at here
      rw [← Option.some.inj here]
      exact other

theorem deleteAgent_unchanged {name owner : String}
    (absent : ∀ entry, catalog.getAgent name = some entry → entry.profileId ≠ owner) :
    catalog.deleteAgent name owner = catalog := by
  cases catalog with
  | inMemory agents =>
    cases found : agents.getAgent name with
    | none => simp only [deleteAgent, InMemoryAgentCatalog.deleteAgent, found]
    | some entry => simp only [deleteAgent, InMemoryAgentCatalog.deleteAgent, found, if_pos (absent entry found)]
  | postgres table =>
    cases found : table.getAgent name with
    | none => simp only [deleteAgent, PostgresAgentCatalog.deleteAgent, found]
    | some entry => simp only [deleteAgent, PostgresAgentCatalog.deleteAgent, found, if_pos (absent entry found)]

theorem sameReads_deleteAgent_iff {name owner : String} (other : profileId ≠ owner) :
    SameReads profileId catalog (catalog.deleteAgent name owner) ↔ catalog.Spares profileId (.delete name owner) := by
  by_cases owned : ∃ entry, catalog.getAgent name = some entry ∧ entry.profileId = owner
  · obtain ⟨entry, found, own⟩ := owned
    have foreign : entry.profileId ≠ profileId := by
      rw [own]
      exact Ne.symm other
    have nothing : catalog.DeletesNothing name owner ↔ catalog.backend = .inMemory ∧ entry.enabled = false := by
      constructor
      · exact fun nothing => nothing entry found own
      · intro both held there _
        rw [found] at there
        rw [← Option.some.inj there]
        exact both
    rw [Spares, nothing]
    cases catalog with
    | inMemory agents =>
      have here : agents.getAgent name = some entry := found
      simp only [deleteAgent, InMemoryAgentCatalog.deleteAgent, here, if_neg (not_not.mpr own), backend, true_and]
      exact sameReads_delete_inMemory_iff here foreign
    | postgres table =>
      have here : table.getAgent name = some entry := found
      have named : entry.name = name := table.name_of_getAgent here
      simp only [deleteAgent, PostgresAgentCatalog.deleteAgent, here, if_neg (not_not.mpr own), backend, reduceCtorEq,
        false_and, or_false]
      have upserted : SameReads profileId (postgres table)
          ((postgres table).upsertAgent { entry with enabled := false }).1 ↔ _ :=
        sameReads_upsertAgent_iff (Ne.symm foreign)
      refine upserted.trans ?_
      have none : (postgres table).getUnder profileId entry.name = none := by
        rw [named, getUnder, found]
        simp [Option.filter, foreign]
      simp [Spares, none]
  · have absent : ∀ entry, catalog.getAgent name = some entry → entry.profileId ≠ owner :=
      fun entry found own => owned ⟨entry, found, own⟩
    rw [deleteAgent_unchanged absent]
    exact iff_of_true (SameReads.refl profileId catalog) (.inr fun entry found own => absurd own (absent entry found))

/-- What is read under a profile is the same after a write under another one exactly when the write spares it. -/
theorem sameReads_iff (catalog : AgentCatalog) (write : AgentWrite) {profileId : String}
    (other : profileId ≠ write.profileId) :
    SameReads profileId catalog (catalog.apply write) ↔ catalog.Spares profileId write := by
  cases write with
  | upsert entry => exact sameReads_upsertAgent_iff other
  | delete name owner => exact sameReads_deleteAgent_iff other

end

def analysts : AgentCatalog :=
  inMemory { agents := KeyedDict.empty.seed [{ name := "analyst" }], versions := .empty }

def analystRows : AgentCatalog :=
  postgres { rows := KeyedDict.empty.seed [{ name := "analyst" }], order := newestFirst }

theorem other_profile_spared :
    SameReads defaultProfileId analysts (analysts.apply (.upsert { name := "hunter", profileId := "red-team" })) :=
  (sameReads_iff analysts (.upsert { name := "hunter", profileId := "red-team" }) (by decide)).mpr ⟨by decide, by decide⟩

/-- An agent of the same name in another profile takes the place of the first, in the table for `get_agent`. -/
theorem other_profile_replaces :
    ¬SameReads defaultProfileId analysts (analysts.apply (.upsert { name := "analyst", profileId := "red-team" })) ∧
      ¬SameReads defaultProfileId analystRows
        (analystRows.apply (.upsert { name := "analyst", profileId := "red-team" })) := by
  constructor
  · rw [sameReads_iff _ _ (by decide)]
    intro spared
    exact absurd spared.2 (by decide)
  · rw [sameReads_iff _ _ (by decide)]
    intro spared
    exact absurd spared.2 (by decide)

end AgentCatalog

end CysAgi.Catalog
