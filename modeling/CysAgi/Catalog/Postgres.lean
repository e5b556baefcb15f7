import CysAgi.Base.Listing
import CysAgi.Catalog.InMemory

open Py

namespace CysAgi.Catalog

/-- A table with the primary key `(id, profile_id)`, each row with the entry that its payload is validated to. -/
abbrev PostgresJsonCatalog (ε : Type) [PayloadEntry ε] := KeyedDict ItemKey ε itemKey

namespace PostgresJsonCatalog

variable {ε : Type} [PayloadEntry ε]

def getItem (catalog : PostgresJsonCatalog ε) (itemId profileId : String) : Option ε := catalog.get? (itemId, profileId)

def upsertItem (catalog : PostgresJsonCatalog ε) (merge : ε → ε → ε) (entry : ε) : PostgresJsonCatalog ε × ε :=
  match catalog.getItem (PayloadEntry.id entry) (PayloadEntry.profileId entry) with
  | some existing => (catalog.put (merge entry existing), merge entry existing)
  | none => (catalog.put entry, entry)

theorem upsertItem_eq (catalog : PostgresJsonCatalog ε) (merge : ε → ε → ε) (entry : ε) :
    catalog.upsertItem merge entry = JsonPayloadCatalog.upsertItem catalog merge entry := by
  unfold upsertItem JsonPayloadCatalog.upsertItem JsonPayloadCatalog.merged
  change (match catalog.get? (itemKey entry) with
    | some existing => (catalog.put (merge entry existing), merge entry existing)
    | none => (catalog.put entry, entry)) = _
  cases catalog.get? (itemKey entry) <;> rfl

end PostgresJsonCatalog

abbrev PostgresSkillCatalog := PostgresJsonCatalog SkillCatalogEntry

abbrev PostgresPlanCatalog := PostgresJsonCatalog PlanCatalogEntry

namespace PostgresSkillCatalog

def upsertSkill (catalog : PostgresSkillCatalog) (entry : SkillCatalogEntry) :
    PostgresSkillCatalog × SkillCatalogEntry := PostgresJsonCatalog.upsertItem catalog mergeSkillVersion entry

def deleteSkill (catalog : PostgresSkillCatalog) (skillId profileId : String) : PostgresSkillCatalog × Bool :=
  match PostgresJsonCatalog.getItem catalog skillId profileId with
  | none => (catalog, false)
  | some entry => ((upsertSkill catalog { entry with enabled := false }).1, true)

def incrementUsage (catalog : PostgresSkillCatalog) (skillId profileId : String) (error : Bool) :
    PostgresSkillCatalog :=
  match PostgresJsonCatalog.getItem catalog skillId profileId with
  | none => catalog
  | some entry => (upsertSkill catalog { entry with quality := incrementedUsage error entry.quality }).1

end PostgresSkillCatalog

def PostgresPlanCatalog.mergePlanVersion (new existing : PlanCatalogEntry) : PlanCatalogEntry :=
  { new with version := existing.version + 1, quality := existing.quality }

def PostgresPlanCatalog.upsertPlan (catalog : PostgresPlanCatalog) (entry : PlanCatalogEntry) :
    PostgresPlanCatalog × PlanCatalogEntry :=
  PostgresJsonCatalog.upsertItem catalog PostgresPlanCatalog.mergePlanVersion entry

inductive Backend where
  | inMemory
  | postgres
  deriving DecidableEq

namespace Backend

/-- The in-memory catalogs hand out their own objects, the tables give copies. -/
def live : Backend → Bool
  | inMemory => true
  | postgres => false

variable (catalog : JsonPayloadCatalog SkillCatalogEntry) (skillId profileId : String)

def upsertSkill (backend : Backend) (entry : SkillCatalogEntry) :
    JsonPayloadCatalog SkillCatalogEntry × SkillCatalogEntry :=
  match backend with
  | .inMemory => InMemorySkillCatalog.upsertSkill catalog entry
  | .postgres => PostgresSkillCatalog.upsertSkill catalog entry

def deleteSkill (backend : Backend) : JsonPayloadCatalog SkillCatalogEntry × Bool :=
  match backend with
  | .inMemory => JsonPayloadCatalog.softDelete catalog skillId profileId
  | .postgres => PostgresSkillCatalog.deleteSkill catalog skillId profileId

def incrementUsage (backend : Backend) (error : Bool) : JsonPayloadCatalog SkillCatalogEntry :=
  match backend with
  | .inMemory => InMemorySkillCatalog.incrementUsage catalog skillId profileId error
  | .postgres => PostgresSkillCatalog.incrementUsage catalog skillId profileId error

def upsertPlan (plans : JsonPayloadCatalog PlanCatalogEntry) (backend : Backend) (entry : PlanCatalogEntry) :
    JsonPayloadCatalog PlanCatalogEntry × PlanCatalogEntry :=
  match backend with
  | .inMemory => InMemoryPlanCatalog.upsertPlan plans entry
  | .postgres => PostgresPlanCatalog.upsertPlan plans entry

theorem incrementUsage_none {skillId profileId : String} (absent : catalog.get? (skillId, profileId) = none)
    (backend : Backend) (error : Bool) : backend.incrementUsage catalog skillId profileId error = catalog := by
  cases backend with
  | inMemory => simp only [incrementUsage, InMemorySkillCatalog.incrementUsage, absent]
  | postgres =>
    simp only [incrementUsage, PostgresSkillCatalog.incrementUsage, PostgresJsonCatalog.getItem, absent]

theorem deleteSkill_none {skillId profileId : String} (absent : catalog.get? (skillId, profileId) = none)
    (backend : Backend) : (backend.deleteSkill catalog skillId profileId).1 = catalog := by
  cases backend with
  | inMemory => simp only [deleteSkill, JsonPayloadCatalog.softDelete, absent]
  | postgres => simp only [deleteSkill, PostgresSkillCatalog.deleteSkill, PostgresJsonCatalog.getItem, absent]

theorem upsertSkill_eq (backend : Backend) (entry : SkillCatalogEntry) :
    upsertSkill catalog backend entry = JsonPayloadCatalog.upsertItem catalog mergeSkillVersion entry := by
  cases backend with
  | inMemory => rfl
  | postgres => exact PostgresJsonCatalog.upsertItem_eq catalog mergeSkillVersion entry

theorem itemKey_upsertPlan (plans : JsonPayloadCatalog PlanCatalogEntry) (backend : Backend)
    (entry : PlanCatalogEntry) : itemKey (backend.upsertPlan plans entry).2 = itemKey entry := by
  cases backend with
  | inMemory => exact JsonPayloadCatalog.map_merged_new itemKey mergePlanVersion plans (fun _ _ => rfl) entry
  | postgres =>
    simp only [upsertPlan, PostgresPlanCatalog.upsertPlan, PostgresJsonCatalog.upsertItem_eq]
    exact JsonPayloadCatalog.map_merged_new itemKey PostgresPlanCatalog.mergePlanVersion plans (fun _ _ => rfl) entry

end Backend

structure NewestRow where
  pick : List AgentCatalogEntry → Option AgentCatalogEntry
  newest : ∀ rows entry, pick rows = some entry → entry ∈ rows ∧ ∀ other ∈ rows, other.version ≤ entry.version
  found : ∀ rows, pick rows = none → rows = []

def lastNewest : List AgentCatalogEntry → Option AgentCatalogEntry
  | [] => none
  | row :: rest =>
    match lastNewest rest with
    | none => some row
    | some other => if other.version < row.version then some row else some other

theorem lastNewest_none {rows : List AgentCatalogEntry} (unpicked : lastNewest rows = none) : rows = [] := by
  cases rows with
  | nil => rfl
  | cons row rest =>
    unfold lastNewest at unpicked
    split at unpicked
    · cases unpicked
    · split at unpicked <;> cases unpicked

theorem lastNewest_some {rows : List AgentCatalogEntry} {entry : AgentCatalogEntry}
    (picked : lastNewest rows = some entry) : entry ∈ rows ∧ ∀ other ∈ rows, other.version ≤ entry.version := by
  induction rows generalizing entry with
  | nil => cases picked
  | cons row rest ih =>
    unfold lastNewest at picked
    cases later : lastNewest rest with
    | none =>
      rw [later] at picked
      cases picked
      rw [lastNewest_none later]
      exact ⟨List.mem_cons_self, fun other member => List.mem_singleton.mp member ▸ Int.le_refl _⟩
    | some best =>
      obtain ⟨member, above⟩ := ih later
      simp only [later] at picked
      by_cases newer : best.version < row.version
      · rw [if_pos newer] at picked
        cases picked
        refine ⟨List.mem_cons_self, fun other held => ?_⟩
        rcases List.mem_cons.mp held with rfl | held
        · exact Int.le_refl _
        · exact Int.le_trans (above other held) (Int.le_of_lt newer)
      · rw [if_neg newer] at picked
        cases picked
        refine ⟨List.mem_cons_of_mem _ member, fun other held => ?_⟩
        rcases List.mem_cons.mp held with rfl | held
        · exact Int.not_lt.mp newer
        · exact above other held

def newestFirst : NewestRow where
  pick := lastNewest
  newest _ _ := lastNewest_some
  found _ := lastNewest_none

def agentKey (entry : AgentCatalogEntry) : String × String := (entry.name, entry.profileId)

structure PostgresAgentCatalog where
  rows : KeyedDict (String × String) AgentCatalogEntry agentKey
  order : NewestRow

namespace PostgresAgentCatalog

variable (catalog : PostgresAgentCatalog)

/-- `WHERE name = %s`. -/
def rowsNamed (name : String) : List AgentCatalogEntry :=
  (catalog.rows.items.entries.filter fun row => row.1.1 = name).map Prod.snd

def getAgent (name : String) : Option AgentCatalogEntry := catalog.order.pick (catalog.rowsNamed name)

def upsertAgent (entry : AgentCatalogEntry) : PostgresAgentCatalog × AgentCatalogEntry :=
  let entry := InMemoryAgentCatalog.saved (catalog.getAgent entry.name) entry
  ({ catalog with rows := catalog.rows.put entry }, entry)

def deleteAgent (name profileId : String) : PostgresAgentCatalog × Bool :=
  match catalog.getAgent name with
  | none => (catalog, false)
  | some entry =>
    if entry.profileId ≠ profileId then (catalog, false)
    else ((catalog.upsertAgent { entry with enabled := false }).1, true)

def listed (profileId : String) (enabledOnly : Bool) (key : String × String) (payload : AgentCatalogEntry) : Bool :=
  (profileId = "" ∨ key.2 = profileId) ∧ (enabledOnly → payload.enabled)

def selectAgents (profileId : String) (enabledOnly : Bool) : List AgentCatalogEntry :=
  catalog.rows.select (listed profileId enabledOnly)

def ListAgents (profileId : String) (enabledOnly : Bool) (answer : List AgentCatalogEntry) : Prop :=
  Listing.OrderedBy AgentCatalogEntry.name (catalog.selectAgents profileId enabledOnly) answer

end PostgresAgentCatalog

namespace PostgresAgentCatalog

variable (catalog : PostgresAgentCatalog)

theorem name_of_getAgent {name : String} {entry : AgentCatalogEntry} (found : catalog.getAgent name = some entry) :
    entry.name = name := by
  obtain ⟨item, kept, rfl⟩ := List.mem_map.mp (catalog.order.newest _ entry found).1
  obtain ⟨held, named⟩ := List.mem_filter.mp kept
  have keyed : agentKey item.2 = item.1 := KeyedDict.keyOf_of_get? ((Dict.mem_entries_iff _).mp held)
  exact (congrArg Prod.fst keyed).trans (of_decide_eq_true named)

theorem rowsNamed_put_of_ne {entry : AgentCatalogEntry} {name : String} (ne : name ≠ entry.name) :
    { catalog with rows := catalog.rows.put entry }.rowsNamed name = catalog.rowsNamed name := by
  have other : decide (entry.name = name) = false := decide_eq_false (Ne.symm ne)
  have kept := Assoc.filter_set_of_not (p := fun key : String × String => decide (key.1 = name))
    catalog.rows.items.entries (agentKey entry) other entry
  exact congrArg (List.map Prod.snd) kept

theorem getAgent_upsertAgent_of_ne {entry : AgentCatalogEntry} {name : String} (ne : name ≠ entry.name) :
    (catalog.upsertAgent entry).1.getAgent name = catalog.getAgent name := by
  apply congrArg catalog.order.pick
  apply rowsNamed_put_of_ne
  rw [InMemoryAgentCatalog.name_saved]
  exact ne

theorem mem_rowsNamed_upsertAgent (entry : AgentCatalogEntry) :
    (catalog.upsertAgent entry).2 ∈ (catalog.upsertAgent entry).1.rowsNamed entry.name := by
  have stored : (catalog.upsertAgent entry).1.rows.items.get? (agentKey (catalog.upsertAgent entry).2) =
      some (catalog.upsertAgent entry).2 := KeyedDict.get?_put_self catalog.rows _
  have member := (Dict.mem_entries_iff _).mpr stored
  apply List.mem_map.mpr
  refine ⟨_, List.mem_filter.mpr ⟨member, ?_⟩, rfl⟩
  exact decide_eq_true (InMemoryAgentCatalog.name_saved _ entry)

theorem mem_rowsNamed_of_upsertAgent {entry row : AgentCatalogEntry}
    (member : row ∈ (catalog.upsertAgent entry).1.rowsNamed entry.name) :
    row = (catalog.upsertAgent entry).2 ∨ row ∈ catalog.rowsNamed entry.name := by
  obtain ⟨item, kept, rfl⟩ := List.mem_map.mp member
  obtain ⟨held, named⟩ := List.mem_filter.mp kept
  rcases Assoc.mem_set held with rfl | older
  · exact .inl rfl
  · exact .inr (List.mem_map.mpr ⟨item, List.mem_filter.mpr ⟨older, named⟩, rfl⟩)

theorem version_lt_upsertAgent {entry row : AgentCatalogEntry} (member : row ∈ catalog.rowsNamed entry.name) :
    row.version < (catalog.upsertAgent entry).2.version := by
  unfold upsertAgent
  cases found : catalog.getAgent entry.name with
  | none =>
    rw [catalog.order.found _ found] at member
    cases member
  | some existing =>
    have below := (catalog.order.newest _ existing found).2 row member
    exact Int.lt_add_one_of_le below

theorem getAgent_upsertAgent (entry : AgentCatalogEntry) :
    (catalog.upsertAgent entry).1.getAgent entry.name = some (catalog.upsertAgent entry).2 := by
  have written := catalog.mem_rowsNamed_upsertAgent entry
  cases picked : (catalog.upsertAgent entry).1.getAgent entry.name with
  | none =>
    rw [catalog.order.found _ picked] at written
    cases written
  | some newest =>
    obtain ⟨member, above⟩ := catalog.order.newest _ newest picked
    rcases catalog.mem_rowsNamed_of_upsertAgent member with same | older
    · exact congrArg some same
    · have higher : (catalog.upsertAgent entry).2.version ≤ newest.version := above _ written
      have lower := catalog.version_lt_upsertAgent older
      omega

end PostgresAgentCatalog

inductive AgentCatalog where
  | inMemory (catalog : InMemoryAgentCatalog)
  | postgres (catalog : PostgresAgentCatalog)

namespace AgentCatalog

def backend : AgentCatalog → Backend
  | inMemory _ => .inMemory
  | postgres _ => .postgres

def getAgent : AgentCatalog → String → Option AgentCatalogEntry
  | inMemory catalog, name => catalog.getAgent name
  | postgres catalog, name => catalog.getAgent name

def upsertAgent : AgentCatalog → AgentCatalogEntry → AgentCatalog × AgentCatalogEntry
  | inMemory catalog, entry => ((catalog.upsertAgent entry).1 |> inMemory, (catalog.upsertAgent entry).2)
  | postgres catalog, entry => ((catalog.upsertAgent entry).1 |> postgres, (catalog.upsertAgent entry).2)

def deleteAgent : AgentCatalog → String → String → AgentCatalog
  | inMemory catalog, name, profileId => inMemory (catalog.deleteAgent name profileId).1
  | postgres catalog, name, profileId => postgres (catalog.deleteAgent name profileId).1

def ListAgents : AgentCatalog → String → Bool → List AgentCatalogEntry → Prop
  | inMemory catalog, profileId, enabledOnly, answer => answer = catalog.listAgents profileId enabledOnly
  | postgres catalog, profileId, enabledOnly, answer => catalog.ListAgents profileId enabledOnly answer

def selectAgents : AgentCatalog → String → Bool → List AgentCatalogEntry
  | inMemory agents, profileId, enabledOnly => agents.selectAgents profileId enabledOnly
  | postgres table, profileId, enabledOnly => table.selectAgents profileId enabledOnly

theorem mem_listed_iff {catalog : AgentCatalog} {profileId : String} {enabledOnly : Bool}
    {answer : List AgentCatalogEntry} (listed : catalog.ListAgents profileId enabledOnly answer)
    (item : AgentCatalogEntry) : item ∈ answer ↔ item ∈ catalog.selectAgents profileId enabledOnly := by
  cases catalog with
  | inMemory agents =>
    rw [show answer = agents.listAgents profileId enabledOnly from listed]
    exact (List.perm_insertionSort _ _).mem_iff
  | postgres table => exact listed.1.mem_iff

theorem exists_listed (catalog : AgentCatalog) (profileId : String) (enabledOnly : Bool) :
    ∃ answer, catalog.ListAgents profileId enabledOnly answer := by
  cases catalog with
  | inMemory agents => exact ⟨_, rfl⟩
  | postgres table =>
    obtain ⟨answer, ordered, -⟩ := Listing.exists_ties_reversed AgentCatalogEntry.name AgentCatalogEntry.name
      (table.selectAgents profileId enabledOnly)
    exact ⟨answer, ordered⟩

/-- The object that `getAgent` gave has been rewritten. In memory it is the catalog's own. -/
def hold : AgentCatalog → AgentCatalogEntry → AgentCatalog
  | inMemory catalog, entry => inMemory { catalog with agents := catalog.agents.put entry }
  | postgres catalog, _ => postgres catalog

theorem upsertAgent_saved (catalog : AgentCatalog) (entry : AgentCatalogEntry) :
    (catalog.upsertAgent entry).2 = InMemoryAgentCatalog.saved (catalog.getAgent entry.name) entry := by
  cases catalog <;> rfl

theorem getAgent_upsertAgent (catalog : AgentCatalog) (entry : AgentCatalogEntry) (name : String) :
    (catalog.upsertAgent entry).1.getAgent name =
      if name = entry.name then some (catalog.upsertAgent entry).2 else catalog.getAgent name := by
  cases catalog with
  | inMemory catalog =>
    refine (KeyedDict.get?_put catalog.agents _ name).trans ?_
    rw [InMemoryAgentCatalog.name_saved]
    rfl
  | postgres catalog =>
    by_cases here : name = entry.name
    · rw [if_pos here, here]
      exact catalog.getAgent_upsertAgent entry
    · rw [if_neg here]
      exact catalog.getAgent_upsertAgent_of_ne here

theorem name_of_getAgent {catalog : AgentCatalog} {name : String} {entry : AgentCatalogEntry}
    (found : catalog.getAgent name = some entry) : entry.name = name := by
  cases catalog with
  | inMemory catalog => exact KeyedDict.keyOf_of_get? found
  | postgres catalog => exact catalog.name_of_getAgent found

theorem getAgent_hold (catalog : AgentCatalog) (entry : AgentCatalogEntry) (name : String) :
    (catalog.hold entry).getAgent name =
      if catalog.backend.live = true ∧ name = entry.name then some entry else catalog.getAgent name := by
  cases catalog with
  | inMemory catalog =>
    refine (KeyedDict.get?_put catalog.agents entry name).trans ?_
    simp only [backend, Backend.live, true_and]
    rfl
  | postgres catalog => exact (if_neg fun both => Bool.false_ne_true both.1).symm

end AgentCatalog

end CysAgi.Catalog
