import Mathlib.Data.List.Sort
import Mathlib.Data.String.Basic
import CysAgi.Catalog.Models

open Py

namespace CysAgi.Catalog

class PayloadEntry (ε : Type) where
  id : ε → String
  profileId : ε → String
  disable : ε → ε
  disable_key : ∀ entry, (id (disable entry), profileId (disable entry)) = (id entry, profileId entry)

instance : PayloadEntry SkillCatalogEntry where
  id := SkillCatalogEntry.id
  profileId := SkillCatalogEntry.profileId
  disable entry := { entry with enabled := false }
  disable_key _ := rfl

instance : PayloadEntry PlanCatalogEntry where
  id := PlanCatalogEntry.id
  profileId := PlanCatalogEntry.profileId
  disable entry := { entry with enabled := false }
  disable_key _ := rfl

instance : PayloadEntry McpServerEntry where
  id := McpServerEntry.id
  profileId := McpServerEntry.profileId
  disable entry := { entry with enabled := false }
  disable_key _ := rfl

abbrev ItemKey := String × String

def itemKey {ε : Type} [PayloadEntry ε] (entry : ε) : ItemKey := (PayloadEntry.id entry, PayloadEntry.profileId entry)

structure KeyedDict (κ ε : Type) [DecidableEq κ] (keyOf : ε → κ) where
  items : Dict κ ε
  keyed : ∀ key entry, items.get? key = some entry → keyOf entry = key

namespace KeyedDict

variable {κ ε : Type} [DecidableEq κ] {keyOf : ε → κ}

def empty : KeyedDict κ ε keyOf := ⟨.empty, fun _ _ found => nomatch found⟩

def get? (dict : KeyedDict κ ε keyOf) (key : κ) : Option ε := dict.items.get? key

def put (dict : KeyedDict κ ε keyOf) (entry : ε) : KeyedDict κ ε keyOf where
  items := dict.items.set (keyOf entry) entry
  keyed key other found := by
    rw [Dict.get?_set] at found
    by_cases here : key = keyOf entry
    · rw [if_pos here] at found
      cases found
      exact here.symm
    · rw [if_neg here] at found
      exact dict.keyed key other found

def seed (dict : KeyedDict κ ε keyOf) (entries : List ε) : KeyedDict κ ε keyOf := entries.foldl put dict

theorem get?_put (dict : KeyedDict κ ε keyOf) (entry : ε) (key : κ) :
    (dict.put entry).get? key = if key = keyOf entry then some entry else dict.get? key :=
  Dict.get?_set dict.items (keyOf entry) key entry

@[simp] theorem get?_put_self (dict : KeyedDict κ ε keyOf) (entry : ε) :
    (dict.put entry).get? (keyOf entry) = some entry := by
  rw [get?_put, if_pos rfl]

theorem get?_put_of_ne (dict : KeyedDict κ ε keyOf) {entry : ε} {key : κ} (ne : key ≠ keyOf entry) :
    (dict.put entry).get? key = dict.get? key := by
  rw [get?_put, if_neg ne]

theorem keyOf_of_get? {dict : KeyedDict κ ε keyOf} {key : κ} {entry : ε} (found : dict.get? key = some entry) :
    keyOf entry = key :=
  dict.keyed key entry found

theorem map_get?_put {β : Type} (f : ε → β) (dict : KeyedDict κ ε keyOf) (entry : ε) (key : κ) :
    ((dict.put entry).get? key).map f = if key = keyOf entry then some (f entry) else (dict.get? key).map f := by
  rw [get?_put]
  by_cases here : key = keyOf entry
  · rw [if_pos here, if_pos here]
    rfl
  · rw [if_neg here, if_neg here]

theorem get?_put_stored {dict : KeyedDict κ ε keyOf} {key : κ} {entry : ε} (found : dict.get? key = some entry)
    (other : κ) : (dict.put entry).get? other = dict.get? other := by
  rw [get?_put, keyOf_of_get? found]
  by_cases here : other = key
  · rw [if_pos here, here, found]
  · rw [if_neg here]

def mapItems (dict : KeyedDict κ ε keyOf) (f : κ → ε → ε) (kept : ∀ key entry, keyOf (f key entry) = keyOf entry) :
    KeyedDict κ ε keyOf where
  items := dict.items.mapValues f
  keyed key other found := by
    rw [Dict.get?_mapValues, Option.map_eq_some_iff] at found
    obtain ⟨entry, held, rfl⟩ := found
    exact (kept key entry).trans (dict.keyed key entry held)

theorem get?_mapItems (dict : KeyedDict κ ε keyOf) {f : κ → ε → ε}
    (kept : ∀ key entry, keyOf (f key entry) = keyOf entry) (key : κ) :
    (dict.mapItems f kept).get? key = (dict.get? key).map (f key) := Dict.get?_mapValues dict.items f key

def select (dict : KeyedDict κ ε keyOf) (p : κ → ε → Bool) : List ε :=
  (dict.items.entries.filter fun item => p item.1 item.2).map Prod.snd

variable (dict : KeyedDict κ ε keyOf) (p : κ → ε → Bool)

theorem mem_select {entry : ε} :
    entry ∈ dict.select p ↔ dict.get? (keyOf entry) = some entry ∧ p (keyOf entry) entry = true := by
  constructor
  · intro member
    obtain ⟨⟨key, held⟩, kept, rfl⟩ := List.mem_map.mp member
    obtain ⟨inside, selected⟩ := List.mem_filter.mp kept
    have found : dict.get? key = some held := (Dict.mem_entries_iff _).mp inside
    rw [keyOf_of_get? found]
    exact ⟨found, selected⟩
  · intro ⟨found, selected⟩
    exact List.mem_map.mpr ⟨_, List.mem_filter.mpr ⟨(Dict.mem_entries_iff _).mpr found, selected⟩, rfl⟩

theorem nodup_select : (dict.select p).Nodup := by
  refine List.Nodup.map_on ?_ (dict.items.entries_nodup.filter _)
  intro first member second other same
  have firstFound : dict.get? first.1 = some first.2 := (Dict.mem_entries_iff _).mp (List.mem_filter.mp member).1
  have secondFound : dict.get? second.1 = some second.2 := (Dict.mem_entries_iff _).mp (List.mem_filter.mp other).1
  refine Prod.ext ?_ same
  rw [← keyOf_of_get? firstFound, same, keyOf_of_get? secondFound]

theorem select_put_of_unselected {entry : ε} (new : p (keyOf entry) entry = false)
    (old : ∀ held, dict.get? (keyOf entry) = some held → p (keyOf entry) held = false) :
    (dict.put entry).select p = dict.select p :=
  congrArg (List.map Prod.snd) (Assoc.filter_set_of_unselected new old)

theorem put_stored {key : κ} {entry : ε} (found : dict.get? key = some entry) : dict.put entry = dict := by
  obtain ⟨⟨entries, nodup⟩, keyed⟩ := dict
  have named : keyOf entry = key := keyed key entry found
  subst named
  simp only [put, Dict.set, Assoc.set_stored found]

theorem select_eq_nil_iff : dict.select p = [] ↔ ∀ key entry, dict.get? key = some entry → p key entry = false := by
  rw [List.eq_nil_iff_forall_not_mem]
  constructor
  · intro none key entry found
    have unselected := none entry
    rw [mem_select, keyOf_of_get? found] at unselected
    exact Bool.eq_false_iff.mpr fun selected => unselected ⟨found, selected⟩
  · intro none entry member
    obtain ⟨found, selected⟩ := (mem_select dict p).mp member
    rw [none _ _ found] at selected
    exact Bool.false_ne_true selected

theorem select_eq_singleton_iff {key : κ} {entry : ε} (found : dict.get? key = some entry) :
    dict.select p = [entry] ↔ ∀ other, (∃ item, dict.get? other = some item ∧ p other item = true) ↔ other = key := by
  rw [← List.perm_singleton, List.perm_ext_iff_of_nodup (dict.nodup_select p) (List.nodup_singleton entry)]
  constructor
  · intro only other
    constructor
    · intro ⟨item, held, selected⟩
      have same := (only item).mp ((mem_select dict p).mpr (by rw [keyOf_of_get? held]; exact ⟨held, selected⟩))
      rw [← keyOf_of_get? held, List.mem_singleton.mp same, keyOf_of_get? found]
    · intro same
      have kept := (mem_select dict p).mp ((only entry).mpr List.mem_cons_self)
      rw [keyOf_of_get? found] at kept
      exact ⟨entry, same ▸ kept⟩
  · intro only item
    rw [mem_select, List.mem_singleton]
    constructor
    · intro kept
      have same := (only (keyOf item)).mp ⟨item, kept⟩
      rw [same, found] at kept
      exact (Option.some.inj kept.1).symm
    · intro same
      obtain ⟨held, kept⟩ := (only key).mpr rfl
      rw [same, keyOf_of_get? found]
      rw [found] at kept
      exact ⟨found, (Option.some.inj kept.1) ▸ kept.2⟩

end KeyedDict

abbrev JsonPayloadCatalog (ε : Type) [PayloadEntry ε] := KeyedDict ItemKey ε itemKey

namespace JsonPayloadCatalog

variable {ε : Type} [PayloadEntry ε]

def getItem (catalog : JsonPayloadCatalog ε) (itemId profileId : String) : Option ε := catalog.get? (itemId, profileId)

/-- The entry as `merge` leaves it, where the catalog has one under its key. -/
def merged (catalog : JsonPayloadCatalog ε) (merge : ε → ε → ε) (entry : ε) : ε :=
  match catalog.get? (itemKey entry) with
  | some existing => merge entry existing
  | none => entry

def upsertItem (catalog : JsonPayloadCatalog ε) (merge : ε → ε → ε) (entry : ε) : JsonPayloadCatalog ε × ε :=
  (catalog.put (catalog.merged merge entry), catalog.merged merge entry)

def softDelete (catalog : JsonPayloadCatalog ε) (itemId profileId : String) : JsonPayloadCatalog ε × Bool :=
  match catalog.get? (itemId, profileId) with
  | none => (catalog, false)
  | some entry => (catalog.put (PayloadEntry.disable entry), true)

def ids (catalog : JsonPayloadCatalog ε) : List String := catalog.items.entries.map fun item => PayloadEntry.id item.2

section

variable {β : Type} (f : ε → β) (merge : ε → ε → ε) (catalog : JsonPayloadCatalog ε)

theorem map_merged_new (new : ∀ new existing, f (merge new existing) = f new) (entry : ε) :
    f (catalog.merged merge entry) = f entry := by
  unfold merged
  cases catalog.get? (itemKey entry) with
  | none => rfl
  | some existing => exact new entry existing

theorem map_merged_stored (stored : ∀ new existing, f (merge new existing) = f existing) (entry : ε) :
    f (catalog.merged merge entry) = ((catalog.get? (itemKey entry)).map f).getD (f entry) := by
  unfold merged
  cases catalog.get? (itemKey entry) with
  | none => rfl
  | some existing => exact stored entry existing

theorem map_get?_upsertItem (kept : ∀ new existing, itemKey (merge new existing) = itemKey new) (entry : ε)
    (key : ItemKey) : ((catalog.upsertItem merge entry).1.get? key).map f =
      if key = itemKey entry then some (f (catalog.merged merge entry)) else (catalog.get? key).map f := by
  unfold upsertItem
  rw [KeyedDict.map_get?_put, map_merged_new itemKey merge catalog kept]

end

end JsonPayloadCatalog

abbrev InMemorySkillCatalog := JsonPayloadCatalog SkillCatalogEntry

abbrev InMemoryPlanCatalog := JsonPayloadCatalog PlanCatalogEntry

abbrev InMemoryMcpServerCatalog := JsonPayloadCatalog McpServerEntry

def mergeSkillVersion (new existing : SkillCatalogEntry) : SkillCatalogEntry :=
  { new with version := existing.version + 1, quality := existing.quality }

def mergePlanVersion (new existing : PlanCatalogEntry) : PlanCatalogEntry :=
  { new with version := existing.version + 1 }

def InMemorySkillCatalog.upsertSkill (catalog : InMemorySkillCatalog) (entry : SkillCatalogEntry) :
    InMemorySkillCatalog × SkillCatalogEntry := JsonPayloadCatalog.upsertItem catalog mergeSkillVersion entry

def InMemoryPlanCatalog.upsertPlan (catalog : InMemoryPlanCatalog) (entry : PlanCatalogEntry) :
    InMemoryPlanCatalog × PlanCatalogEntry := JsonPayloadCatalog.upsertItem catalog mergePlanVersion entry

def InMemoryMcpServerCatalog.upsertServer (catalog : InMemoryMcpServerCatalog) (entry : McpServerEntry) :
    InMemoryMcpServerCatalog × McpServerEntry := JsonPayloadCatalog.upsertItem catalog (fun new _ => new) entry

def incrementedUsage (error : Bool) (quality : SkillQuality) : SkillQuality :=
  if error then { quality with loadErrors := quality.loadErrors + 1 }
  else { quality with usageCount := quality.usageCount + 1 }

def InMemorySkillCatalog.incrementUsage (catalog : InMemorySkillCatalog) (skillId profileId : String) (error : Bool) :
    InMemorySkillCatalog :=
  match catalog.get? (skillId, profileId) with
  | none => catalog
  | some entry => catalog.put { entry with quality := incrementedUsage error entry.quality }

structure InMemoryAgentCatalog where
  agents : KeyedDict String AgentCatalogEntry AgentCatalogEntry.name
  versions : Dict String Int

namespace InMemoryAgentCatalog

def getAgent (catalog : InMemoryAgentCatalog) (name : String) : Option AgentCatalogEntry := catalog.agents.get? name

def listed (profileId : String) (enabledOnly : Bool) (_name : String) (item : AgentCatalogEntry) : Bool :=
  (profileId = "" ∨ item.profileId = profileId) ∧ (enabledOnly → item.enabled)

def selectAgents (catalog : InMemoryAgentCatalog) (profileId : String) (enabledOnly : Bool) : List AgentCatalogEntry :=
  catalog.agents.select (listed profileId enabledOnly)

def listAgents (catalog : InMemoryAgentCatalog) (profileId : String) (enabledOnly : Bool) : List AgentCatalogEntry :=
  (catalog.selectAgents profileId enabledOnly).insertionSort fun first second => first.name ≤ second.name

def saved (existing : Option AgentCatalogEntry) (entry : AgentCatalogEntry) : AgentCatalogEntry :=
  match existing with
  | some existing => { entry with version := existing.version + 1, quality := existing.quality, source := .api }
  | none => { entry with source := .api }

theorem name_saved (existing : Option AgentCatalogEntry) (entry : AgentCatalogEntry) :
    (saved existing entry).name = entry.name := by
  cases existing <;> rfl

def upsertAgent (catalog : InMemoryAgentCatalog) (entry : AgentCatalogEntry) :
    InMemoryAgentCatalog × AgentCatalogEntry :=
  let entry := saved (catalog.getAgent entry.name) entry
  ({ agents := catalog.agents.put entry
     versions := catalog.versions.set entry.profileId ((catalog.versions.get? entry.profileId).getD 0 + 1) }, entry)

def deleteAgent (catalog : InMemoryAgentCatalog) (name profileId : String) : InMemoryAgentCatalog × Bool :=
  match catalog.getAgent name with
  | none => (catalog, false)
  | some entry =>
    if entry.profileId ≠ profileId then (catalog, false)
    else ({ catalog with agents := catalog.agents.put { entry with enabled := false } }, true)

end InMemoryAgentCatalog

end CysAgi.Catalog
