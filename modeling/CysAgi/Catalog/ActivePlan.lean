import CysAgi.Base.Listing
import CysAgi.Base.Selection
import CysAgi.Base.Transition
import CysAgi.Catalog.Quality

open Py Selection

namespace CysAgi.Catalog

namespace InMemoryPlanCatalog

def listed (profileId : String) (_key : ItemKey) (item : PlanCatalogEntry) : Bool :=
  (profileId = "" ∨ item.profileId = profileId) ∧ item.enabled

def isActive (profileId : String) (key : ItemKey) (item : PlanCatalogEntry) : Bool :=
  key.2 = profileId ∧ item.enabled ∧ item.active

variable (catalog : InMemoryPlanCatalog)

def selectPlans (profileId : String) : List PlanCatalogEntry := catalog.select (listed profileId)

def selectActive (profileId : String) : List PlanCatalogEntry := catalog.select (isActive profileId)

def listPlans (profileId : String) : List PlanCatalogEntry :=
  (selectPlans catalog profileId).insertionSort fun first second => first.id ≤ second.id

def loadActive (profileId : String) : List PlanCatalogEntry :=
  if selectActive catalog profileId = [] then listPlans catalog profileId else selectActive catalog profileId

/-- `text == (first, second)`: a text is no tuple. -/
def equalsPair (_text : String) (_pair : ItemKey) : Bool := false

def activated (planId profileId : String) (key : ItemKey) (item : PlanCatalogEntry) : PlanCatalogEntry :=
  if key.2 = profileId then { item with active := equalsPair key.1 (planId, profileId) } else item

theorem itemKey_activated (planId profileId : String) (key : ItemKey) (item : PlanCatalogEntry) :
    itemKey (activated planId profileId key item) = itemKey item := by
  unfold activated
  split <;> rfl

def activatePlan (planId profileId : String) : InMemoryPlanCatalog × Option PlanCatalogEntry :=
  let catalog := catalog.mapItems (activated planId profileId) (itemKey_activated planId profileId)
  (catalog, catalog.get? (planId, profileId))

end InMemoryPlanCatalog

/-- The rows of `plan_catalog`: their payloads, and the column `active`, which `activate_plan` rewrites without the
    payload. -/
structure PlanTable where
  payloads : PostgresPlanCatalog
  active : ItemKey → Bool

namespace PlanTable

variable (table : PlanTable)

def getPlan (planId profileId : String) : Option PlanCatalogEntry := table.payloads.getItem planId profileId

def upsertPlan (entry : PlanCatalogEntry) : PlanTable × PlanCatalogEntry :=
  let written := PostgresPlanCatalog.upsertPlan table.payloads entry
  ({ payloads := written.1, active := Function.update table.active (itemKey entry) written.2.active }, written.2)

def activatePlan (planId profileId : String) : PlanTable × Option PlanCatalogEntry :=
  let cleared := fun key : ItemKey => if key.2 = profileId then false else table.active key
  let active := fun key => if key = (planId, profileId) then true else cleared key
  ({ table with active }, table.getPlan planId profileId)

def listed (profileId : String) (key : ItemKey) (payload : PlanCatalogEntry) : Bool :=
  (profileId = "" ∨ key.2 = profileId) ∧ payload.enabled

def isActive (profileId : String) (key : ItemKey) (payload : PlanCatalogEntry) : Bool :=
  key.2 = profileId ∧ payload.enabled ∧ table.active key

def selectPlans (profileId : String) : List PlanCatalogEntry := table.payloads.select (listed profileId)

def selectActive (profileId : String) : List PlanCatalogEntry := table.payloads.select (table.isActive profileId)

/-- What `load_active` may answer. Its queries are ordered by the id only. -/
def LoadActive (profileId : String) (answer : List PlanCatalogEntry) : Prop :=
  if table.selectActive profileId = [] then Listing.OrderedBy PlanCatalogEntry.id (table.selectPlans profileId) answer
  else Listing.OrderedBy PlanCatalogEntry.id (table.selectActive profileId) answer

end PlanTable

inductive PlanCatalog where
  | inMemory (catalog : InMemoryPlanCatalog)
  | postgres (table : PlanTable)

namespace PlanCatalog

def getPlan : PlanCatalog → String → String → Option PlanCatalogEntry
  | inMemory catalog, planId, profileId => catalog.getItem planId profileId
  | postgres table, planId, profileId => table.getPlan planId profileId

def LoadActive : PlanCatalog → String → List PlanCatalogEntry → Prop
  | inMemory catalog, profileId, answer => answer = InMemoryPlanCatalog.loadActive catalog profileId
  | postgres table, profileId, answer => table.LoadActive profileId answer

def upsertPlan : PlanCatalog → PlanCatalogEntry → PlanCatalog
  | inMemory catalog, entry => inMemory (InMemoryPlanCatalog.upsertPlan catalog entry).1
  | postgres table, entry => postgres (table.upsertPlan entry).1

def activatePlan : PlanCatalog → String → String → PlanCatalog
  | inMemory catalog, planId, profileId => inMemory (InMemoryPlanCatalog.activatePlan catalog planId profileId).1
  | postgres table, planId, profileId => postgres (table.activatePlan planId profileId).1

/-- `UpdatePlanQuality.record_match`, which writes back the plan that it read. -/
def recordMatch : PlanCatalog → String → String → Int → PlanCatalog
  | inMemory catalog, planId, profileId, jobs =>
    inMemory (CatalogService.recordMatch .inMemory catalog planId profileId jobs)
  | postgres table, planId, profileId, jobs =>
    match table.getPlan planId profileId with
    | none => postgres table
    | some entry => postgres (table.upsertPlan { entry with quality := learnedMatch jobs entry.quality }).1

def execute (python : BodyLibrary) (catalog : PlanCatalog) (planId : String) (body : JsonDict) : PlanCatalog :=
  match UpsertPlan.entry python planId body with
  | .error _ => catalog
  | .ok entry => catalog.upsertPlan entry

end PlanCatalog

inductive PlanCall where
  | upsertPlan (entry : PlanCatalogEntry)
  | recordMatch (planId profileId : String) (jobs : Int)
  | execute (planId : String) (body : JsonDict)

namespace PlanCatalog

def step (python : BodyLibrary) (catalog : PlanCatalog) : PlanCall → Option PlanCatalog
  | .upsertPlan entry => some (catalog.upsertPlan entry)
  | .recordMatch planId profileId jobs => some (catalog.recordMatch planId profileId jobs)
  | .execute planId body => some (catalog.execute python planId body)

def LoadsOnly (planId profileId : String) (catalog : PlanCatalog) : Prop :=
  ∃ entry, catalog.getPlan planId profileId = some entry ∧
    ∀ answer, catalog.LoadActive profileId answer ↔ answer = [entry]

def flagsOf (entry : PlanCatalogEntry) : Flags := { enabled := entry.enabled, active := entry.active }

def flags : PlanCatalog → ItemKey → Option Flags
  | inMemory catalog, key => (catalog.get? key).map flagsOf
  | postgres table, key =>
    (table.payloads.get? key).map fun payload => { enabled := payload.enabled, active := table.active key }

def ofProfile (profileId : String) (key : ItemKey) : Prop := key.2 = profileId

/-- The plans that `list_plans` gives for the profile. -/
def listedFor (profileId : String) (key : ItemKey) : Prop := profileId = "" ∨ key.2 = profileId

theorem exists_loaded_iff (dict : JsonPayloadCatalog PlanCatalogEntry) (chosen on : ItemKey → PlanCatalogEntry → Bool)
    {group scope : ItemKey → Prop} {table : ItemKey → Option Flags} {target : ItemKey}
    (tellsChosen : ∀ key, Chosen group table key ↔ ∃ item, dict.get? key = some item ∧ chosen key item = true)
    (tellsOn : ∀ key, On scope table key ↔ ∃ item, dict.get? key = some item ∧ on key item = true) :
    (∃ entry, dict.get? target = some entry ∧
        (if dict.select chosen = [] then dict.select on else dict.select chosen) = [entry]) ↔
      Only group scope table target := by
  constructor
  · intro loads
    obtain ⟨entry, found, loaded⟩ := loads
    split at loaded
    · rename_i none
      right
      constructor
      · intro key here
        obtain ⟨item, held, selected⟩ := (tellsChosen key).mp here
        rw [(dict.select_eq_nil_iff chosen).mp none key item held] at selected
        exact Bool.false_ne_true selected
      · intro key
        rw [tellsOn]
        exact (dict.select_eq_singleton_iff on found).mp loaded key
    · left
      intro key
      rw [tellsChosen]
      exact (dict.select_eq_singleton_iff chosen found).mp loaded key
  · intro only
    rcases only with only | ⟨none, only⟩
    · obtain ⟨entry, found, -⟩ := (tellsChosen target).mp ((only target).mpr rfl)
      refine ⟨entry, found, ?_⟩
      have one : dict.select chosen = [entry] := by
        rw [dict.select_eq_singleton_iff chosen found]
        intro key
        rw [← tellsChosen, only]
      rw [one, if_neg (List.cons_ne_nil _ _)]
    · obtain ⟨entry, found, -⟩ := (tellsOn target).mp ((only target).mpr rfl)
      refine ⟨entry, found, ?_⟩
      have empty : dict.select chosen = [] := by
        rw [dict.select_eq_nil_iff]
        intro key item held
        exact Bool.eq_false_iff.mpr fun selected => none key ((tellsChosen key).mpr ⟨item, held, selected⟩)
      rw [if_pos empty, dict.select_eq_singleton_iff on found]
      intro key
      rw [← tellsOn, only]

theorem loadActive_eq_iff (catalog : InMemoryPlanCatalog) (profileId : String) (entry : PlanCatalogEntry) :
    InMemoryPlanCatalog.loadActive catalog profileId = [entry] ↔
      (if InMemoryPlanCatalog.selectActive catalog profileId = [] then InMemoryPlanCatalog.selectPlans catalog profileId
        else InMemoryPlanCatalog.selectActive catalog profileId) = [entry] := by
  unfold InMemoryPlanCatalog.loadActive InMemoryPlanCatalog.listPlans
  split
  · rw [← List.perm_singleton, ← List.perm_singleton]
    exact (List.perm_insertionSort _ _).congr_left _
  · rfl

theorem LoadActive_only_iff (table : PlanTable) (profileId : String) (entry : PlanCatalogEntry) :
    (∀ answer, table.LoadActive profileId answer ↔ answer = [entry]) ↔
      (if table.selectActive profileId = [] then table.selectPlans profileId else table.selectActive profileId) =
        [entry] := by
  unfold PlanTable.LoadActive
  split <;> exact Listing.orderedBy_only_iff

theorem loadsOnly_iff (catalog : PlanCatalog) (planId profileId : String) :
    catalog.LoadsOnly planId profileId ↔
      Only (ofProfile profileId) (listedFor profileId) catalog.flags (planId, profileId) := by
  cases catalog with
  | inMemory catalog =>
    rw [← exists_loaded_iff catalog (InMemoryPlanCatalog.isActive profileId) (InMemoryPlanCatalog.listed profileId)]
    · refine exists_congr fun entry => and_congr_right fun _ => ?_
      refine Iff.trans ?_ (loadActive_eq_iff catalog profileId entry)
      exact ⟨fun only => ((only _).mp rfl), fun loaded answer => by rw [← loaded]; rfl⟩
    · intro key
      simp only [Chosen, ofProfile, flags, InMemoryPlanCatalog.isActive, flagsOf, Option.map_eq_some_iff,
        Flags.mk.injEq, decide_eq_true_eq]
      exact exists_and_left.symm.trans (exists_congr fun _ => and_left_comm)
    · intro key
      have keyed : ∀ item, catalog.get? key = some item → item.profileId = key.2 :=
        fun item held => congrArg Prod.snd (KeyedDict.keyOf_of_get? held)
      simp only [On, listedFor, flags, InMemoryPlanCatalog.listed, flagsOf, Option.map_eq_some_iff, decide_eq_true_eq]
      constructor
      · intro on
        obtain ⟨scope, _, ⟨item, held, rfl⟩, enabled⟩ := on
        exact ⟨item, held, by rw [keyed item held]; exact scope, enabled⟩
      · intro shown
        obtain ⟨item, held, scope, enabled⟩ := shown
        rw [keyed item held] at scope
        exact ⟨scope, _, ⟨item, held, rfl⟩, enabled⟩
  | postgres table =>
    rw [← exists_loaded_iff table.payloads (table.isActive profileId) (PlanTable.listed profileId)]
    · exact exists_congr fun entry => and_congr_right fun _ => LoadActive_only_iff table profileId entry
    · intro key
      simp only [Chosen, ofProfile, flags, PlanTable.isActive, Option.map_eq_some_iff, Flags.mk.injEq,
        decide_eq_true_eq]
      exact exists_and_left.symm.trans (exists_congr fun _ => and_left_comm)
    · intro key
      simp [On, listedFor, flags, PlanTable.listed, and_left_comm]

theorem flags_upsertPlan (catalog : PlanCatalog) (entry : PlanCatalogEntry) :
    (catalog.upsertPlan entry).flags = write catalog.flags (itemKey entry) (flagsOf entry) := by
  funext key
  rw [write, Function.update_apply]
  cases catalog with
  | inMemory catalog =>
    have kept : flagsOf (catalog.merged mergePlanVersion entry) = flagsOf entry :=
      JsonPayloadCatalog.map_merged_new flagsOf mergePlanVersion catalog (fun _ _ => rfl) entry
    rw [← kept]
    exact JsonPayloadCatalog.map_get?_upsertItem flagsOf mergePlanVersion catalog (fun _ _ => rfl) entry key
  | postgres table =>
    let merge := PostgresPlanCatalog.mergePlanVersion
    have upserted : PostgresPlanCatalog.upsertPlan table.payloads entry =
        JsonPayloadCatalog.upsertItem table.payloads merge entry := PostgresJsonCatalog.upsertItem_eq _ _ _
    have kept : flagsOf (JsonPayloadCatalog.merged table.payloads merge entry) = flagsOf entry :=
      JsonPayloadCatalog.map_merged_new flagsOf merge table.payloads (fun _ _ => rfl) entry
    simp only [upsertPlan, PlanTable.upsertPlan, flags, upserted, JsonPayloadCatalog.map_get?_upsertItem _ merge
      table.payloads (fun _ _ => rfl) entry key, Function.update_apply, ← kept]
    split <;> rfl

/-- What a call writes: a plan, and the flags that it has afterwards. -/
def written (python : BodyLibrary) (catalog : PlanCatalog) : PlanCall → Option (ItemKey × Flags)
  | .upsertPlan entry => some (itemKey entry, flagsOf entry)
  | .recordMatch planId profileId _ =>
    (catalog.getPlan planId profileId).map fun entry => ((planId, profileId), flagsOf entry)
  | .execute planId body =>
    match UpsertPlan.entry python planId body with
    | .error _ => none
    | .ok entry => some (itemKey entry, { enabled := entry.enabled, active := false })

theorem flags_put (catalog : InMemoryPlanCatalog) (entry : PlanCatalogEntry) :
    (inMemory (catalog.put entry)).flags = write (inMemory catalog).flags (itemKey entry) (flagsOf entry) := by
  funext key
  rw [write, Function.update_apply]
  exact KeyedDict.map_get?_put flagsOf catalog entry key

theorem flags_recordMatch_some (catalog : PlanCatalog) {planId profileId : String} (jobs : Int)
    {entry : PlanCatalogEntry} (found : catalog.getPlan planId profileId = some entry) :
    (catalog.recordMatch planId profileId jobs).flags = write catalog.flags (planId, profileId) (flagsOf entry) := by
  have key : itemKey entry = (planId, profileId) := by
    cases catalog with
    | inMemory catalog => exact KeyedDict.keyOf_of_get? found
    | postgres table => exact KeyedDict.keyOf_of_get? found
  let matched := { entry with quality := learnedMatch jobs entry.quality }
  rw [← key]
  cases catalog with
  | inMemory catalog =>
    have held : catalog.getItem planId profileId = some entry := found
    have recorded : (inMemory catalog).recordMatch planId profileId jobs =
        (inMemory (catalog.put matched)).upsertPlan matched := by
      simp only [recordMatch, CatalogService.recordMatch, held]
      rfl
    rw [recorded, flags_upsertPlan, flags_put]
    exact Function.update_idem _ _ _
  | postgres table =>
    have held : table.getPlan planId profileId = some entry := found
    have recorded : (postgres table).recordMatch planId profileId jobs = (postgres table).upsertPlan matched := by
      simp only [recordMatch, held]
      rfl
    rw [recorded, flags_upsertPlan]
    rfl

theorem recordMatch_none (catalog : PlanCatalog) {planId profileId : String} (jobs : Int)
    (absent : catalog.getPlan planId profileId = none) : catalog.recordMatch planId profileId jobs = catalog := by
  cases catalog with
  | inMemory catalog =>
    have none : catalog.getItem planId profileId = none := absent
    simp only [recordMatch, CatalogService.recordMatch, none]
  | postgres table =>
    have none : table.getPlan planId profileId = none := absent
    simp only [recordMatch, none]

theorem step_written {python : BodyLibrary} {catalog next : PlanCatalog} {call : PlanCall}
    (taken : catalog.step python call = some next) :
    next.flags = match catalog.written python call with
      | none => catalog.flags
      | some (key, flags) => write catalog.flags key flags := by
  cases call with
  | upsertPlan entry =>
    cases taken
    exact flags_upsertPlan catalog entry
  | recordMatch planId profileId jobs =>
    cases taken
    simp only [written]
    cases found : catalog.getPlan planId profileId with
    | none => rw [catalog.recordMatch_none jobs found]; rfl
    | some entry => exact catalog.flags_recordMatch_some jobs found
  | execute planId body =>
    cases taken
    simp only [written, execute]
    cases made : UpsertPlan.entry python planId body with
    | error raised => rfl
    | ok entry =>
      refine (flags_upsertPlan catalog entry).trans ?_
      rw [flagsOf, UpsertPlan.entry_inactive made]

/-- What the call writes leaves the plan the only one that `load_active` gives: another plan of the profile is not
    left enabled and active, or, where the plan is given for being the only enabled one, another plan is not left
    enabled. The plan itself is left enabled, and active unless it is the only enabled one. -/
def KeepsOnly (python : BodyLibrary) (planId profileId : String) (catalog : PlanCatalog) (call : PlanCall) : Prop :=
  ∀ key flags, catalog.written python call = some (key, flags) →
    Spares (ofProfile profileId) (listedFor profileId) catalog.flags (planId, profileId) key flags

theorem loadsOnly_step_iff {python : BodyLibrary} {planId profileId : String} {catalog next : PlanCatalog}
    {call : PlanCall} (only : catalog.LoadsOnly planId profileId) (taken : catalog.step python call = some next) :
    next.LoadsOnly planId profileId ↔ catalog.KeepsOnly python planId profileId call := by
  rw [loadsOnly_iff] at only ⊢
  rw [step_written taken]
  unfold KeepsOnly
  cases catalog.written python call with
  | none => simp [only]
  | some change =>
    obtain ⟨key, flags⟩ := change
    have exactly : Only (ofProfile profileId) (listedFor profileId) (write catalog.flags key flags)
        (planId, profileId) ↔ _ := only_write_iff (fun _ => Or.inr) rfl only
    simp [exactly]

/-- `activate_plan` leaves the plan the only one that `load_active` gives: in the table it has to be there and
    enabled, in memory it has to be the only enabled plan that `list_plans` gives. -/
def Activates (planId profileId : String) : PlanCatalog → Prop
  | inMemory catalog =>
    ∀ key, On (listedFor profileId) (inMemory catalog).flags key ↔ key = (planId, profileId)
  | postgres table => ∃ entry, table.getPlan planId profileId = some entry ∧ entry.enabled = true

theorem loadsOnly_activatePlan_iff (catalog : PlanCatalog) (planId profileId : String) :
    (catalog.activatePlan planId profileId).LoadsOnly planId profileId ↔ catalog.Activates planId profileId := by
  rw [loadsOnly_iff]
  cases catalog with
  | inMemory catalog =>
    have remarked : Remarked (ofProfile profileId) (fun _ => false) (inMemory catalog).flags
        ((inMemory catalog).activatePlan planId profileId).flags := by
      have activated (key : ItemKey) : ((inMemory catalog).activatePlan planId profileId).flags key =
          ((catalog.get? key).map (InMemoryPlanCatalog.activated planId profileId key)).map flagsOf :=
        congrArg (Option.map flagsOf)
          (KeyedDict.get?_mapItems catalog (InMemoryPlanCatalog.itemKey_activated planId profileId) key)
      constructor
      · intro key inside
        rw [activated, flags, Option.map_map, Option.map_map]
        refine congrArg (Option.map · _) (funext fun item => ?_)
        simp only [Function.comp, InMemoryPlanCatalog.activated, if_pos (show key.2 = profileId from inside)]
        rfl
      · intro key outside
        rw [activated, flags, Option.map_map]
        refine congrArg (Option.map · _) (funext fun item => ?_)
        simp only [Function.comp, InMemoryPlanCatalog.activated, if_neg (show ¬key.2 = profileId from outside)]
    exact only_unmarked_iff remarked
  | postgres table =>
    have remarked : Remarked (ofProfile profileId) (fun key => decide (key = (planId, profileId)))
        (postgres table).flags ((postgres table).activatePlan planId profileId).flags := by
      constructor
      · intro key inside
        simp only [activatePlan, PlanTable.activatePlan, flags, Option.map_map]
        refine congrArg (Option.map · _) (funext fun payload => ?_)
        by_cases here : key = (planId, profileId)
        · simp [here]
        · simp [here, show key.2 = profileId from inside]
      · intro key outside
        have other : key ≠ (planId, profileId) := fun here => outside (congrArg Prod.snd here)
        simp only [activatePlan, PlanTable.activatePlan, flags, if_neg other, show key.2 ≠ profileId from outside,
          if_false]
    refine (only_marked_iff remarked rfl).trans ?_
    simp [Activates, flags, PlanTable.getPlan, PostgresJsonCatalog.getItem]

/-- After an activation that takes hold, `load_active` gives the plan alone throughout exactly the runs whose calls
    all keep it. -/
theorem activated_always_iff (python : BodyLibrary) (catalog : PlanCatalog) (planId profileId : String)
    (calls : List PlanCall) :
    Transition.Always (step python) (LoadsOnly planId profileId) (catalog.activatePlan planId profileId) calls ↔
      catalog.Activates planId profileId ∧
        Transition.Guarded (step python) (KeepsOnly python planId profileId) (catalog.activatePlan planId profileId)
          calls := by
  have total : ∀ (s : PlanCatalog) (call : PlanCall), ∃ t, s.step python call = some t := by
    intro s call
    cases call <;> exact ⟨_, rfl⟩
  obtain ⟨last, ran⟩ := Transition.run_total total (catalog.activatePlan planId profileId) calls
  have runs (start : (catalog.activatePlan planId profileId).LoadsOnly planId profileId) :
      Transition.Always (step python) (LoadsOnly planId profileId) _ calls ↔
        Transition.Guarded (step python) (KeepsOnly python planId profileId) _ calls :=
    Transition.always_iff_guarded (fun _ => True) (fun _ _ _ _ _ _ _ => trivial)
      (fun _ _ _ _ only taken => loadsOnly_step_iff only taken) trivial start ran
  rw [← loadsOnly_activatePlan_iff]
  constructor
  · intro always
    exact ⟨always.head, (runs always.head).mp always⟩
  · intro ⟨start, guarded⟩
    exact (runs start).mpr guarded

def twoPlans : JsonPayloadCatalog PlanCatalogEntry := KeyedDict.empty.seed [{ id := "triage" }, { id := "hunt" }]

def activatedTable : PlanCatalog :=
  (postgres { payloads := twoPlans, active := fun _ => false }).activatePlan "triage" defaultProfileId

/-- In memory an activation leaves both plans, and in the table the next match of the plan ends it. -/
theorem activation_not_kept :
    ¬((inMemory twoPlans).activatePlan "triage" defaultProfileId).LoadsOnly "triage" defaultProfileId ∧
      activatedTable.LoadsOnly "triage" defaultProfileId ∧
      ¬(activatedTable.recordMatch "triage" defaultProfileId 1).LoadsOnly "triage" defaultProfileId := by
  have started : activatedTable.LoadsOnly "triage" defaultProfileId := by
    rw [activatedTable, loadsOnly_activatePlan_iff]
    exact ⟨_, rfl, rfl⟩
  refine ⟨?_, started, ?_⟩
  · rw [loadsOnly_activatePlan_iff]
    intro only
    have same := (only ("hunt", defaultProfileId)).mp ⟨.inr rfl, _, rfl, rfl⟩
    exact absurd (congrArg Prod.fst same) (by decide)
  · have next (s : PlanCatalog) : s.step plainBodies (.recordMatch "triage" defaultProfileId 1) =
        some (s.recordMatch "triage" defaultProfileId 1) := rfl
    rw [loadsOnly_step_iff started (next _)]
    intro kept
    have spared := kept ("triage", defaultProfileId) { enabled := true, active := false } rfl
    rw [Spares, if_pos rfl] at spared
    rcases spared.2 with active | alone
    · cases active
    · exact alone ("hunt", defaultProfileId) (by decide) ⟨.inr rfl, _, rfl, rfl⟩

end PlanCatalog

end CysAgi.Catalog
