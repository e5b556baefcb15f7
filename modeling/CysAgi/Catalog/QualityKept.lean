import CysAgi.Base.Learning
import CysAgi.Catalog.Quality

open Py

namespace CysAgi.Catalog

inductive QualityKey where
  | agent (name : String)
  | skill (key : ItemKey)
  | plan (key : ItemKey)
  deriving DecidableEq

@[reducible] def QualityOf : QualityKey → Type
  | .agent _ => PersonaQuality
  | .skill _ => SkillQuality
  | .plan _ => PlanQuality

def Catalogs.quality (s : Catalogs) : (key : QualityKey) → Option (QualityOf key)
  | .agent name => (s.agents.getAgent name).map AgentCatalogEntry.quality
  | .skill key => (s.skills.get? key).map SkillCatalogEntry.quality
  | .plan key => (s.plans.get? key).map PlanCatalogEntry.quality

/-- What the catalogs do with it: a table stores no update, and a plan in memory is edited back to the default. -/
def Backend.policy (backend : Backend) : QualityKey → Learning.Policy
  | .agent _ => { storesUpdates := backend.live, keepsOnEdit := true }
  | .skill _ => { storesUpdates := backend.live, keepsOnEdit := true }
  | .plan _ => { storesUpdates := backend.live, keepsOnEdit := !backend.live }

def CatalogService.change (service : CatalogService) (s : Catalogs) :
    QualityCall → Option (Learning.Change QualityOf)
  | .applyEvent event now =>
    some (.update (.agent event.persona) _ (learnedQuality_ne (service.emaAlpha event.profileId) now event))
  | .incrementUsage skillId profileId error =>
    some (.update (.skill (skillId, profileId)) _ (incrementedUsage_ne error))
  | .recordMatch planId profileId jobs => some (.update (.plan (planId, profileId)) _ (learnedMatch_ne jobs))
  | .upsertCatalogAgent name body => (service.upsertCatalogAgent s name body).2.toOption.map fun _ =>
    .edit (.agent name) ({} : PersonaQuality)
  | .upsertSkill skillId body => (service.upsertSkill s skillId body).2.toOption.map fun entry =>
    .edit (.skill (itemKey entry)) ({} : SkillQuality)
  | .upsertPlan planId body => (service.upsertPlan s planId body).2.toOption.map fun entry =>
    .edit (.plan (itemKey entry)) ({} : PlanQuality)

section

variable {agents : AgentCatalog}

theorem quality_saved (existing : Option AgentCatalogEntry) (entry : AgentCatalogEntry) :
    (InMemoryAgentCatalog.saved existing entry).quality =
      (existing.map AgentCatalogEntry.quality).getD entry.quality := by
  cases existing <;> rfl

theorem quality_upsertAgent (agents : AgentCatalog) (entry : AgentCatalogEntry) (name : String) :
    ((agents.upsertAgent entry).1.getAgent name).map AgentCatalogEntry.quality =
      if name = entry.name then
        some (((agents.getAgent entry.name).map AgentCatalogEntry.quality).getD entry.quality)
      else (agents.getAgent name).map AgentCatalogEntry.quality := by
  rw [AgentCatalog.getAgent_upsertAgent]
  by_cases here : name = entry.name
  · rw [if_pos here, if_pos here, AgentCatalog.upsertAgent_saved]
    exact congrArg some (quality_saved _ entry)
  · rw [if_neg here, if_neg here]

theorem quality_hold_upsertAgent (entry : AgentCatalogEntry) {original : AgentCatalogEntry}
    (found : agents.getAgent entry.name = some original) (name : String) :
    (((agents.hold entry).upsertAgent entry).1.getAgent name).map AgentCatalogEntry.quality =
      if agents.backend.live = true ∧ name = entry.name then some entry.quality
      else (agents.getAgent name).map AgentCatalogEntry.quality := by
  rw [quality_upsertAgent, AgentCatalog.getAgent_hold, AgentCatalog.getAgent_hold]
  by_cases here : name = entry.name
  · rw [if_pos here, here, found]
    by_cases live : agents.backend.live = true
    · rw [if_pos ⟨live, rfl⟩, if_pos ⟨live, rfl⟩]
      rfl
    · rw [if_neg fun both => live both.1, if_neg fun both => live both.1]
      rfl
  · rw [if_neg here, if_neg fun both => here both.2, if_neg fun both => here both.2]

theorem quality_applyEvent {service : CatalogService} {event : PersonaQualityEvent} {entry : AgentCatalogEntry}
    (found : agents.getAgent event.persona = some entry) (now : Rat) (name : String) :
    ((service.applyEvent agents event now).getAgent name).map AgentCatalogEntry.quality =
      if agents.backend.live = true ∧ name = event.persona then
        some (learnedQuality (service.emaAlpha event.profileId) now event entry.quality)
      else (agents.getAgent name).map AgentCatalogEntry.quality := by
  have named : entry.name = event.persona := AgentCatalog.name_of_getAgent found
  simp only [CatalogService.applyEvent, found]
  refine (quality_hold_upsertAgent { entry with quality := _ } (named ▸ found) name).trans ?_
  rw [← named]

end

theorem quality_upsertSkill (skills : JsonPayloadCatalog SkillCatalogEntry) (backend : Backend)
    (entry : SkillCatalogEntry) (key : ItemKey) :
    ((backend.upsertSkill skills entry).1.get? key).map SkillCatalogEntry.quality =
      if key = itemKey entry then
        some (((skills.get? (itemKey entry)).map SkillCatalogEntry.quality).getD entry.quality)
      else (skills.get? key).map SkillCatalogEntry.quality := by
  have stored := JsonPayloadCatalog.map_merged_stored SkillCatalogEntry.quality mergeSkillVersion skills
    (fun _ _ => rfl) entry
  rw [Backend.upsertSkill_eq]
  refine (JsonPayloadCatalog.map_get?_upsertItem _ mergeSkillVersion skills (fun _ _ => rfl) entry key).trans ?_
  rw [stored]

theorem quality_upsertPlan (plans : JsonPayloadCatalog PlanCatalogEntry) (backend : Backend)
    (entry : PlanCatalogEntry) (key : ItemKey) :
    ((backend.upsertPlan plans entry).1.get? key).map PlanCatalogEntry.quality =
      if key = itemKey entry then
        some (if backend.live = true then entry.quality
          else ((plans.get? (itemKey entry)).map PlanCatalogEntry.quality).getD entry.quality)
      else (plans.get? key).map PlanCatalogEntry.quality := by
  cases backend with
  | inMemory =>
    have new := JsonPayloadCatalog.map_merged_new PlanCatalogEntry.quality mergePlanVersion plans
      (fun _ _ => rfl) entry
    refine (JsonPayloadCatalog.map_get?_upsertItem _ mergePlanVersion plans (fun _ _ => rfl) entry key).trans ?_
    rw [new]
    rfl
  | postgres =>
    have stored := JsonPayloadCatalog.map_merged_stored PlanCatalogEntry.quality PostgresPlanCatalog.mergePlanVersion
      plans (fun _ _ => rfl) entry
    simp only [Backend.upsertPlan, PostgresPlanCatalog.upsertPlan, PostgresJsonCatalog.upsertItem_eq]
    refine (JsonPayloadCatalog.map_get?_upsertItem _ PostgresPlanCatalog.mergePlanVersion plans (fun _ _ => rfl)
      entry key).trans ?_
    rw [stored]
    rfl

theorem quality_incrementUsage {skills : JsonPayloadCatalog SkillCatalogEntry} {skillId profileId : String}
    {entry : SkillCatalogEntry} (found : skills.get? (skillId, profileId) = some entry) (backend : Backend)
    (error : Bool) (key : ItemKey) :
    ((backend.incrementUsage skills skillId profileId error).get? key).map SkillCatalogEntry.quality =
      if backend.live = true ∧ key = (skillId, profileId) then some (incrementedUsage error entry.quality)
      else (skills.get? key).map SkillCatalogEntry.quality := by
  have keyed : itemKey { entry with quality := incrementedUsage error entry.quality } = (skillId, profileId) :=
    (KeyedDict.keyOf_of_get? found : itemKey entry = _)
  cases backend with
  | inMemory =>
    simp only [Backend.incrementUsage, InMemorySkillCatalog.incrementUsage, found, Backend.live, true_and]
    rw [KeyedDict.map_get?_put, keyed]
  | postgres =>
    simp only [Backend.incrementUsage, PostgresSkillCatalog.incrementUsage, PostgresJsonCatalog.getItem, found]
    refine (quality_upsertSkill skills .postgres _ key).trans ?_
    rw [keyed, found, if_neg fun both : Backend.postgres.live = true ∧ _ => Bool.false_ne_true both.1]
    by_cases here : key = (skillId, profileId)
    · rw [if_pos here, here, found]
      rfl
    · rw [if_neg here]

theorem quality_recordMatch {plans : JsonPayloadCatalog PlanCatalogEntry} {planId profileId : String}
    {entry : PlanCatalogEntry} (found : plans.get? (planId, profileId) = some entry) (backend : Backend)
    (jobs : Int) (key : ItemKey) :
    ((CatalogService.recordMatch backend plans planId profileId jobs).get? key).map PlanCatalogEntry.quality =
      if backend.live = true ∧ key = (planId, profileId) then some (learnedMatch jobs entry.quality)
      else (plans.get? key).map PlanCatalogEntry.quality := by
  have keyed : itemKey { entry with quality := learnedMatch jobs entry.quality } = (planId, profileId) :=
    (KeyedDict.keyOf_of_get? found : itemKey entry = _)
  simp only [CatalogService.recordMatch, JsonPayloadCatalog.getItem, found]
  refine (quality_upsertPlan _ backend _ key).trans ?_
  rw [keyed]
  by_cases live : backend.live = true
  · rw [if_pos live, if_pos live]
    by_cases here : key = (planId, profileId)
    · rw [if_pos here, if_pos ⟨live, here⟩]
    · rw [if_neg here, if_neg fun both => here both.2, KeyedDict.get?_put_of_ne]
      rw [keyed]
      exact here
  · rw [if_neg live, if_neg live]
    by_cases here : key = (planId, profileId)
    · rw [if_pos here, if_neg fun both => live both.1, here, found]
      rfl
    · rw [if_neg here, if_neg fun both => live both.1]

section

variable {s : Catalogs} {live : Bool}

theorem quality_changed {t : Catalogs} {Index : Type} [DecidableEq Index] (kind : Index → QualityKey) (index : Index)
    {value : (other : Index) → Option (QualityOf (kind other))}
    (changed : ∀ other, t.quality (kind other) =
      if live = true ∧ other = index then value other else s.quality (kind other))
    (others : ∀ key, (∀ other, key ≠ kind other) → t.quality key = s.quality key) :
    t.quality = if live = true then Function.update s.quality (kind index) (value index) else s.quality := by
  apply Learning.eq_ite_update
  · refine (changed index).trans ?_
    simp only [and_true]
  · intro key ne
    by_cases inside : ∃ other, key = kind other
    · obtain ⟨other, rfl⟩ := inside
      exact (changed other).trans (if_neg fun both => ne (congrArg kind both.2))
    · exact others key (not_exists.mp inside)

theorem quality_agents {agents : AgentCatalog} {name : String} {value : Option PersonaQuality}
    (changed : ∀ other, (agents.getAgent other).map AgentCatalogEntry.quality =
      if live = true ∧ other = name then value else (s.agents.getAgent other).map AgentCatalogEntry.quality) :
    Catalogs.quality { s with agents } =
      if live = true then Function.update s.quality (.agent name) value else s.quality := by
  have moved : ∀ other, Catalogs.quality { s with agents } (.agent other) =
      if live = true ∧ other = name then value else s.quality (.agent other) := changed
  refine quality_changed QualityKey.agent name moved ?_
  rintro (other | other | other) outside
  exacts [absurd rfl (outside other), rfl, rfl]

theorem quality_skills {skills : JsonPayloadCatalog SkillCatalogEntry} {key : ItemKey} {value : Option SkillQuality}
    (changed : ∀ other, (skills.get? other).map SkillCatalogEntry.quality =
      if live = true ∧ other = key then value else (s.skills.get? other).map SkillCatalogEntry.quality) :
    Catalogs.quality { s with skills } =
      if live = true then Function.update s.quality (.skill key) value else s.quality := by
  have moved : ∀ other, Catalogs.quality { s with skills } (.skill other) =
      if live = true ∧ other = key then value else s.quality (.skill other) := changed
  refine quality_changed QualityKey.skill key moved ?_
  rintro (other | other | other) outside
  exacts [rfl, absurd rfl (outside other), rfl]

theorem quality_plans {plans : JsonPayloadCatalog PlanCatalogEntry} {key : ItemKey} {value : Option PlanQuality}
    (changed : ∀ other, (plans.get? other).map PlanCatalogEntry.quality =
      if live = true ∧ other = key then value else (s.plans.get? other).map PlanCatalogEntry.quality) :
    Catalogs.quality { s with plans } =
      if live = true then Function.update s.quality (.plan key) value else s.quality := by
  have moved : ∀ other, Catalogs.quality { s with plans } (.plan other) =
      if live = true ∧ other = key then value else s.quality (.plan other) := changed
  refine quality_changed QualityKey.plan key moved ?_
  rintro (other | other | other) outside
  exacts [rfl, rfl, absurd rfl (outside other)]

end

section

variable (service : CatalogService) (s : Catalogs)

theorem upsertCatalogAgent_cases (name : String) (body : JsonDict) :
    (∃ raised, service.upsertCatalogAgent s name body = (s, .error raised)) ∨
    ∃ entry, entry.name = name ∧ entry.quality = (s.agents.getAgent name).elim {} AgentCatalogEntry.quality ∧
      service.upsertCatalogAgent s name body =
        ({ s with agents := (s.agents.upsertAgent entry).1 }, .ok (s.agents.upsertAgent entry).2) := by
  unfold CatalogService.upsertCatalogAgent
  cases unknownSchema service.python service.schemaNames service.useDynamicCatalog body with
  | some raised => exact .inl ⟨raised, rfl⟩
  | none =>
    cases made : UpsertCatalogAgent.entry service.python (s.agents.getAgent name) name body with
    | error raised => exact .inl ⟨raised, rfl⟩
    | ok entry =>
      obtain ⟨named, kept⟩ := UpsertCatalogAgent.entry_made made
      cases gated : service.gated with
      | false => exact .inr ⟨entry, named, kept, rfl⟩
      | true =>
        cases checked : (checkAgent service.lib s.skills.ids entry).2 with
        | error raised =>
          refine .inl ⟨raised, ?_⟩
          simp only [if_true, saveAgent, checked]
          rfl
        | ok _ =>
          refine .inr ⟨(checkAgent service.lib s.skills.ids entry).1, ?_, ?_, ?_⟩
          · exact (checkAgent_name service.lib s.skills.ids entry).trans named
          · exact (checkAgent_map AgentCatalogEntry.quality service.lib s.skills.ids fun _ _ => rfl).trans kept
          · simp only [if_true, saveAgent, checked]
            rfl

theorem upsertSkill_cases (skillId : String) (body : JsonDict) :
    (∃ raised, service.upsertSkill s skillId body = (s, .error raised)) ∨
    ∃ entry : SkillCatalogEntry, entry.quality = {} ∧ service.upsertSkill s skillId body =
      ({ s with skills := (s.backend.upsertSkill s.skills entry).1 }, .ok (s.backend.upsertSkill s.skills entry).2) := by
  unfold CatalogService.upsertSkill
  cases made : UpsertSkill.entry service.python skillId body with
  | error raised => exact .inl ⟨raised, rfl⟩
  | ok entry =>
    cases checked : (checkSkill service.lib entry).2 with
    | error raised =>
      refine .inl ⟨raised, ?_⟩
      simp only [saveSkill, checked]
      rfl
    | ok _ =>
      refine .inr ⟨(checkSkill service.lib entry).1, ?_, ?_⟩
      · exact (checkSkill_map SkillCatalogEntry.quality service.lib fun _ _ => rfl).trans
          (UpsertSkill.entry_made made).2
      · simp only [saveSkill, checked]
        rfl

theorem upsertPlan_cases (planId : String) (body : JsonDict) :
    (∃ raised, service.upsertPlan s planId body = (s, .error raised)) ∨
    ∃ entry : PlanCatalogEntry, entry.quality = {} ∧ service.upsertPlan s planId body =
      ({ s with plans := (s.backend.upsertPlan s.plans entry).1 }, .ok (s.backend.upsertPlan s.plans entry).2) := by
  unfold CatalogService.upsertPlan
  cases made : UpsertPlan.entry service.python planId body with
  | error raised => exact .inl ⟨raised, rfl⟩
  | ok entry => exact .inr ⟨entry, UpsertPlan.entry_quality made, rfl⟩

end

section

variable (service : CatalogService) (s : Catalogs)

theorem applyEvent_refines (event : PersonaQualityEvent) (now : Rat) :
    (service.perform s (.applyEvent event now)).quality = Learning.stored s.backend.policy s.quality
      (.update (.agent event.persona) _ (learnedQuality_ne (service.emaAlpha event.profileId) now event)) := by
  cases found : s.agents.getAgent event.persona with
  | none =>
    rw [Learning.stored_update_none]
    · simp only [CatalogService.perform, CatalogService.applyEvent, found]
    · exact congrArg (Option.map AgentCatalogEntry.quality) found
  | some entry =>
    have held : s.quality (.agent event.persona) = some entry.quality :=
      congrArg (Option.map AgentCatalogEntry.quality) found
    apply quality_agents
    intro other
    rw [held]
    exact quality_applyEvent found now other

theorem incrementUsage_refines (skillId profileId : String) (error : Bool) :
    (service.perform s (.incrementUsage skillId profileId error)).quality =
      Learning.stored s.backend.policy s.quality
        (.update (.skill (skillId, profileId)) _ (incrementedUsage_ne error)) := by
  cases found : s.skills.get? (skillId, profileId) with
  | none =>
    rw [Learning.stored_update_none]
    · exact congrArg (fun skills => Catalogs.quality { s with skills })
        (Backend.incrementUsage_none s.skills found s.backend error)
    · exact congrArg (Option.map SkillCatalogEntry.quality) found
  | some entry =>
    have held : s.quality (.skill (skillId, profileId)) = some entry.quality :=
      congrArg (Option.map SkillCatalogEntry.quality) found
    apply quality_skills
    intro other
    rw [held]
    exact quality_incrementUsage found s.backend error other

theorem recordMatch_refines (planId profileId : String) (jobs : Int) :
    (service.perform s (.recordMatch planId profileId jobs)).quality =
      Learning.stored s.backend.policy s.quality (.update (.plan (planId, profileId)) _ (learnedMatch_ne jobs)) := by
  cases found : s.plans.get? (planId, profileId) with
  | none =>
    rw [Learning.stored_update_none]
    · simp only [CatalogService.perform, CatalogService.recordMatch, JsonPayloadCatalog.getItem, found]
    · exact congrArg (Option.map PlanCatalogEntry.quality) found
  | some entry =>
    have held : s.quality (.plan (planId, profileId)) = some entry.quality :=
      congrArg (Option.map PlanCatalogEntry.quality) found
    apply quality_plans
    intro other
    rw [held]
    exact quality_recordMatch found s.backend jobs other

theorem upsertCatalogAgent_refines (name : String) (body : JsonDict) :
    (service.perform s (.upsertCatalogAgent name body)).quality =
      (service.change s (.upsertCatalogAgent name body)).elim s.quality
        (Learning.stored s.backend.policy s.quality) := by
  rcases upsertCatalogAgent_cases service s name body with ⟨raised, same⟩ | ⟨entry, rfl, kept, same⟩
  · simp only [CatalogService.perform, CatalogService.change, same]
    rfl
  · simp only [CatalogService.perform, CatalogService.change, same]
    have changed : ∀ other, ((s.agents.upsertAgent entry).1.getAgent other).map AgentCatalogEntry.quality =
        if true = true ∧ other = entry.name then some ((s.quality (.agent entry.name)).getD {})
        else (s.agents.getAgent other).map AgentCatalogEntry.quality := by
      intro other
      rw [quality_upsertAgent, kept]
      simp only [true_and, Catalogs.quality]
      cases s.agents.getAgent entry.name <;> rfl
    exact (quality_agents changed).trans (if_pos rfl)

theorem upsertSkill_refines (skillId : String) (body : JsonDict) :
    (service.perform s (.upsertSkill skillId body)).quality =
      (service.change s (.upsertSkill skillId body)).elim s.quality (Learning.stored s.backend.policy s.quality) := by
  rcases upsertSkill_cases service s skillId body with ⟨raised, same⟩ | ⟨entry, fresh, same⟩
  · simp only [CatalogService.perform, CatalogService.change, same]
    rfl
  · have keyed : itemKey (s.backend.upsertSkill s.skills entry).2 = itemKey entry := by
      rw [Backend.upsertSkill_eq]
      exact JsonPayloadCatalog.map_merged_new itemKey mergeSkillVersion s.skills (fun _ _ => rfl) entry
    simp only [CatalogService.perform, CatalogService.change, same]
    have changed : ∀ other, ((s.backend.upsertSkill s.skills entry).1.get? other).map SkillCatalogEntry.quality =
        if true = true ∧ other = itemKey (s.backend.upsertSkill s.skills entry).2 then
          some ((s.quality (.skill (itemKey (s.backend.upsertSkill s.skills entry).2))).getD {})
        else (s.skills.get? other).map SkillCatalogEntry.quality := by
      intro other
      rw [keyed, quality_upsertSkill, fresh]
      simp only [true_and]
      rfl
    exact (quality_skills changed).trans (if_pos rfl)

theorem upsertPlan_refines (planId : String) (body : JsonDict) :
    (service.perform s (.upsertPlan planId body)).quality =
      (service.change s (.upsertPlan planId body)).elim s.quality (Learning.stored s.backend.policy s.quality) := by
  rcases upsertPlan_cases service s planId body with ⟨raised, same⟩ | ⟨entry, fresh, same⟩
  · simp only [CatalogService.perform, CatalogService.change, same]
    rfl
  · have keyed : itemKey (s.backend.upsertPlan s.plans entry).2 = itemKey entry := Backend.itemKey_upsertPlan ..
    simp only [CatalogService.perform, CatalogService.change, same]
    have changed : ∀ other, ((s.backend.upsertPlan s.plans entry).1.get? other).map PlanCatalogEntry.quality =
        if true = true ∧ other = itemKey (s.backend.upsertPlan s.plans entry).2 then
          some (if (s.backend.policy (.plan (itemKey entry))).keepsOnEdit = true then
            (s.quality (.plan (itemKey (s.backend.upsertPlan s.plans entry).2))).getD {} else {})
        else (s.plans.get? other).map PlanCatalogEntry.quality := by
      intro other
      rw [keyed, quality_upsertPlan, fresh]
      simp only [true_and]
      cases s.backend <;> rfl
    exact (quality_plans changed).trans (if_pos rfl)

def qualityStore : Learning.Store Catalogs QualityCall QualityOf where
  perform := service.perform
  read := Catalogs.quality
  change := service.change
  policy s := s.backend.policy
  refines s call := by
    cases call with
    | applyEvent event now => exact applyEvent_refines service s event now
    | incrementUsage skillId profileId error => exact incrementUsage_refines service s skillId profileId error
    | recordMatch planId profileId jobs => exact recordMatch_refines service s planId profileId jobs
    | upsertCatalogAgent name body => exact upsertCatalogAgent_refines service s name body
    | upsertSkill skillId body => exact upsertSkill_refines service s skillId body
    | upsertPlan planId body => exact upsertPlan_refines service s planId body

end

/-- What a call may meet: an update on the tables finds no entry, and an edit of a plan in memory none with a
    quality of its own. -/
def KeepsLearning (service : CatalogService) (s : Learning.Learner Catalogs QualityOf) : QualityCall → Prop
  | .applyEvent event _ => s.store.backend = .postgres → s.store.agents.getAgent event.persona = none
  | .incrementUsage skillId profileId _ =>
    s.store.backend = .postgres → s.store.skills.getItem skillId profileId = none
  | .recordMatch planId profileId _ => s.store.backend = .postgres → s.store.plans.getItem planId profileId = none
  | .upsertPlan planId body => s.store.backend = .inMemory → ∀ entry existing,
    UpsertPlan.entry service.python planId body = .ok entry →
    s.store.plans.get? (itemKey entry) = some existing → existing.quality = {}
  | .upsertCatalogAgent _ _ => True
  | .upsertSkill _ _ => True

section

variable {service : CatalogService} {s : Learning.Learner Catalogs QualityOf}

theorem keeps_update_iff {call : QualityCall} {key : QualityKey} {f : QualityOf key → QualityOf key}
    {moves : ∀ value, f value ≠ value} (change : service.change s.store call = some (.update key f moves)) :
    (qualityStore service).Keeps s call ↔ (s.store.backend = .postgres → s.store.quality key = none) := by
  have stores : (s.store.backend.policy key).storesUpdates = s.store.backend.live := by
    cases key <;> rfl
  constructor
  · intro keeps tables
    rcases keeps _ change with live | absent
    · cases (congrArg Backend.live tables).symm.trans (stores.symm.trans live)
    · exact absent
  · intro kept other found
    cases change.symm.trans found
    cases backend : s.store.backend with
    | inMemory => exact .inl (stores.trans (congrArg Backend.live backend))
    | postgres => exact .inr (kept backend)

theorem keeps_plan_iff (planId : String) (body : JsonDict) :
    (qualityStore service).Keeps s (.upsertPlan planId body) ↔ KeepsLearning service s (.upsertPlan planId body) := by
  cases made : UpsertPlan.entry service.python planId body with
  | error raised =>
    have refused : service.change s.store (.upsertPlan planId body) = none := by
      simp only [CatalogService.change, CatalogService.upsertPlan, made]
      rfl
    refine iff_of_true (fun change found => ?_) fun _ entry existing given => ?_
    · cases refused.symm.trans found
    · cases made.symm.trans given
  | ok entry =>
    have edited : service.change s.store (.upsertPlan planId body) =
        some (.edit (.plan (itemKey entry)) ({} : PlanQuality)) := by
      rw [← Backend.itemKey_upsertPlan s.store.plans s.store.backend entry]
      simp only [CatalogService.change, CatalogService.upsertPlan, made]
      rfl
    cases backend : s.store.backend with
    | inMemory =>
      constructor
      · intro keeps _ other existing given found
        cases made.symm.trans given
        have held : s.store.quality (.plan (itemKey entry)) = some existing.quality :=
          congrArg (Option.map PlanCatalogEntry.quality) found
        rcases keeps _ edited with keeps | absent | same
        · cases (congrArg (fun backend => !Backend.live backend) backend).symm.trans keeps
        · cases held.symm.trans absent
        · exact Option.some.inj (held.symm.trans same)
      · intro kept change found
        cases edited.symm.trans found
        refine .inr ?_
        cases stored : s.store.plans.get? (itemKey entry) with
        | none => exact .inl (congrArg (Option.map PlanCatalogEntry.quality) stored)
        | some existing =>
          refine .inr ((congrArg (Option.map PlanCatalogEntry.quality) stored).trans ?_)
          exact congrArg some (kept backend entry existing made stored)
    | postgres =>
      refine iff_of_true (fun change found => ?_) fun memory => ?_
      · cases edited.symm.trans found
        exact .inl (congrArg (fun backend => !Backend.live backend) backend)
      · cases backend.symm.trans memory

theorem keeps_iff (call : QualityCall) : (qualityStore service).Keeps s call ↔ KeepsLearning service s call := by
  cases call with
  | applyEvent event now =>
    refine (keeps_update_iff rfl).trans ?_
    exact imp_congr_right fun _ => Option.map_eq_none_iff
  | incrementUsage skillId profileId error =>
    refine (keeps_update_iff rfl).trans ?_
    exact imp_congr_right fun _ => Option.map_eq_none_iff
  | recordMatch planId profileId jobs =>
    refine (keeps_update_iff rfl).trans ?_
    exact imp_congr_right fun _ => Option.map_eq_none_iff
  | upsertCatalogAgent name body =>
    refine iff_of_true (fun change found => ?_) trivial
    obtain ⟨entry, -, rfl⟩ := Option.map_eq_some_iff.mp found
    exact .inl rfl
  | upsertSkill skillId body =>
    refine iff_of_true (fun change found => ?_) trivial
    obtain ⟨entry, -, rfl⟩ := Option.map_eq_some_iff.mp found
    exact .inl rfl
  | upsertPlan planId body => exact keeps_plan_iff planId body

end

/-- Over any history of updates and edits on either kind of catalogs, what is read back is what was learned exactly
    when no update meets a stored entry on the tables, and no edit a learned plan in memory. -/
theorem quality_persisted_iff (service : CatalogService) (s : Catalogs) (calls : List QualityCall) :
    Transition.Always (qualityStore service).step (qualityStore service).Persisted
        { store := s, learned := s.quality } calls ↔
      Transition.Guarded (qualityStore service).step (KeepsLearning service)
        { store := s, learned := s.quality } calls := by
  have same : (qualityStore service).Keeps = KeepsLearning service := by
    funext s call
    exact propext (keeps_iff call)
  rw [← same]
  exact (qualityStore service).persisted_always_iff s calls

def plainService : CatalogService where
  lib := gateLibrary
  python := plainBodies
  schemaNames := []
  useDynamicCatalog := false
  gated := true
  emaAlpha _ := 15 / 100

def memoryCatalogs : Catalogs where
  agents := emptyAgents
  skills := .empty
  plans := KeyedDict.empty.seed [{ id := "triage", quality := { matchCount := 2 } }]

def tableCatalogs : Catalogs where
  agents := .postgres { rows := .empty, order := newestFirst }
  skills := KeyedDict.empty.seed [{ id := "triage" }]
  plans := .empty

/-- An edit resets the matches of the plan, and the table drops the use of the skill. -/
theorem learned_quality_lost :
    ¬ Transition.Always (qualityStore plainService).step (qualityStore plainService).Persisted
      { store := memoryCatalogs, learned := memoryCatalogs.quality } [.upsertPlan "triage" []] ∧
    ¬ Transition.Always (qualityStore plainService).step (qualityStore plainService).Persisted
      { store := tableCatalogs, learned := tableCatalogs.quality }
      [.incrementUsage "triage" defaultProfileId false] := by
  constructor
  · intro always
    have reset : (plainService.perform memoryCatalogs (.upsertPlan "triage" [])).quality
        (.plan ("triage", defaultProfileId)) = some ({} : PlanQuality) := by
      decide +kernel
    have learned : (plainService.change memoryCatalogs (.upsertPlan "triage" [])).elim memoryCatalogs.quality
        (Learning.learn memoryCatalogs.quality) (.plan ("triage", defaultProfileId)) =
          some ({ matchCount := 2 } : PlanQuality) := by
      decide +kernel
    have persisted := congrFun (always.last rfl) (.plan ("triage", defaultProfileId))
    have same : some ({} : PlanQuality) = some { matchCount := 2 } := reset.symm.trans (persisted.trans learned)
    exact absurd same (by decide)
  · intro always
    have dropped : (plainService.perform tableCatalogs (.incrementUsage "triage" defaultProfileId false)).quality
        (.skill ("triage", defaultProfileId)) = some ({} : SkillQuality) := by
      decide +kernel
    have learned : (plainService.change tableCatalogs (.incrementUsage "triage" defaultProfileId false)).elim
        tableCatalogs.quality (Learning.learn tableCatalogs.quality) (.skill ("triage", defaultProfileId)) =
          some ({ usageCount := 1 } : SkillQuality) := by
      decide +kernel
    have persisted := congrFun (always.last rfl) (.skill ("triage", defaultProfileId))
    have same : some ({} : SkillQuality) = some { usageCount := 1 } := dropped.symm.trans (persisted.trans learned)
    exact absurd same (by decide)

end CysAgi.Catalog
