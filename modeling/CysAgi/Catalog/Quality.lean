import CysAgi.Catalog.Requests

open Py

namespace CysAgi.Catalog

inductive PersonaQualityEventKind where
  | jobCompleted
  | jobFailed
  | criticPass
  | criticFail
  | traceCriticPass
  | traceCriticFail
  | hitlPause
  | busFailure
  deriving DecidableEq

structure PersonaQualityEvent where
  persona : String
  profileId : String := defaultProfileId
  kind : PersonaQualityEventKind
  trustSignal : Rat := 1 / 2
  costUsd : Rat := 0

def ema (previous sample alpha : Rat) : Rat :=
  if previous ≤ 0 then sample else (1 - alpha) * previous + alpha * sample

def learnedQuality (alpha now : Rat) (event : PersonaQualityEvent) (quality : PersonaQuality) : PersonaQuality :=
  let learned := { quality with
    sampleSize := quality.sampleSize + 1, lastEvaluatedAt := some now
    empiricalTrust := ema quality.empiricalTrust event.trustSignal alpha }
  match event.kind with
  | .jobCompleted => { learned with
      jobSuccessRate := ema quality.jobSuccessRate 1 alpha, avgCostUsd := ema quality.avgCostUsd event.costUsd alpha }
  | .jobFailed => { learned with
      jobSuccessRate := ema quality.jobSuccessRate 0 alpha, avgCostUsd := ema quality.avgCostUsd event.costUsd alpha }
  | .criticPass => { learned with criticPassRate := ema quality.criticPassRate 1 alpha }
  | .criticFail => { learned with criticPassRate := ema quality.criticPassRate 0 alpha }
  | .traceCriticPass => { learned with traceCriticPassRate := ema quality.traceCriticPassRate 1 alpha }
  | .traceCriticFail => { learned with traceCriticPassRate := ema quality.traceCriticPassRate 0 alpha }
  | .hitlPause => { learned with hitlRate := ema quality.hitlRate 1 alpha }
  | .busFailure => learned

def learnedMatch (jobs : Int) (quality : PlanQuality) : PlanQuality :=
  let count := quality.matchCount + 1
  let before : Int := if 0 < count - 1 then count - 1 else 0
  let after : Int := if 1 < count then count else 1
  { quality with matchCount := count, avgJobsPerEvent := (quality.avgJobsPerEvent * before + jobs) / after }

theorem learnedQuality_ne (alpha now : Rat) (event : PersonaQualityEvent) (quality : PersonaQuality) :
    learnedQuality alpha now event quality ≠ quality := by
  have counted : (learnedQuality alpha now event quality).sampleSize = quality.sampleSize + 1 := by
    unfold learnedQuality
    cases event.kind <;> rfl
  intro same
  rw [same] at counted
  omega

theorem incrementedUsage_ne (error : Bool) (quality : SkillQuality) : incrementedUsage error quality ≠ quality := by
  intro same
  cases error with
  | false =>
    have counted : quality.usageCount + 1 = quality.usageCount := congrArg SkillQuality.usageCount same
    omega
  | true =>
    have counted : quality.loadErrors + 1 = quality.loadErrors := congrArg SkillQuality.loadErrors same
    omega

theorem learnedMatch_ne (jobs : Int) (quality : PlanQuality) : learnedMatch jobs quality ≠ quality := by
  intro same
  have counted : quality.matchCount + 1 = quality.matchCount := congrArg PlanQuality.matchCount same
  omega

structure Catalogs where
  agents : AgentCatalog
  skills : JsonPayloadCatalog SkillCatalogEntry
  plans : JsonPayloadCatalog PlanCatalogEntry

def Catalogs.backend (s : Catalogs) : Backend := s.agents.backend

structure CatalogService where
  lib : GateLibrary
  python : BodyLibrary
  schemaNames : List String
  useDynamicCatalog : Bool
  /-- Whether `UpsertCatalogAgent` has a write gate. -/
  gated : Bool
  emaAlpha : String → Rat

namespace CatalogService

variable (service : CatalogService)

/-- `UpdatePersonaQuality.apply` at the time `now`. -/
def applyEvent (agents : AgentCatalog) (event : PersonaQualityEvent) (now : Rat) : AgentCatalog :=
  match agents.getAgent event.persona with
  | none => agents
  | some entry =>
    let entry :=
      { entry with quality := learnedQuality (service.emaAlpha event.profileId) now event entry.quality }
    ((agents.hold entry).upsertAgent entry).1

def recordMatch (backend : Backend) (plans : JsonPayloadCatalog PlanCatalogEntry) (planId profileId : String)
    (jobs : Int) : JsonPayloadCatalog PlanCatalogEntry :=
  match plans.getItem planId profileId with
  | none => plans
  | some entry =>
    let entry := { entry with quality := learnedMatch jobs entry.quality }
    (backend.upsertPlan (if backend.live then plans.put entry else plans) entry).1

def upsertCatalogAgent (s : Catalogs) (name : String) (body : JsonDict) : Catalogs × Except PyExc AgentCatalogEntry :=
  match unknownSchema service.python service.schemaNames service.useDynamicCatalog body with
  | some raised => (s, .error raised)
  | none =>
    match UpsertCatalogAgent.entry service.python (s.agents.getAgent name) name body with
    | .error raised => (s, .error raised)
    | .ok entry =>
      let saved := if service.gated then saveAgent service.lib s.skills.ids s.agents false entry
        else ((s.agents.upsertAgent entry).1, .ok (s.agents.upsertAgent entry).2)
      ({ s with agents := saved.1 }, saved.2)

def upsertSkill (s : Catalogs) (skillId : String) (body : JsonDict) : Catalogs × Except PyExc SkillCatalogEntry :=
  match UpsertSkill.entry service.python skillId body with
  | .error raised => (s, .error raised)
  | .ok entry =>
    let saved := saveSkill service.lib s.backend s.skills false entry
    ({ s with skills := saved.1 }, saved.2)

def upsertPlan (s : Catalogs) (planId : String) (body : JsonDict) : Catalogs × Except PyExc PlanCatalogEntry :=
  match UpsertPlan.entry service.python planId body with
  | .error raised => (s, .error raised)
  | .ok entry =>
    let saved := s.backend.upsertPlan s.plans entry
    ({ s with plans := saved.1 }, .ok saved.2)

end CatalogService

inductive QualityCall where
  | applyEvent (event : PersonaQualityEvent) (now : Rat)
  | incrementUsage (skillId profileId : String) (error : Bool)
  | recordMatch (planId profileId : String) (jobs : Int)
  | upsertCatalogAgent (name : String) (body : JsonDict)
  | upsertSkill (skillId : String) (body : JsonDict)
  | upsertPlan (planId : String) (body : JsonDict)

def CatalogService.perform (service : CatalogService) (s : Catalogs) : QualityCall → Catalogs
  | .applyEvent event now => { s with agents := service.applyEvent s.agents event now }
  | .incrementUsage skillId profileId error =>
    { s with skills := s.backend.incrementUsage s.skills skillId profileId error }
  | .recordMatch planId profileId jobs =>
    { s with plans := CatalogService.recordMatch s.backend s.plans planId profileId jobs }
  | .upsertCatalogAgent name body => (service.upsertCatalogAgent s name body).1
  | .upsertSkill skillId body => (service.upsertSkill s skillId body).1
  | .upsertPlan planId body => (service.upsertPlan s planId body).1

end CysAgi.Catalog
