import Mathlib.Algebra.Order.Ring.Rat
import CysAgi.Base.Averages
import CysAgi.Catalog.QualityKept

open Py

namespace CysAgi.Catalog

inductive QualityRate where
  | empiricalTrust
  | criticPassRate
  | traceCriticPassRate
  | hitlRate
  | avgCostUsd
  | jobSuccessRate
  deriving DecidableEq

def QualityRate.read : QualityRate → PersonaQuality → Rat
  | .empiricalTrust, quality => quality.empiricalTrust
  | .criticPassRate, quality => quality.criticPassRate
  | .traceCriticPassRate, quality => quality.traceCriticPassRate
  | .hitlRate, quality => quality.hitlRate
  | .avgCostUsd, quality => quality.avgCostUsd
  | .jobSuccessRate, quality => quality.jobSuccessRate

def PersonaQualityEventKind.sample (costUsd : Rat) : PersonaQualityEventKind → QualityRate → Option Rat
  | .jobCompleted, .jobSuccessRate => some 1
  | .jobFailed, .jobSuccessRate => some 0
  | .jobCompleted, .avgCostUsd => some costUsd
  | .jobFailed, .avgCostUsd => some costUsd
  | .criticPass, .criticPassRate => some 1
  | .criticFail, .criticPassRate => some 0
  | .traceCriticPass, .traceCriticPassRate => some 1
  | .traceCriticFail, .traceCriticPassRate => some 0
  | .hitlPause, .hitlRate => some 1
  | _, _ => none

def PersonaQualityEvent.sample (event : PersonaQualityEvent) : QualityRate → Option Rat
  | .empiricalTrust => some event.trustSignal
  | rate => event.kind.sample event.costUsd rate

theorem read_learnedQuality (alpha now : Rat) (event : PersonaQualityEvent) (quality : PersonaQuality)
    (rate : QualityRate) :
    rate.read (learnedQuality alpha now event quality) =
      (event.sample rate).elim (rate.read quality) fun sample => ema (rate.read quality) sample alpha := by
  obtain ⟨persona, profileId, kind, trustSignal, costUsd⟩ := event
  cases rate <;> cases kind <;> rfl

section

variable {previous sample alpha : Rat}

theorem ema_of_pos (positive : 0 < previous) : ema previous sample alpha = Averages.blend alpha previous sample :=
  if_neg (not_le.mpr positive)

theorem ema_of_nonpos (nonpos : previous ≤ 0) : ema previous sample alpha = sample := if_pos nonpos

theorem ema_eq_blend_iff : ema previous sample alpha = Averages.blend alpha previous sample ↔
    0 < previous ∨ alpha = 1 ∨ sample = previous := by
  by_cases positive : 0 < previous
  · have blends : ema previous sample alpha = Averages.blend alpha previous sample := ema_of_pos positive
    simp only [blends, positive, true_or]
  · rw [ema_of_nonpos (not_lt.mp positive), Averages.blend_eq_sample_iff]
    simp only [positive, false_or]

end

def AgentCatalog.rate (agents : AgentCatalog) (name : String) (rate : QualityRate) : Option Rat :=
  (agents.getAgent name).map fun entry => rate.read entry.quality

namespace CatalogService

variable (service : CatalogService)

theorem applyEvent_absent {agents : AgentCatalog} {event : PersonaQualityEvent}
    (absent : agents.getAgent event.persona = none) (now : Rat) : service.applyEvent agents event now = agents := by
  unfold applyEvent
  rw [absent]

theorem backend_applyEvent (agents : AgentCatalog) (event : PersonaQualityEvent) (now : Rat) :
    (service.applyEvent agents event now).backend = agents.backend := by
  unfold applyEvent
  cases agents.getAgent event.persona with
  | none => rfl
  | some entry => cases agents <;> rfl

theorem rate_applyEvent (agents : AgentCatalog) (event : PersonaQualityEvent) (now : Rat) (name : String)
    (rate : QualityRate) :
    (service.applyEvent agents event now).rate name rate = (agents.rate name rate).map fun average =>
      if agents.backend.live = true ∧ name = event.persona then
        (event.sample rate).elim average fun sample => ema average sample (service.emaAlpha event.profileId)
      else average := by
  unfold AgentCatalog.rate
  cases found : agents.getAgent event.persona with
  | none =>
    rw [applyEvent_absent service found]
    cases held : agents.getAgent name with
    | none => rfl
    | some entry =>
      have other : name ≠ event.persona := by
        rintro rfl
        cases found.symm.trans held
      simp only [Option.map_some, other, and_false, if_false]
  | some entry =>
    have learned : ((service.applyEvent agents event now).getAgent name).map AgentCatalogEntry.quality = _ :=
      quality_applyEvent found now name
    have read := congrArg (Option.map rate.read) learned
    simp only [Option.map_map] at read
    refine read.trans ?_
    by_cases here : agents.backend.live = true ∧ name = event.persona
    · simp only [if_pos here]
      rw [here.2, found]
      exact congrArg some (read_learnedQuality ..)
    · simp only [if_neg here]
      cases agents.getAgent name <;> rfl

def applyEvents (agents : AgentCatalog) (events : List (PersonaQualityEvent × Rat)) : AgentCatalog :=
  events.foldl (fun agents given => service.applyEvent agents given.1 given.2) agents

theorem applyEvents_concat (agents : AgentCatalog) (events : List (PersonaQualityEvent × Rat))
    (given : PersonaQualityEvent × Rat) :
    service.applyEvents agents (events ++ [given]) =
      service.applyEvent (service.applyEvents agents events) given.1 given.2 := by
  unfold applyEvents
  rw [List.foldl_append]
  rfl

theorem backend_applyEvents (agents : AgentCatalog) (events : List (PersonaQualityEvent × Rat)) :
    (service.applyEvents agents events).backend = agents.backend := by
  induction events using List.reverseRecOn with
  | nil => rfl
  | append_singleton events given ih => rw [applyEvents_concat, backend_applyEvent, ih]

end CatalogService

/-- An event of the history that adds a sample to an average of the persona, and not the first one. -/
structure FurtherSample (service : CatalogService) (agents : AgentCatalog)
    (events : List (PersonaQualityEvent × Rat)) (name : String) (rate : QualityRate) where
  before : List (PersonaQualityEvent × Rat)
  event : PersonaQualityEvent
  now : Rat
  after : List (PersonaQualityEvent × Rat)
  history : events = before ++ (event, now) :: after
  concerns : name = event.persona
  first : ∃ given ∈ before, name = given.1.persona ∧ (given.1.sample rate).isSome = true
  sample : Rat
  given : event.sample rate = some sample
  average : Rat
  held : (service.applyEvents agents before).rate name rate = some average

namespace FurtherSample

variable {service : CatalogService} {agents : AgentCatalog} {events : List (PersonaQualityEvent × Rat)}
    {name : String} {rate : QualityRate}

def alpha (further : FurtherSample service agents events name rate) : Rat :=
  service.emaAlpha further.event.profileId

/-- The average moves to the blend of itself and the sample, so by no more than `alpha` times their distance. -/
def Blends (further : FurtherSample service agents events name rate) : Prop :=
  ∃ next, (service.applyEvents agents (further.before ++ [(further.event, further.now)])).rate name rate = some next ∧
    next = (1 - further.alpha) * further.average + further.alpha * further.sample ∧
    (0 ≤ further.alpha → |next - further.average| ≤ further.alpha * |further.sample - further.average|)

/-- The average is above zero, or the sample by itself is the blend. A table keeps the average, so there this must
    be the blend. -/
def Blendable (further : FurtherSample service agents events name rate) : Prop :=
  if agents.backend.live = true then 0 < further.average ∨ further.alpha = 1 ∨ further.sample = further.average
  else further.alpha = 0 ∨ further.sample = further.average

theorem rate_next (further : FurtherSample service agents events name rate) :
    (service.applyEvents agents (further.before ++ [(further.event, further.now)])).rate name rate =
      some (if agents.backend.live = true then ema further.average further.sample further.alpha
        else further.average) := by
  rw [CatalogService.applyEvents_concat, CatalogService.rate_applyEvent, CatalogService.backend_applyEvents,
    further.held, Option.map_some, further.given]
  simp only [further.concerns, and_true]
  rfl

theorem blends_iff_next (further : FurtherSample service agents events name rate) :
    further.Blends ↔ (if agents.backend.live = true then ema further.average further.sample further.alpha
      else further.average) = Averages.blend further.alpha further.average further.sample := by
  unfold Blends
  rw [rate_next]
  constructor
  · rintro ⟨next, reached, blend, -⟩
    cases reached
    exact blend
  · intro blend
    refine ⟨_, rfl, blend, ?_⟩
    intro weight
    rw [blend]
    exact le_of_eq (Averages.abs_blend_sub weight further.average further.sample)

theorem blends_iff (further : FurtherSample service agents events name rate) :
    further.Blends ↔ further.Blendable := by
  rw [blends_iff_next, Blendable]
  by_cases live : agents.backend.live = true
  · rw [if_pos live, if_pos live]
    exact ema_eq_blend_iff
  · rw [if_neg live, if_neg live]
    exact Averages.average_eq_blend_iff further.alpha further.average further.sample

end FurtherSample

/-- Over any history, each further sample of an average blends in exactly when it finds the average above zero, or
    the blend is the sample. -/
theorem quality_averages_blend_iff (service : CatalogService) (agents : AgentCatalog)
    (events : List (PersonaQualityEvent × Rat)) (name : String) (rate : QualityRate) :
    (∀ further : FurtherSample service agents events name rate, further.Blends) ↔
      ∀ further : FurtherSample service agents events name rate, further.Blendable := by
  apply forall_congr'
  intro further
  exact further.blends_iff

def analystAgents : AgentCatalog :=
  (emptyAgents.upsertAgent { name := "analyst" }).1

def successAfterFailure : FurtherSample plainService analystAgents
    [({ persona := "analyst", kind := .jobFailed }, 0), ({ persona := "analyst", kind := .jobCompleted }, 1)]
    "analyst" .jobSuccessRate where
  before := [({ persona := "analyst", kind := .jobFailed }, 0)]
  event := { persona := "analyst", kind := .jobCompleted }
  now := 1
  after := []
  history := rfl
  concerns := rfl
  first := ⟨_, List.mem_singleton_self _, rfl, rfl⟩
  sample := 1
  given := rfl
  average := 0
  held := by decide +kernel

theorem rate_left_zero_at_once : ¬ ∀ further : FurtherSample plainService analystAgents
    [({ persona := "analyst", kind := .jobFailed }, 0), ({ persona := "analyst", kind := .jobCompleted }, 1)]
    "analyst" .jobSuccessRate, further.Blends := by
  intro blends
  obtain ⟨next, reached, blend, -⟩ := blends successAfterFailure
  have moved : (plainService.applyEvents analystAgents
      (successAfterFailure.before ++ [(successAfterFailure.event, successAfterFailure.now)])).rate "analyst"
        .jobSuccessRate = some 1 := by
    decide +kernel
  cases moved.symm.trans reached
  exact absurd blend (by decide +kernel)

end CysAgi.Catalog
