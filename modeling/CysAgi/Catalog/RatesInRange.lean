import Mathlib.Tactic.Linarith
import CysAgi.Base.Transition
import CysAgi.Catalog.PersonaRates

open Py Set

namespace CysAgi.Catalog

structure QualitySignals where
  jobSuccess : Rat := 85 / 100
  jobFailure : Rat := 35 / 100
  traceCriticPass : Rat := 8 / 10
  traceCriticFail : Rat := 4 / 10
  hitlPause : Rat := 5 / 10
  busFailure : Rat := 25 / 100
  emaAlpha : Rat := 15 / 100

/-- What the hooks read: the policies of the profiles, and Python's `float` on strings. -/
structure QualityHooks where
  service : CatalogService
  signals : String → QualitySignals
  trustFloor : String → Rat
  float : String → Except PyExc Rat
  emaAlpha_eq : service.emaAlpha = fun profileId => (signals profileId).emaAlpha

structure FindingVerdict where
  passed : Bool
  trustScore : Rat
  threshold : Rat

namespace QualityHooks

variable (hooks : QualityHooks)

def trustSignal (profileId : String) : PersonaQualityEventKind → Rat
  | .jobCompleted => (hooks.signals profileId).jobSuccess
  | .jobFailed => (hooks.signals profileId).jobFailure
  | .traceCriticPass => (hooks.signals profileId).traceCriticPass
  | .traceCriticFail => (hooks.signals profileId).traceCriticFail
  | .hitlPause => (hooks.signals profileId).hitlPause
  | .busFailure => (hooks.signals profileId).busFailure
  | .criticPass => 8 / 10
  | .criticFail => 4 / 10

/-- `record_event`, up to the event that it emits. -/
def recordEvent (kind : PersonaQualityEventKind) (persona profileId : String) (trustSignal : Option Rat)
    (costUsd : Rat) : PersonaQualityEvent where
  persona
  profileId
  kind
  trustSignal := trustSignal.getD (hooks.trustSignal profileId kind)
  costUsd

def recordJobCompleted (persona : String) (success : Bool) (costUsd : Rat) (profileId : String) :
    PersonaQualityEvent :=
  hooks.recordEvent (if success then .jobCompleted else .jobFailed) persona profileId none costUsd

def recordCriticVerdict (persona : String) (passed : Bool) (trustScore : Rat) (profileId : String) :
    PersonaQualityEvent :=
  hooks.recordEvent (if passed then .criticPass else .criticFail) persona profileId
    (some (if passed then trustScore else max (1 / 10) (trustScore * (1 / 2)))) 0

def recordTraceCritic (persona : String) (passed : Bool) (profileId : String) : PersonaQualityEvent :=
  hooks.recordEvent (if passed then .traceCriticPass else .traceCriticFail) persona profileId none 0

def recordHitlPause (persona profileId : String) : PersonaQualityEvent :=
  hooks.recordEvent .hitlPause persona profileId none 0

def recordBusFailure (persona profileId : String) : PersonaQualityEvent :=
  hooks.recordEvent .busFailure persona profileId none 0

def toFloat (value : Json) : Except PyExc Rat :=
  value.toFloat (.exception "float() argument must be a string or a real number") hooks.float

/-- `ProcessFindingCritic.execute` up to the verdict. -/
def findingVerdict (trustThreshold : Option Rat) (finding : JsonDict) (profileId : String) :
    Except PyExc FindingVerdict := do
  let threshold := trustThreshold.getD (hooks.trustFloor profileId)
  let trustScore ← hooks.toFloat (JsonDict.getD finding "trust_score" (.float (3 / 4)))
  return { passed := !JsonDict.has finding "error" && decide (threshold ≤ trustScore), trustScore, threshold }

end QualityHooks

inductive QualityHook where
  | recordJobCompleted (persona : String) (success : Bool) (costUsd : Rat) (profileId : String)
  | recordCriticVerdict (persona : String) (passed : Bool) (trustScore : Rat) (profileId : String)
  | recordTraceCritic (persona : String) (passed : Bool) (profileId : String)
  | recordHitlPause (persona profileId : String)
  | recordBusFailure (persona profileId : String)
  | processFindingCritic (trustThreshold : Option Rat) (persona : String) (finding : JsonDict) (profileId : String)

namespace QualityHook

variable (hooks : QualityHooks)

/-- The event that a call emits, none where it raises. The critic passes its own profile to no event. -/
def event : QualityHook → Option PersonaQualityEvent
  | recordJobCompleted persona success costUsd profileId =>
    some (hooks.recordJobCompleted persona success costUsd profileId)
  | recordCriticVerdict persona passed trustScore profileId =>
    some (hooks.recordCriticVerdict persona passed trustScore profileId)
  | recordTraceCritic persona passed profileId => some (hooks.recordTraceCritic persona passed profileId)
  | recordHitlPause persona profileId => some (hooks.recordHitlPause persona profileId)
  | recordBusFailure persona profileId => some (hooks.recordBusFailure persona profileId)
  | processFindingCritic trustThreshold persona finding profileId =>
    (hooks.findingVerdict trustThreshold finding profileId).toOption.map fun verdict =>
      hooks.recordCriticVerdict persona verdict.passed verdict.trustScore defaultProfileId

def perform (agents : AgentCatalog) (hook : QualityHook) (now : Rat) : AgentCatalog :=
  match hook.event hooks with
  | none => agents
  | some event => hooks.service.applyEvent agents event now

def step (agents : AgentCatalog) (call : QualityHook × Rat) : Option AgentCatalog :=
  some (call.1.perform hooks agents call.2)

def persona : QualityHook → String
  | recordJobCompleted persona _ _ _ => persona
  | recordCriticVerdict persona _ _ _ => persona
  | recordTraceCritic persona _ _ => persona
  | recordHitlPause persona _ => persona
  | recordBusFailure persona _ => persona
  | processFindingCritic _ persona _ _ => persona

def ScoreBounded (passed : Prop) (trustScore : Rat) : Prop :=
  (passed → trustScore ∈ Icc 0 1) ∧ (¬passed → trustScore ≤ 2)

/-- The policy's signal that the call reads, or the score that it is given, is within bounds. -/
def Bounded : QualityHook → Prop
  | recordJobCompleted _ true _ profileId => (hooks.signals profileId).jobSuccess ∈ Icc 0 1
  | recordJobCompleted _ false _ profileId => (hooks.signals profileId).jobFailure ∈ Icc 0 1
  | recordCriticVerdict _ passed trustScore _ => ScoreBounded (passed = true) trustScore
  | recordTraceCritic _ true profileId => (hooks.signals profileId).traceCriticPass ∈ Icc 0 1
  | recordTraceCritic _ false profileId => (hooks.signals profileId).traceCriticFail ∈ Icc 0 1
  | recordHitlPause _ profileId => (hooks.signals profileId).hitlPause ∈ Icc 0 1
  | recordBusFailure _ profileId => (hooks.signals profileId).busFailure ∈ Icc 0 1
  | processFindingCritic trustThreshold _ finding profileId =>
    ∀ trustScore, hooks.toFloat (JsonDict.getD finding "trust_score" (.float (3 / 4))) = .ok trustScore →
      ScoreBounded (JsonDict.has finding "error" = false ∧
        trustThreshold.getD (hooks.trustFloor profileId) ≤ trustScore) trustScore

theorem persona_of_event {hook : QualityHook} {event : PersonaQualityEvent} (emitted : hook.event hooks = some event) :
    event.persona = hook.persona := by
  cases hook with
  | processFindingCritic trustThreshold persona finding profileId =>
    obtain ⟨verdict, -, rfl⟩ := Option.map_eq_some_iff.mp emitted
    rfl
  | _ =>
    cases emitted
    rfl

theorem verdict_signal {passed : Bool} {trustScore : Rat} (bounded : ScoreBounded (passed = true) trustScore)
    (persona profileId : String) :
    (hooks.recordCriticVerdict persona passed trustScore profileId).trustSignal ∈ Icc 0 1 := by
  cases passed with
  | true => exact bounded.1 rfl
  | false =>
    have half : trustScore * (1 / 2) ≤ 1 := by
      have := bounded.2 Bool.false_ne_true
      linarith
    exact ⟨le_max_of_le_left (by norm_num), max_le (by norm_num) half⟩

theorem signal_of_bounded {hook : QualityHook} (bounded : hook.Bounded hooks) {event : PersonaQualityEvent}
    (emitted : hook.event hooks = some event) : event.trustSignal ∈ Icc 0 1 := by
  cases hook with
  | recordJobCompleted persona success costUsd profileId =>
    cases emitted
    cases success <;> exact bounded
  | recordCriticVerdict persona passed trustScore profileId =>
    cases emitted
    exact verdict_signal hooks bounded persona profileId
  | recordTraceCritic persona passed profileId =>
    cases emitted
    cases passed <;> exact bounded
  | recordHitlPause persona profileId =>
    cases emitted
    exact bounded
  | recordBusFailure persona profileId =>
    cases emitted
    exact bounded
  | processFindingCritic trustThreshold persona finding profileId =>
    obtain ⟨verdict, judged, rfl⟩ := Option.map_eq_some_iff.mp emitted
    apply verdict_signal
    unfold QualityHooks.findingVerdict at judged
    cases read : hooks.toFloat (JsonDict.getD finding "trust_score" (.float (3 / 4))) with
    | error raised =>
      rw [read] at judged
      cases judged
    | ok trustScore =>
      rw [read] at judged
      cases judged
      have scored := bounded trustScore read
      simpa only [Bool.and_eq_true, Bool.not_eq_true', decide_eq_true_eq] using scored

end QualityHook

theorem PersonaQualityEvent.sample_mem_unit {event : PersonaQualityEvent} (signal : event.trustSignal ∈ Icc 0 1)
    {rate : QualityRate} (noCost : rate ≠ .avgCostUsd) {sample : Rat} (given : event.sample rate = some sample) :
    sample ∈ Icc 0 1 := by
  have zero : (0 : Rat) ∈ Icc 0 1 := ⟨le_refl 0, zero_le_one⟩
  have one : (1 : Rat) ∈ Icc 0 1 := ⟨zero_le_one, le_refl 1⟩
  obtain ⟨persona, profileId, kind, trustSignal, costUsd⟩ := event
  cases rate with
  | empiricalTrust =>
    cases given
    exact signal
  | avgCostUsd => exact absurd rfl noCost
  | _ => cases kind <;> cases given <;> assumption

theorem ema_mem_unit {previous sample alpha : Rat} (held : previous ∈ Icc 0 1) (given : sample ∈ Icc 0 1)
    (weight : alpha ∈ Icc 0 1) : ema previous sample alpha ∈ Icc 0 1 := by
  by_cases positive : 0 < previous
  · rw [ema_of_pos positive]
    exact Averages.blend_mem_Icc weight held given
  · rwa [ema_of_nonpos (not_lt.mp positive)]

def RatesInRange (name : String) (agents : AgentCatalog) : Prop :=
  ∀ rate, rate ≠ .avgCostUsd → ∀ average, agents.rate name rate = some average → average ∈ Icc 0 1

theorem ratesInRange_fresh {name : String} {agents : AgentCatalog}
    (fresh : ∀ entry, agents.getAgent name = some entry → entry.quality = {}) : RatesInRange name agents := by
  intro rate noCost average held
  obtain ⟨entry, found, rfl⟩ := Option.map_eq_some_iff.mp held
  rw [fresh entry found]
  cases rate with
  | avgCostUsd => exact absurd rfl noCost
  | _ => exact ⟨by decide +kernel, by decide +kernel⟩

section

variable {hooks : QualityHooks} (weights : ∀ profileId, (hooks.signals profileId).emaAlpha ∈ Icc 0 1)

include weights in
theorem RatesInRange.applyEvent {name : String} {agents : AgentCatalog} (inRange : RatesInRange name agents)
    {event : PersonaQualityEvent} (signal : name = event.persona → event.trustSignal ∈ Icc 0 1) (now : Rat) :
    RatesInRange name (hooks.service.applyEvent agents event now) := by
  intro rate noCost next held
  rw [CatalogService.rate_applyEvent] at held
  obtain ⟨average, stored, rfl⟩ := Option.map_eq_some_iff.mp held
  have before := inRange rate noCost average stored
  by_cases learns : agents.backend.live = true ∧ name = event.persona
  · simp only [if_pos learns]
    cases given : event.sample rate with
    | none => exact before
    | some sample =>
      have within := PersonaQualityEvent.sample_mem_unit (signal learns.2) noCost given
      have weight := weights event.profileId
      rw [← congrFun hooks.emaAlpha_eq event.profileId] at weight
      exact ema_mem_unit before within weight
  · simp only [if_neg learns]
    exact before

include weights in
theorem RatesInRange.perform {name : String} {agents : AgentCatalog} (inRange : RatesInRange name agents)
    {hook : QualityHook} (bounded : hook.persona = name → hook.Bounded hooks) (now : Rat) :
    RatesInRange name (hook.perform hooks agents now) := by
  unfold QualityHook.perform
  cases emitted : hook.event hooks with
  | none => exact inRange
  | some event =>
    apply inRange.applyEvent weights
    intro concerns
    have ours : hook.persona = name := by rw [concerns, QualityHook.persona_of_event hooks emitted]
    exact QualityHook.signal_of_bounded hooks (bounded ours) emitted

end

/-- From a default quality, the rates of a persona stay in range in every run whose calls for it give trusts. -/
theorem rates_stay_in_range (hooks : QualityHooks)
    (weights : ∀ profileId, (hooks.signals profileId).emaAlpha ∈ Icc 0 1) (name : String) (agents : AgentCatalog)
    (fresh : ∀ entry, agents.getAgent name = some entry → entry.quality = {}) (calls : List (QualityHook × Rat))
    (guarded : Transition.Guarded (QualityHook.step hooks)
      (fun _ call => call.1.persona = name → call.1.Bounded hooks) agents calls) :
    Transition.Always (QualityHook.step hooks) (RatesInRange name) agents calls := by
  apply Transition.always_of_guarded (RatesInRange name) _ _ (ratesInRange_fresh fresh) guarded
  · intro agents inRange
    exact inRange
  · intro agents call next inRange bounded taken
    cases taken
    exact inRange.perform weights bounded call.2

def plainHooks : QualityHooks where
  service := plainService
  signals _ := {}
  trustFloor _ := 1 / 2
  float _ := .error (.exception "could not convert string to float")
  emaAlpha_eq := rfl

/-- A finding that puts its own trust at five carries the persona's trust past one. -/
theorem trust_carried_past_one : ¬ Transition.Always (QualityHook.step plainHooks) (RatesInRange "analyst")
    analystAgents [(.processFindingCritic none "analyst" [("trust_score", .int 5)] defaultProfileId, 0)] := by
  intro always
  have trust : ((QualityHook.processFindingCritic none "analyst" [("trust_score", .int 5)] defaultProfileId).perform
      plainHooks analystAgents 0).rate "analyst" .empiricalTrust = some (111 / 80) := by
    decide +kernel
  have inRange := always.last rfl .empiricalTrust (by decide) _ trust
  exact absurd inRange.2 (by decide +kernel)

theorem analyst_fresh (entry : AgentCatalogEntry) (found : analystAgents.getAgent "analyst" = some entry) :
    entry.quality = {} := by
  have stored : (analystAgents.getAgent "analyst").map AgentCatalogEntry.quality = some {} := by
    decide +kernel
  rw [found] at stored
  exact Option.some.inj stored

theorem rates_stay_in_range_analyst : Transition.Always (QualityHook.step plainHooks) (RatesInRange "analyst")
    analystAgents [(.processFindingCritic none "analyst" [("trust_score", .float (9 / 10))] defaultProfileId, 0),
      (.recordCriticVerdict "analyst" false (1 / 5) defaultProfileId, 1),
      (.recordBusFailure "analyst" defaultProfileId, 2)] := by
  apply rates_stay_in_range plainHooks _ "analyst" analystAgents analyst_fresh
  · refine ⟨fun _ => ?_, fun next taken => ⟨fun _ => ?_, fun next taken => ⟨fun _ => ?_, fun _ _ => trivial⟩⟩⟩
    · intro trustScore read
      cases read
      exact ⟨fun _ => by norm_num, fun _ => by norm_num⟩
    · exact ⟨fun passed => absurd passed Bool.false_ne_true, fun _ => by norm_num⟩
    · exact ⟨by decide +kernel, by decide +kernel⟩
  · intro profileId
    have weight : (15 / 100 : Rat) ∈ Icc 0 1 := ⟨by norm_num, by norm_num⟩
    exact weight

end CysAgi.Catalog
