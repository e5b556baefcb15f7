import CysAgi.Catalog.Models
import CysAgi.Runs.ModePolicy
import CysAgi.Runtime.SgrPolicy

namespace CysAgi

open Py Catalog

def maxPersonaOverlayLen : Nat := 2000
def maxSpawnDepth : Int := 5

structure SpawnWorkerPayload where
  parentContext : RunContext
  persona : String
  subGoal : String
  idempotencyKey : String := ""
  personaOverlay : String := ""
  capped : personaOverlay.toList.length ≤ maxPersonaOverlayLen := by decide

def SpawnWorkerPayload.parse (parentContext : RunContext) (persona subGoal idempotencyKey personaOverlay : String) :
    SpawnWorkerPayload where
  parentContext := parentContext
  persona := persona
  subGoal := subGoal
  idempotencyKey := idempotencyKey
  personaOverlay := String.ofList (personaOverlay.toList.take maxPersonaOverlayLen)
  capped := by
    rw [String.toList_ofList]
    exact List.length_take_le _ _

def allowSpawn (mode : Option InteractionMode) : Bool :=
  match mode with
  | none => true
  | some mode => mode = .agent ∨ mode = .debug

/-- The fields of a profile's policy that are read, as `default_profile_policy_payload` fills them. -/
structure ProfilePolicyPayload where
  trustFloor : Rat := 1 / 2
  maxSpawnDepth : Int := 5
  modePolicy : ModePolicyPayload := defaultModePolicy
  sgr : SgrPolicy := {}

structure ProfilePolicyPort where
  getPolicy : String → Except PyExc (Option ProfilePolicyPayload)
  getTrustFloor : String → Except PyExc Rat
  getMaxSpawnDepth : String → Except PyExc Int

structure ProfilePolicyResolver where
  loader : Option ProfilePolicyPort := none
  envMaxSpawnDepth : Option Int := none

namespace ProfilePolicyResolver

variable (resolver : ProfilePolicyResolver)

def policy (profileId : String) : Except PyExc ProfilePolicyPayload :=
  match resolver.loader with
  | none => .ok {}
  | some loader => orOnException ((loader.getPolicy profileId).map fun loaded => loaded.getD {}) (.ok {})

def maxSpawnDepth (profileId : String) : Except PyExc Int :=
  match resolver.envMaxSpawnDepth with
  | some depth => .ok depth
  | none =>
    let ofPolicy := (resolver.policy profileId).map (·.maxSpawnDepth)
    match resolver.loader with
    | none => ofPolicy
    | some loader => orOnException (loader.getMaxSpawnDepth profileId) ofPolicy

end ProfilePolicyResolver

/-- `get_profile_policy_resolver()` and the catalog's `get_trust_floor` answer where no port is given. -/
structure SubagentSpawnBroker where
  maxSpawnDepthOverride : Option Int := none
  policyPort : Option ProfilePolicyPort := none
  profilePolicyResolver : ProfilePolicyResolver := {}
  catalogTrustFloor : String → Except PyExc Rat

namespace SubagentSpawnBroker

variable (broker : SubagentSpawnBroker)

def resolveMaxSpawnDepth (profileId : String) : Except PyExc Int :=
  match broker.maxSpawnDepthOverride with
  | some depth => .ok depth
  | none =>
    match broker.policyPort with
    | some port => port.getMaxSpawnDepth profileId
    | none => broker.profilePolicyResolver.maxSpawnDepth profileId

def resolveTrustFloor (profileId : String) : Except PyExc Rat :=
  match broker.policyPort with
  | some port => port.getTrustFloor profileId
  | none => broker.catalogTrustFloor profileId

def spawnTargets (conductor : AgentCatalogEntry) : List String :=
  conductor.capabilities.filter fun cap => cap ∉ ["spawn_worker", "conductor"]

/-- The answer of `validate`, where `getAgent` is the catalog's at the time of the call. -/
def validate (getAgent : String → Except PyExc (Option AgentCatalogEntry)) (payload : SpawnWorkerPayload)
    (mode : Option InteractionMode) (profileId : String := "cybersec-soc") (parentPersona : String := "") :
    Except PyExc (Option String) := do
  if ¬allowSpawn mode then
    return some "spawn_not_allowed_in_mode"
  let maxDepth ← broker.resolveMaxSpawnDepth profileId
  if payload.parentContext.spawnDepth ≥ maxDepth ∨ payload.parentContext.spawnDepth ≥ CysAgi.maxSpawnDepth then
    return some "max_spawn_depth_exceeded"
  match (← getAgent payload.persona).filter (·.enabled) with
  | none => return some "unknown_persona"
  | some agent =>
    if parentPersona = "conductor" then
      if let some conductor ← getAgent "conductor" then
        if spawnTargets conductor ≠ [] ∧ payload.persona ∉ spawnTargets conductor then
          return some "persona_not_in_conductor_capabilities"
    let floor ← broker.resolveTrustFloor agent.profileId
    if agent.quality.empiricalTrust < floor then
      return some "persona_quality_below_floor"
    return none

def jobId (hex : String) : String := "job-" ++ hex

def toWorkerJob (payload : SpawnWorkerPayload) (hex : String) (eventId : String := "") : WorkerJob :=
  let child := payload.parentContext.spawnChild (jobId hex)
  { jobId := child.contextId
    eventId := orElse eventId child.contextId
    persona := payload.persona
    payload := [
      ("sub_goal", .str payload.subGoal),
      ("persona_overlay", .str payload.personaOverlay),
      ("spawn_depth", .int child.spawnDepth),
      ("parent_correlation_key", .str payload.parentContext.correlationKey)]
    correlationId := payload.parentContext.contextId
    tenantId := payload.parentContext.tenantId }

end SubagentSpawnBroker

end CysAgi
