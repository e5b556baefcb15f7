import CysAgi.Base.Transition
import CysAgi.Runs.SpawnBroker

namespace CysAgi

open Py Catalog

namespace SubagentSpawnBroker

variable {broker : SubagentSpawnBroker} {intText : String → Except PyExc Int}

/-- The context of a spawned job, as `from_job` reads it back. -/
def childContext (payload : SpawnWorkerPayload) (hex : String) : RunContext where
  contextId := jobId hex
  kind := .job
  tenantId := payload.parentContext.tenantId
  parentContextId := (orNone payload.parentContext.contextId).filter (· ≠ jobId hex)
  parentKind := (orNone payload.parentContext.contextId).map fun _ => .event
  spawnDepth := payload.parentContext.spawnDepth + 1

def recordedDepth (job : WorkerJob) : Json := JsonDict.getD job.payload "spawn_depth" (.int 0)

@[simp] theorem recordedDepth_toWorkerJob (payload : SpawnWorkerPayload) (hex eventId : String) :
    recordedDepth (toWorkerJob payload hex eventId) = .int (payload.parentContext.spawnDepth + 1) := by
  simp [recordedDepth, toWorkerJob, JsonDict.getD, JsonDict.get?, Assoc.lookup_cons, RunContext.spawnChild]

theorem fromJob_toWorkerJob (payload : SpawnWorkerPayload) (hex eventId : String) :
    RunContext.fromJob intText (toWorkerJob payload hex eventId) = .ok (childContext payload hex) := by
  have depth := recordedDepth_toWorkerJob payload hex eventId
  unfold recordedDepth at depth
  unfold RunContext.fromJob
  rw [depth]
  rfl

theorem parent_kept_iff (parent child : String) :
    ((orNone parent).filter (· ≠ child) = some parent) ↔ parent ≠ "" ∧ parent ≠ child := by
  unfold orNone
  split <;> simp_all

theorem parentKind_kept_iff {parent : String} (given : parent ≠ "") (kind : ContextKind) :
    ((orNone parent).map fun _ => ContextKind.event) = some kind ↔ kind = .event := by
  rw [orNone, if_neg given, Option.map_some, Option.some.injEq, eq_comm]

/-- The job carries neither the mode nor the profile nor the kind of its parent. -/
theorem fromJob_eq_spawnChild_iff (payload : SpawnWorkerPayload) (hex eventId : String) :
    RunContext.fromJob intText (toWorkerJob payload hex eventId) =
        .ok (payload.parentContext.spawnChild (jobId hex)) ↔
      payload.parentContext.mode = none ∧ payload.parentContext.profileId = "cybersec-soc" ∧
        payload.parentContext.kind = .event ∧ payload.parentContext.contextId ≠ "" ∧
        payload.parentContext.contextId ≠ jobId hex := by
  rw [fromJob_toWorkerJob, Except.ok.injEq, RunContext.ext_iff]
  simp only [childContext, RunContext.spawnChild, true_and, and_true, parent_kept_iff]
  constructor
  · intro ⟨⟨given, other⟩, kind, mode, profile⟩
    exact ⟨mode.symm, profile.symm, (parentKind_kept_iff given _).mp kind, given, other⟩
  · intro ⟨mode, profile, kind, given, other⟩
    exact ⟨⟨given, other⟩, (parentKind_kept_iff given _).mpr kind, mode.symm, profile.symm⟩

def plainBroker : SubagentSpawnBroker where
  catalogTrustFloor := fun _ => .ok (1 / 2)

def anyAgent (name : String) : Except PyExc (Option AgentCatalogEntry) := .ok (some { name })

def agentSession : RunContext := RunContext.fromSessionId "s1" "default" (some .agent) "red-team"

theorem spawn_loses_mode_and_profile :
    plainBroker.validate anyAgent (.parse agentSession "soc" "triage" "" "") (some .agent) = .ok none ∧
      RunContext.fromJob (fun _ => .ok 0) (toWorkerJob (.parse agentSession "soc" "triage" "" "") "0123456789ab") ≠
        .ok (agentSession.spawnChild (jobId "0123456789ab")) := by
  constructor
  · decide +kernel
  · intro same
    have kept := (fromJob_eq_spawnChild_iff (.parse agentSession "soc" "triage" "" "") _ _).mp same
    cases kept.1

/-- One spawn of a chain, with what the catalog answers when it is validated. -/
structure SpawnCall where
  getAgent : String → Except PyExc (Option AgentCatalogEntry)
  mode : Option InteractionMode
  parentPersona : String
  persona : String
  subGoal : String
  idempotencyKey : String
  personaOverlay : String
  hex : String
  eventId : String

def SpawnCall.payload (call : SpawnCall) (parent : RunContext) : SpawnWorkerPayload :=
  .parse parent call.persona call.subGoal call.idempotencyKey call.personaOverlay

structure SpawnChain where
  current : RunContext
  jobs : List WorkerJob := []

def spawnStep (broker : SubagentSpawnBroker) (intText : String → Except PyExc Int) (profileId : String)
    (chain : SpawnChain) (call : SpawnCall) : Option SpawnChain :=
  match broker.validate call.getAgent (call.payload chain.current) call.mode profileId call.parentPersona with
  | .ok none =>
    let job := toWorkerJob (call.payload chain.current) call.hex call.eventId
    match RunContext.fromJob intText job with
    | .ok next => some { current := next, jobs := chain.jobs ++ [job] }
    | .error _ => none
  | _ => none

def spawnBound (m : Int) : Int := if m ≤ maxSpawnDepth then m else maxSpawnDepth

theorem lt_spawnBound {depth m : Int} (belowResolved : ¬depth ≥ m) (belowMax : ¬depth ≥ maxSpawnDepth) :
    depth < spawnBound m := by
  unfold spawnBound
  split <;> omega

theorem shallow_of_validate {getAgent : String → Except PyExc (Option AgentCatalogEntry)}
    {payload : SpawnWorkerPayload} {mode : Option InteractionMode} {profileId parentPersona : String} {m : Int}
    (resolved : broker.resolveMaxSpawnDepth profileId = .ok m)
    (accepted : broker.validate getAgent payload mode profileId parentPersona = .ok none) :
    payload.parentContext.spawnDepth < spawnBound m := by
  unfold validate at accepted
  rw [resolved] at accepted
  by_cases allowed : allowSpawn mode = true
  · rw [if_neg (not_not.mpr allowed)] at accepted
    by_cases deep : payload.parentContext.spawnDepth ≥ m ∨ payload.parentContext.spawnDepth ≥ maxSpawnDepth
    · simp only [Bind.bind, Except.bind, if_pos deep] at accepted
      cases accepted
    · exact lt_spawnBound (fun reached => deep (.inl reached)) (fun reached => deep (.inr reached))
  · rw [if_pos allowed] at accepted
    cases accepted

theorem spawnStep_some {profileId : String} {chain next : SpawnChain} {call : SpawnCall} {m : Int}
    (resolved : broker.resolveMaxSpawnDepth profileId = .ok m)
    (taken : spawnStep broker intText profileId chain call = some next) :
    chain.current.spawnDepth < spawnBound m ∧
      next.current.spawnDepth = chain.current.spawnDepth + 1 ∧
      ∃ job, next.jobs = chain.jobs ++ [job] ∧ recordedDepth job = .int (chain.current.spawnDepth + 1) := by
  unfold spawnStep at taken
  split at taken
  · rename_i accepted
    simp only [fromJob_toWorkerJob] at taken
    cases taken
    exact ⟨shallow_of_validate resolved accepted, rfl, _, rfl, recordedDepth_toWorkerJob _ _ _⟩
  · cases taken

structure Deepening (start bound : Int) (chain : SpawnChain) : Prop where
  current : chain.current.spawnDepth = start + chain.jobs.length
  within : start + chain.jobs.length ≤ bound
  recorded : ∀ (i : Nat) (job : WorkerJob), chain.jobs[i]? = some job → recordedDepth job = .int (start + i + 1)

theorem deepening_step {profileId : String} {chain next : SpawnChain} {call : SpawnCall} {m start : Int}
    (resolved : broker.resolveMaxSpawnDepth profileId = .ok m)
    (deepening : Deepening start (spawnBound m) chain)
    (taken : spawnStep broker intText profileId chain call = some next) :
    Deepening start (spawnBound m) next := by
  obtain ⟨shallow, deeper, job, appended, depth⟩ := spawnStep_some resolved taken
  have length : next.jobs.length = chain.jobs.length + 1 := by rw [appended, List.length_append, List.length_singleton]
  have current := deepening.current
  constructor
  · omega
  · omega
  · intro i other found
    rw [appended] at found
    by_cases earlier : i < chain.jobs.length
    · rw [List.getElem?_append_left earlier] at found
      exact deepening.recorded i other found
    · have last : i = chain.jobs.length := by
        have bound := (List.getElem?_eq_some_iff.mp found).1
        rw [List.length_append, List.length_singleton] at bound
        omega
      rw [last, List.getElem?_concat_length, Option.some.injEq] at found
      rw [← found, depth, current, last]

/-- Each accepted spawn goes one deeper than its parent and no deeper than both maxima, so a chain is no
    longer than what lies between its start and them. -/
theorem spawn_depth_bounded (broker : SubagentSpawnBroker) (intText : String → Except PyExc Int)
    (profileId : String) (m : Int) (resolved : broker.resolveMaxSpawnDepth profileId = .ok m)
    (start : RunContext) (shallow : start.spawnDepth ≤ spawnBound m) (calls : List SpawnCall)
    (chain : SpawnChain)
    (ran : Transition.run (spawnStep broker intText profileId) { current := start } calls = some chain) :
    (∀ (i : Nat) (job : WorkerJob), chain.jobs[i]? = some job →
        recordedDepth job = .int (start.spawnDepth + i + 1) ∧ start.spawnDepth + i + 1 ≤ spawnBound m) ∧
      chain.jobs.length ≤ spawnBound m - start.spawnDepth := by
  have first : Deepening start.spawnDepth (spawnBound m) { current := start } := by
    constructor
    · exact (Int.add_zero _).symm
    · rw [List.length_nil, Int.natCast_zero, Int.add_zero]
      exact shallow
    · intro i job found
      cases found
  have last : Deepening start.spawnDepth (spawnBound m) chain :=
    Transition.invariant_run (fun _ _ _ deepening taken => deepening_step resolved deepening taken) first ran
  have within := last.within
  constructor
  · intro i job found
    have bound := (List.getElem?_eq_some_iff.mp found).1
    exact ⟨last.recorded i job found, by omega⟩
  · omega

def triageCall : SpawnCall where
  getAgent := anyAgent
  mode := some .agent
  parentPersona := ""
  persona := "soc"
  subGoal := "triage"
  idempotencyKey := ""
  personaOverlay := ""
  hex := "0123456789ab"
  eventId := ""

def triageChain (start : RunContext) (length : Nat) : Option SpawnChain :=
  Transition.run (spawnStep plainBroker (fun _ => .ok 0) "cybersec-soc") { current := start }
    (List.replicate length triageCall)

theorem spawn_depth_bounded_five :
    ∃ chain, triageChain agentSession 5 = some chain ∧ (chain.jobs.length : Int) ≤ spawnBound 5 - 0 := by
  obtain ⟨chain, ran⟩ : ∃ chain, triageChain agentSession 5 = some chain := by
    rw [← Option.isSome_iff_exists]
    decide +kernel
  exact ⟨chain, ran, (spawn_depth_bounded plainBroker _ _ 5 rfl agentSession (by decide) _ chain ran).2⟩

/-- A chain that starts below zero is longer than the maximum. -/
theorem spawn_chain_longer_than_bound :
    plainBroker.resolveMaxSpawnDepth "cybersec-soc" = .ok 5 ∧
      { agentSession with spawnDepth := -1 }.spawnDepth ≤ spawnBound 5 ∧
      ∃ chain, triageChain { agentSession with spawnDepth := -1 } 6 = some chain ∧
        ¬(chain.jobs.length : Int) ≤ spawnBound 5 := by
  refine ⟨rfl, by decide, ?_⟩
  have six : (triageChain { agentSession with spawnDepth := -1 } 6).map (·.jobs.length) = some 6 := by decide +kernel
  obtain ⟨chain, ran, length⟩ := Option.map_eq_some_iff.mp six
  refine ⟨chain, ran, ?_⟩
  rw [length]
  decide

end SubagentSpawnBroker

end CysAgi
