import CysAgi.Ingress.DispatchEvent

namespace CysAgi

open Py

abbrev Handed := String × JsonDict × String

def WorkerJob.handed (job : WorkerJob) : Handed := (job.persona, job.payload, job.dependsOnPersona)

namespace Intake

def enqueued {α : Type} (m : IntakeEffect α) (s : Intake) : List WorkerJob :=
  (final m s).world.queue.drop s.world.queue.length

theorem final_onWorld {α : Type} (m : Effect α) (s : Intake) :
    final (onWorld m) s = { s with world := final m s.world } := by
  unfold final onWorld
  cases m s.world <;> rfl

theorem enqueued_of_queue {α : Type} {m : IntakeEffect α} {s : Intake} {jobs : List WorkerJob}
    (queue : (final m s).world.queue = s.world.queue ++ jobs) : enqueued m s = jobs := by
  rw [enqueued, queue]
  exact List.drop_left

end Intake

namespace Routing

def handedFrom (payload : JsonDict) (sequential : Bool) : String → List String → List Handed
  | _, [] => []
  | previousPersona, persona :: rest =>
    (persona, payload, if sequential then previousPersona else "") ::
      handedFrom payload sequential (if sequential then persona else previousPersona) rest

theorem map_handed_jobsFrom (routing : Routing) (previous : String) (personas : List (String × String)) :
    (routing.jobsFrom previous personas).map WorkerJob.handed =
      handedFrom routing.payload routing.sequential previous (personas.map Prod.fst) := by
  induction personas generalizing previous with
  | nil => rfl
  | cons entry rest ih => simp [jobsFrom, handedFrom, WorkerJob.handed, ih]

theorem map_handed_jobs (routing : Routing) (hex : Nat → String) (personas : List String) :
    (routing.jobs (DispatchEvent.withHex hex personas)).map WorkerJob.handed =
      handedFrom routing.payload routing.sequential "" personas := by
  have named : (DispatchEvent.withHex hex personas).map Prod.fst = personas := by
    unfold DispatchEvent.withHex
    rw [List.map_map]
    exact List.zipIdx_map_fst 0 personas
  rw [jobs, map_handed_jobsFrom, named]

theorem handedFrom_sequential_iff (payload : JsonDict) (previous other : String) (personas : List String) :
    handedFrom payload true previous personas = handedFrom payload false other personas ↔
      personas = [] ∨ previous = "" ∧ ∀ persona ∈ personas.dropLast, persona = "" := by
  induction personas generalizing previous other with
  | nil => simp [handedFrom]
  | cons persona rest ih =>
    simp only [handedFrom, if_true, Bool.false_eq_true, if_false, List.cons.injEq, Prod.mk.injEq, true_and]
    rw [ih persona other]
    cases rest with
    | nil => simp
    | cons next rest => simp [List.dropLast_cons_of_ne_nil]

end Routing

namespace DispatchEvent

variable {d : DispatchEvent} {event : SecurityEvent} {payload : JsonDict}

theorem final_enqueue (routing : Routing) (personas : List (String × String)) (decision : RoutingDecision)
    (s : Intake) :
    final (do
      let jobIds ← Intake.onWorld (enqueueFromRouting routing personas)
      return (decision, jobIds) : IntakeEffect (RoutingDecision × List String)) s =
      { s with world := (routing.jobs personas).foldl World.enqueue s.world } := by
  have kept : final (do
      let jobIds ← Intake.onWorld (enqueueFromRouting routing personas)
      return (decision, jobIds) : IntakeEffect (RoutingDecision × List String)) s =
      final (Intake.onWorld (enqueueFromRouting routing personas)) s := by
    rw [final_bind]
    split <;> rfl
  rw [kept, Intake.final_onWorld]
  rfl

theorem queue_enqueue (jobs : List WorkerJob) (s : Intake) :
    ({ s with world := jobs.foldl World.enqueue s.world } : Intake).world.queue = s.world.queue ++ jobs :=
  (foldl_enqueue jobs s.world).1

theorem final_executed (deps : PlannerDeps) (amid : WorkersAmid) (s : Intake) :
    final (PlanInvestigation.executed deps event amid) s =
      { s with investigationStore := (PlanInvestigation.execute deps event amid s.investigationStore).1 } := by
  unfold final PlanInvestigation.executed
  rcases PlanInvestigation.execute deps event amid s.investigationStore with ⟨store, raised | plan⟩ <;> rfl

theorem kept_asyncPlan (deps : PlannerDeps) (amid : WorkersAmid) (s : Intake) :
    (final (d.asyncPlan event deps amid) s).world = s.world ∧
      (final (d.asyncPlan event deps amid) s).plannerTasks = s.plannerTasks := by
  unfold asyncPlan
  cases d.asyncPlanExecutor with
  | some execute => simp
  | none => simp [final_executed]

def planRouting (event : SecurityEvent) (payload : JsonDict) (plan : InvestigationPlan) (sequential : Bool) :
    Routing where
  eventId := event.id
  playbookId := "manual-investigation"
  payload := payload.update (PlanInvestigation.toWorkerJobsPayload plan)
  correlationId := orElse event.correlationId event.id
  tenantId := event.tenantId
  sequential

theorem enqueued_dispatchSync {deps : PlannerDeps} {plan : InvestigationPlan}
    (planner : d.manualPlanner event = some deps) (planned : d.syncPlan event deps = .ok plan)
    (hex : Nat → String) (s : Intake) :
    Intake.enqueued (d.dispatchSync event payload hex) s =
      (planRouting event payload plan true).jobs (withHex hex plan.personas) := by
  apply Intake.enqueued_of_queue
  unfold dispatchSync
  rw [planner]
  dsimp only
  rw [planned, final_bind]
  simp only [outcome_resultOf, final_resultOf]
  rw [final_enqueue]
  exact queue_enqueue _ s

theorem final_dispatchAsync {deps : PlannerDeps} {plan : InvestigationPlan} {amid : WorkersAmid} {s : Intake}
    (awaited : d.manualInvestigationAsync = false) (planner : d.manualPlanner event = some deps)
    (planned : outcome (d.asyncPlan event deps amid) s = .ok plan) (hex : Nat → String) :
    final (d.dispatchAsync event payload amid hex) s =
      { final (d.asyncPlan event deps amid) s with
        world := ((planRouting event payload plan (!plan.dependsOn.isEmpty)).jobs
          (withHex hex plan.personas)).foldl World.enqueue s.world } := by
  unfold dispatchAsync
  rw [planner]
  dsimp only
  simp only [awaited, Bool.false_eq_true, if_false]
  rw [final_bind, planned]
  dsimp only
  rw [final_enqueue, (kept_asyncPlan deps amid s).1]
  rfl

theorem enqueued_dispatchAsync {deps : PlannerDeps} {plan : InvestigationPlan} {amid : WorkersAmid} {s : Intake}
    (awaited : d.manualInvestigationAsync = false) (planner : d.manualPlanner event = some deps)
    (planned : outcome (d.asyncPlan event deps amid) s = .ok plan) (hex : Nat → String) :
    Intake.enqueued (d.dispatchAsync event payload amid hex) s =
      (planRouting event payload plan (!plan.dependsOn.isEmpty)).jobs (withHex hex plan.personas) := by
  apply Intake.enqueued_of_queue
  rw [final_dispatchAsync awaited planner planned]
  exact queue_enqueue _ s

theorem enqueued_completeManualInvestigationPlanning {deps : PlannerDeps} {plan : InvestigationPlan}
    {amid : WorkersAmid} {s : Intake} (planned : outcome (PlanInvestigation.executed deps event amid) s = .ok plan)
    (hex : Nat → String) :
    Intake.enqueued (completeManualInvestigationPlanning deps event payload amid hex) s =
      (planRouting event payload plan true).jobs (withHex hex plan.personas) := by
  apply Intake.enqueued_of_queue
  unfold completeManualInvestigationPlanning
  rw [final_bind, planned]
  dsimp only
  rw [Intake.final_onWorld, final_executed]
  exact (foldl_enqueue _ s.world).1

theorem dispatchAsync_routed (unplanned : d.manualPlanner event = none) (amid : WorkersAmid) (hex : Nat → String) :
    d.dispatchAsync event payload amid hex = d.dispatchSync event payload hex := by
  unfold dispatchAsync dispatchSync
  rw [unplanned]

def routerRouting (event : SecurityEvent) (decision : RoutingDecision) (enriched : JsonDict) : Routing where
  eventId := event.id
  playbookId := decision.playbookId
  payload := enriched
  correlationId := orElse event.correlationId event.id
  tenantId := event.tenantId
  sequential := false

def routed (d : DispatchEvent) (event : SecurityEvent) (payload : JsonDict) :
    Except PyExc (RoutingDecision × JsonDict) := do
  let decision ← d.router.route event
  if decision.personas = [] then return (decision, payload)
  else d.applyConductorRouting event payload decision

theorem enqueued_routed (unplanned : d.manualPlanner event = none) (hex : Nat → String) (s : Intake) :
    Intake.enqueued (d.dispatchSync event payload hex) s =
      match d.routed event payload with
      | .ok (decision, enriched) => (routerRouting event decision enriched).jobs (withHex hex decision.personas)
      | .error _ => [] := by
  apply Intake.enqueued_of_queue
  unfold dispatchSync
  rw [unplanned]
  dsimp only
  rw [final_bind]
  simp only [outcome_resultOf, final_resultOf]
  cases found : d.router.route event with
  | error raised =>
    have answer : d.routed event payload = .error raised := by
      unfold routed
      rw [found]
      rfl
    rw [answer]
    exact (List.append_nil _).symm
  | ok decision =>
    have answer : d.routed event payload =
        if decision.personas = [] then .ok (decision, payload)
        else d.applyConductorRouting event payload decision := by
      unfold routed
      rw [found]
      rfl
    rw [answer]
    by_cases idle : decision.personas = []
    · simp only [idle, if_true]
      exact (List.append_nil _).symm
    · simp only [idle, if_false]
      rw [final_bind]
      simp only [outcome_resultOf, final_resultOf]
      cases d.applyConductorRouting event payload decision with
      | error raised => exact (List.append_nil _).symm
      | ok conducted =>
        dsimp only
        rw [final_enqueue]
        exact queue_enqueue _ s

theorem handed_routed (unplanned : d.manualPlanner event = none) (hex other : Nat → String) (s : Intake) :
    (Intake.enqueued (d.dispatchSync event payload hex) s).map WorkerJob.handed =
      (Intake.enqueued (d.dispatchSync event payload other) s).map WorkerJob.handed := by
  rw [enqueued_routed unplanned, enqueued_routed unplanned]
  split
  · rw [Routing.map_handed_jobs, Routing.map_handed_jobs]
  · rfl

/-- The synchronous dispatch makes a chain of every plan, the asynchronous one of a plan that
    names dependencies. -/
theorem dispatch_agree_iff (payload : JsonDict) {plan : InvestigationPlan} {amid : WorkersAmid} {s : Intake}
    (awaited : d.manualInvestigationAsync = false)
    (planned : ∀ deps, d.manualPlanner event = some deps →
      d.syncPlan event deps = .ok plan ∧ outcome (d.asyncPlan event deps amid) s = .ok plan)
    (hex other : Nat → String) :
    (Intake.enqueued (d.dispatchSync event payload hex) s).map WorkerJob.handed =
        (Intake.enqueued (d.dispatchAsync event payload amid other) s).map WorkerJob.handed ↔
      event.type ≠ "manual.investigation" ∨ d.planInvestigation = none ∨ plan.dependsOn ≠ [] ∨
        ∀ persona ∈ plan.personas.dropLast, persona = "" := by
  cases planner : d.manualPlanner event with
  | none =>
    have unplanned : event.type ≠ "manual.investigation" ∨ d.planInvestigation = none := by
      unfold manualPlanner at planner
      split at planner
      · exact .inr planner
      · rename_i automatic
        exact .inl automatic
    rw [dispatchAsync_routed planner]
    refine ⟨fun _ => unplanned.imp_right .inl, fun _ => handed_routed planner hex other s⟩
  | some deps =>
    have manual : event.type = "manual.investigation" ∧ d.planInvestigation = some deps := by
      unfold manualPlanner at planner
      split at planner
      · rename_i manual
        exact ⟨manual, planner⟩
      · cases planner
    obtain ⟨bySync, byAsync⟩ := planned deps planner
    rw [enqueued_dispatchSync planner bySync, enqueued_dispatchAsync awaited planner byAsync,
      Routing.map_handed_jobs, Routing.map_handed_jobs]
    simp only [planRouting, manual, ne_eq, not_true_eq_false, false_or, reduceCtorEq]
    cases needs : plan.dependsOn with
    | cons need rest => simp
    | nil =>
      simp only [List.isEmpty_nil, Bool.not_true, not_true_eq_false, false_or]
      rw [Routing.handedFrom_sequential_iff]
      refine ⟨?_, fun unnamed => .inr ⟨rfl, unnamed⟩⟩
      intro alike
      rcases alike with none | ⟨-, unnamed⟩
      · simp [none]
      · exact unnamed

def pairPlanner : PlannerDeps where
  arun _ := .ok (.obj [("personas", .arr [.str "soc", .str "network"]), ("rationale", .str "beaconing")])
  availablePersonas := .ok ["consultant", "network", "soc"]
  fallbackPersonas := .ok ["consultant"]
  rankPersonasByQuality personas := .ok personas
  loads _ := none
  dumps _ := ""
  str
    | .str text => text
    | _ => ""
  typeError _ := "argument is not iterable"
  recursionLimit := 1000

def pairPlan : InvestigationPlan := { personas := ["soc", "network"], rationale := "beaconing" }

def pairDispatch : DispatchEvent where
  planInvestigation := some pairPlanner
  planExecutor := some fun _ => .ok pairPlan
  manualInvestigationAsync := false

def beaconing : SecurityEvent where
  id := "evt-1"
  type := "manual.investigation"
  payload := [("goal", .str "Investigate beaconing")]
  correlationId := "inv-manual"

/-- Of the same plan one dispatch makes the second job wait for the first, the other one does not. -/
theorem dispatches_disagree :
    pairDispatch.syncPlan beaconing pairPlanner = .ok pairPlan ∧
      outcome (pairDispatch.asyncPlan beaconing pairPlanner {}) {} = .ok pairPlan ∧
      (Intake.enqueued (pairDispatch.dispatchSync beaconing beaconing.payload fun _ => "0a1b2c3d") {}).map
          WorkerJob.handed ≠
        (Intake.enqueued (pairDispatch.dispatchAsync beaconing beaconing.payload {} fun _ => "0a1b2c3d") {}).map
          WorkerJob.handed := by
  decide +kernel

def loneDispatch : DispatchEvent where
  planInvestigation := some pairPlanner
  planExecutor := some fun _ => .ok { personas := ["soc"] }
  asyncPlanExecutor := some fun _ => .ok { personas := ["soc"] }
  manualInvestigationAsync := false

theorem dispatches_agree_lone :
    (Intake.enqueued (loneDispatch.dispatchSync beaconing [] fun _ => "0a1b2c3d") {}).map WorkerJob.handed =
      (Intake.enqueued (loneDispatch.dispatchAsync beaconing [] {} fun _ => "4e5f6a7b") {}).map WorkerJob.handed :=
  (dispatch_agree_iff [] rfl (fun _ _ => ⟨rfl, rfl⟩) _ _).mpr (.inr (.inr (.inr (by decide))))

end DispatchEvent

end CysAgi
