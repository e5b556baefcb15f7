import CysAgi.Ingress.DispatchAgree
import CysAgi.Ingress.EventIngress

namespace CysAgi

open Py

inductive IngressOperation where
  | post (eventIn : EventIn) (answers : IngressAnswers)
  | process (event : SecurityEvent) (answers : IngressAnswers)
  | poll (alerts : List (SiemRawAlert × IngressAnswers))

namespace IngressOperation

variable (settings : IngressSettings)

def run : IngressOperation → IntakeEffect Unit
  | .post eventIn answers => do
    let _ ← settings.postEvent eventIn answers
  | .process event answers => do
    let _ ← settings.processOne (some event) answers
  | .poll alerts => do
    let _ ← settings.pollOnce alerts

def Takes (event : SecurityEvent) : IngressOperation → Prop
  | .post eventIn answers => buildEvent eventIn answers.eventHex = .ok event
  | .process consumed _ => consumed = event
  | .poll alerts =>
    ∃ alert ∈ alerts, ∃ body,
      settings.siemBody alert.1 = .ok (some body) ∧ buildEvent body alert.2.eventHex = .ok event

/-- The API hands the event to the raw events topic, where the router consumer accepts it. -/
def Hands : IngressOperation → Prop
  | .post _ answers => settings.Publishes answers
  | .process _ _ => False
  | .poll _ => False

def NamesPersona (event : SecurityEvent) (answers : IngressAnswers) (s : Intake) : Prop :=
  ∃ plan, outcome (PlanInvestigation.executed settings.planner event answers.amid) s = .ok plan ∧ plan.personas ≠ []

/-- When an operation that accepts a manual investigation does something for it. -/
def Keeps (event : SecurityEvent) (s : Intake) : IngressOperation → Prop
  | .post _ answers => settings.manualInvestigationAsync = true ∨ NamesPersona settings event answers s
  | .process _ answers => settings.manualInvestigationAsync = false ∧ NamesPersona settings event answers s
  | .poll _ => True

end IngressOperation

/-- Between the two states a job of the event was enqueued or its planner task was started. -/
def Served (event : SecurityEvent) (s t : Intake) : Prop :=
  (∃ job ∈ t.world.queue.drop s.world.queue.length, job.eventId = event.id) ∨
    event ∈ t.plannerTasks.drop s.plannerTasks.length

theorem map_eventId_jobsFrom (routing : Routing) (previous : String) (personas : List (String × String)) :
    (routing.jobsFrom previous personas).map WorkerJob.eventId = personas.map fun _ => routing.eventId := by
  induction personas generalizing previous with
  | nil => rfl
  | cons entry rest ih => simp only [Routing.jobsFrom, List.map_cons, ih]

theorem exists_job_iff (routing : Routing) (hex : Nat → String) (personas : List String) :
    (∃ job ∈ routing.jobs (DispatchEvent.withHex hex personas), job.eventId = routing.eventId) ↔ personas ≠ [] := by
  have ids := map_eventId_jobsFrom routing "" (DispatchEvent.withHex hex personas)
  have named := List.mem_map (f := WorkerJob.eventId) (b := routing.eventId)
    (l := routing.jobs (DispatchEvent.withHex hex personas))
  rw [← named, Routing.jobs, ids]
  cases personas <;> simp [DispatchEvent.withHex]

theorem served_of_jobs {event : SecurityEvent} {s t : Intake} {jobs : List WorkerJob}
    (queue : t.world.queue = s.world.queue ++ jobs) (tasks : t.plannerTasks = s.plannerTasks) :
    Served event s t ↔ ∃ job ∈ jobs, job.eventId = event.id := by
  unfold Served
  rw [queue, tasks, List.drop_left, List.drop_length]
  simp

namespace DispatchEvent

variable {d : DispatchEvent} {event : SecurityEvent} {payload : JsonDict} {deps : PlannerDeps} {amid : WorkersAmid}
  {hex : Nat → String} {s t : Intake}

theorem dispatchAsync_deferred (planner : d.manualPlanner event = some deps)
    (deferred : d.manualInvestigationAsync = true) :
    d.dispatchAsync event payload amid hex s =
      .ok ({ eventId := event.id, playbookId := "manual-investigation", notifyControl := true
             reason := asyncPlannerPending }, [])
        { s with investigationStore := (PlanInvestigation.beginPlanning deps event amid s.investigationStore).1 } := by
  unfold dispatchAsync
  rw [planner]
  simp only [deferred, if_true]
  rfl

theorem dispatchAsync_planned {result : RoutingDecision × List String} (planner : d.manualPlanner event = some deps)
    (awaited : d.manualInvestigationAsync = false) (ends : d.dispatchAsync event payload amid hex s = .ok result t) :
    ∃ plan, outcome (d.asyncPlan event deps amid) s = .ok plan ∧ result.1.reason = "llm_planner" ∧
      t.plannerTasks = s.plannerTasks ∧
      t.world.queue = s.world.queue ++
        (planRouting event payload plan (!plan.dependsOn.isEmpty)).jobs (withHex hex plan.personas) := by
  have after : final (d.dispatchAsync event payload amid hex) s = t := by rw [final, ends]
  unfold dispatchAsync at ends
  rw [planner] at ends
  simp only [awaited, Bool.false_eq_true, if_false] at ends
  obtain ⟨plan, u, planned, ends⟩ := run_bind_ok.mp ends
  obtain ⟨jobIds, v, -, returns⟩ := run_bind_ok.mp ends
  have made : outcome (d.asyncPlan event deps amid) s = .ok plan := by rw [outcome, planned]
  have reached := after
  rw [final_dispatchAsync awaited planner made] at reached
  refine ⟨plan, made, by cases returns; rfl, ?_, ?_⟩
  · rw [← reached]
    exact (kept_asyncPlan deps amid s).2
  · rw [← reached]
    exact (foldl_enqueue _ s.world).1

end DispatchEvent

namespace IngressOperation

variable {settings : IngressSettings} {event : SecurityEvent} {s t : Intake}

theorem type_of_siemBody {alert : SiemRawAlert} {body : EventIn} {eventHex : String}
    (cleaned : settings.siemBody alert = .ok (some body)) (built : buildEvent body eventHex = .ok event) :
    event.type = "siem.alert" := by
  have typed : body.eventType = "siem.alert" := by
    unfold IngressSettings.siemBody at cleaned
    obtain ⟨safe, sanitized, posted⟩ := except_bind_ok.mp cleaned
    cases safe with
    | none => cases posted
    | some safe =>
      cases posted
      unfold InputSanitizer.sanitizeEvent at sanitized
      split at sanitized <;> cases sanitized
      rfl
  unfold buildEvent at built
  split at built
  · cases built
    exact typed
  · cases built

theorem api_planner (manual : event.type = "manual.investigation") :
    settings.apiDispatcher.manualPlanner event = some settings.planner := by
  simp [DispatchEvent.manualPlanner, manual, IngressSettings.apiDispatcher]

theorem consumer_planner (manual : event.type = "manual.investigation") :
    settings.consumerDispatcher.manualPlanner event = some settings.planner := by
  simp [DispatchEvent.manualPlanner, manual, IngressSettings.consumerDispatcher]

theorem served_of_plan {plan : InvestigationPlan} {payload : JsonDict} {hex : Nat → String} {answers : IngressAnswers}
    (made : outcome (PlanInvestigation.executed settings.planner event answers.amid) s = .ok plan)
    (tasks : t.plannerTasks = s.plannerTasks)
    (queue : t.world.queue = s.world.queue ++
      (DispatchEvent.planRouting event payload plan (!plan.dependsOn.isEmpty)).jobs
        (DispatchEvent.withHex hex plan.personas)) :
    Served event s t ↔ NamesPersona settings event answers s := by
  rw [served_of_jobs queue tasks]
  refine (exists_job_iff _ hex plan.personas).trans ⟨fun named => ⟨plan, made, named⟩, ?_⟩
  intro names
  obtain ⟨other, same, named⟩ := names
  rw [made] at same
  cases same
  exact named

variable {eventIn : EventIn} {answers : IngressAnswers}

theorem postEvent_ok {response : EventResponse} (ends : settings.postEvent eventIn answers s = .ok response t) :
    ∃ posted decision jobIds u, settings.aexecute eventIn answers s = .ok (posted, decision, jobIds) u ∧
      t = if decision.reason = asyncPlannerPending then { u with plannerTasks := u.plannerTasks ++ [posted] } else u := by
  unfold IngressSettings.postEvent at ends
  obtain ⟨⟨posted, decision, jobIds⟩, u, executed, ends⟩ := run_bind_ok.mp ends
  obtain ⟨done, v, recorded, ends⟩ := run_bind_ok.mp ends
  obtain ⟨-, rfl⟩ := resultOf_ok.mp recorded
  refine ⟨posted, decision, jobIds, u, executed, ?_⟩
  split at ends
  · rename_i pending
    rw [if_pos pending]
    cases ends
    rfl
  · rename_i other
    rw [if_neg other]
    cases ends
    rfl

theorem aexecute_ok {posted : SecurityEvent} {decision : RoutingDecision} {jobIds : List String}
    (built : buildEvent eventIn answers.eventHex = .ok event)
    (executed : settings.aexecute eventIn answers s = .ok (posted, decision, jobIds) t) :
    posted = event ∧
      (settings.Publishes answers ∧ t.rawEvents = s.rawEvents ++ [event] ∨
        ¬ settings.Publishes answers ∧
          settings.apiDispatcher.dispatchAsync event eventIn.payload answers.amid answers.jobHex s =
            .ok (decision, jobIds) t) := by
  unfold IngressSettings.aexecute at executed
  rw [built] at executed
  obtain ⟨found, u, taken, executed⟩ := run_bind_ok.mp executed
  obtain ⟨same, rfl⟩ := resultOf_ok.mp taken
  cases same
  split at executed
  · rename_i hands
    obtain ⟨done, v, published, executed⟩ := run_bind_ok.mp executed
    cases published
    obtain ⟨routed, v, routing, executed⟩ := run_bind_ok.mp executed
    obtain ⟨-, rfl⟩ := resultOf_ok.mp routing
    cases executed
    exact ⟨rfl, .inl ⟨hands, rfl⟩⟩
  · rename_i keeps
    obtain ⟨⟨dispatched, ids⟩, v, dispatches, executed⟩ := run_bind_ok.mp executed
    cases executed
    exact ⟨rfl, .inr ⟨keeps, dispatches⟩⟩

theorem post_hands {response : EventResponse} (ends : settings.postEvent eventIn answers s = .ok response t)
    (built : buildEvent eventIn answers.eventHex = .ok event) (hands : settings.Publishes answers) :
    event ∈ t.rawEvents := by
  obtain ⟨posted, decision, jobIds, u, executed, rfl⟩ := postEvent_ok ends
  obtain ⟨-, ⟨-, raw⟩ | ⟨keeps, -⟩⟩ := aexecute_ok built executed
  · have kept : event ∈ u.rawEvents := by
      rw [raw]
      exact List.mem_append_right _ (List.mem_singleton_self _)
    split
    · exact kept
    · exact kept
  · exact absurd hands keeps

theorem post_served_iff {response : EventResponse} (ends : settings.postEvent eventIn answers s = .ok response t)
    (built : buildEvent eventIn answers.eventHex = .ok event) (manual : event.type = "manual.investigation")
    (keeps : ¬ settings.Publishes answers) :
    Served event s t ↔
      settings.manualInvestigationAsync = true ∨ NamesPersona settings event answers s := by
  obtain ⟨posted, decision, jobIds, u, executed, rfl⟩ := postEvent_ok ends
  obtain ⟨rfl, ⟨hands, -⟩ | ⟨-, dispatches⟩⟩ := aexecute_ok built executed
  · exact absurd hands keeps
  cases deferred : settings.manualInvestigationAsync with
  | true =>
    rw [DispatchEvent.dispatchAsync_deferred (api_planner manual) deferred] at dispatches
    cases dispatches
    simp [Served]
  | false =>
    obtain ⟨plan, made, reason, tasks, queue⟩ :=
      DispatchEvent.dispatchAsync_planned (api_planner manual) deferred dispatches
    have awaited : decision.reason ≠ asyncPlannerPending := by
      rw [reason]
      decide
    rw [if_neg awaited, served_of_plan made tasks queue]
    simp

theorem process_served_iff {consumed : Bool} (ends : settings.processOne (some event) answers s = .ok consumed t)
    (manual : event.type = "manual.investigation") :
    Served event s t ↔
      settings.manualInvestigationAsync = false ∧ NamesPersona settings event answers s := by
  unfold IngressSettings.processOne at ends
  obtain ⟨dispatched, v, dispatches, ends⟩ := run_bind_ok.mp ends
  cases ends
  cases deferred : settings.manualInvestigationAsync with
  | true =>
    rw [DispatchEvent.dispatchAsync_deferred (consumer_planner manual) deferred] at dispatches
    cases dispatches
    simp [Served]
  | false =>
    obtain ⟨plan, made, -, tasks, queue⟩ :=
      DispatchEvent.dispatchAsync_planned (consumer_planner manual) deferred dispatches
    rw [served_of_plan made tasks queue]
    simp

/-- An operation that gets a manual investigation in hands it on to the consumer's topic, or it
    serves it exactly when it defers plans and starts their tasks itself, or awaits a plan that
    names a persona. -/
theorem manual_served_iff {op : IngressOperation} (ends : op.run settings s = .ok () t)
    (taken : op.Takes settings event) (manual : event.type = "manual.investigation") :
    (op.Hands settings → event ∈ t.rawEvents) ∧
      (¬ op.Hands settings → (Served event s t ↔ op.Keeps settings event s)) := by
  cases op with
  | post eventIn answers =>
    obtain ⟨response, u, posts, returns⟩ := run_bind_ok.mp ends
    cases returns
    exact ⟨post_hands posts taken, post_served_iff posts taken manual⟩
  | process consumed answers =>
    obtain ⟨response, u, processes, returns⟩ := run_bind_ok.mp ends
    cases returns
    cases taken
    exact ⟨False.elim, fun _ => process_served_iff processes manual⟩
  | poll alerts =>
    obtain ⟨alert, -, body, cleaned, built⟩ := taken
    have typed := type_of_siemBody cleaned built
    rw [manual] at typed
    exact absurd typed (by decide)

def deferring : IngressSettings := { planner := DispatchEvent.pairPlanner, sanitizer := plainSanitizer }

def beaconingIn : EventIn where
  eventType := "manual.investigation"
  payload := [("goal", .str "Investigate beaconing")]
  eventId := some "evt-1"
  correlationId := "inv-manual"

theorem posted_event_kept :
    ∃ t, (post beaconingIn {}).run deferring {} = .ok () t ∧ Served DispatchEvent.beaconing {} t := by
  refine ⟨_, rfl, ?_⟩
  have ends : (post beaconingIn {}).run deferring {} = .ok () _ := rfl
  have keeps : ¬ (post beaconingIn {}).Hands deferring := by
    intro hands
    cases hands.1
  exact ((manual_served_iff ends rfl rfl).2 keeps).mpr (.inl rfl)

/-- The consumer leaves the deferred plan to nobody. -/
theorem consumed_event_dropped :
    ∃ t, (process DispatchEvent.beaconing {}).run deferring {} = .ok () t ∧
      (process DispatchEvent.beaconing {}).Takes deferring DispatchEvent.beaconing ∧
      DispatchEvent.beaconing.type = "manual.investigation" ∧
      ¬ (process DispatchEvent.beaconing {}).Hands deferring ∧ ¬ Served DispatchEvent.beaconing {} t := by
  refine ⟨_, rfl, rfl, rfl, id, ?_⟩
  intro served
  rcases served with ⟨job, member, -⟩ | started
  · cases member
  · cases started

end IngressOperation

end CysAgi
