import CysAgi.Ingress.DispatchEvent
import CysAgi.Ingress.RoutingOrder

namespace CysAgi

open Py

namespace Gathered

variable (event : SecurityEvent)

theorem notifyControl_ofRule (plan : PlanRoutingConfig) (gathered : Gathered) (entry : RoutingRule × Nat) :
    (ofRule event plan gathered entry).notifyControl =
      (gathered.notifyControl || (ruleMatches entry.1 event.type event.severity && entry.1.notifyControl)) := by
  unfold ofRule
  cases ruleMatches entry.1 event.type event.severity with
  | false => simp
  | true => simp [add]

theorem notifyControl_ofRules (plan : PlanRoutingConfig) (rules : List RoutingRule) (start : Nat)
    (gathered : Gathered) :
    ((rules.zipIdx start).foldl (ofRule event plan) gathered).notifyControl =
      (gathered.notifyControl ||
        rules.any fun rule => ruleMatches rule event.type event.severity && rule.notifyControl) := by
  induction rules generalizing start gathered with
  | nil => simp
  | cons rule rules ih =>
    rw [List.zipIdx_cons, List.foldl_cons, ih, notifyControl_ofRule, List.any_cons, Bool.or_assoc]

theorem notifyControl_ofPlans (plans : List PlanRoutingConfig) (gathered : Gathered) :
    (plans.foldl (ofPlan event) gathered).notifyControl =
      (gathered.notifyControl ||
        (plans.flatMap (·.rules)).any fun rule =>
          ruleMatches rule event.type event.severity && rule.notifyControl) := by
  induction plans generalizing gathered with
  | nil => simp
  | cons plan plans ih =>
    rw [List.foldl_cons, ih, ofPlan, notifyControl_ofRules, List.flatMap_cons, List.any_append, Bool.or_assoc]

end Gathered

namespace EventRouter

variable (router : EventRouter) (event : SecurityEvent)

def NotifySeverity : Prop :=
  ∃ severities, router.notifyControlSeverities defaultProfileId = .ok severities ∧ event.severity ∈ severities

/-- The severity of the event or a rule for it asks for a notification. -/
def Asks : Prop := router.NotifySeverity event ∨ ∃ rule ∈ router.matching event, rule.notifyControl = true

/-- A rule for the event names a persona, and the severity or such a rule asks for a notification. -/
def AsksWithPersona : Prop :=
  (∃ rule ∈ router.matching event, rule.personas ≠ []) ∧
    (router.NotifySeverity event ∨ ∃ rule ∈ router.matching event, rule.personas ≠ [] ∧ rule.notifyControl = true)

variable {router event}

theorem gathered_personas_ne_nil :
    (router.gathered event).personas ≠ [] ↔ ∃ rule ∈ router.matching event, rule.personas ≠ [] := by
  have same : (router.named event).eraseDups = [] ↔ router.named event = [] := by
    simp only [List.eq_nil_iff_forall_not_mem, List.mem_eraseDups]
  rw [gathered_personas, ne_eq, same, named, List.flatMap_eq_nil_iff]
  push Not
  rfl

theorem gathered_notifyControl :
    (router.gathered event).notifyControl = true ↔
      ∃ rule ∈ router.matching event, rule.personas ≠ [] ∧ rule.notifyControl = true := by
  unfold gathered matching
  rw [Gathered.notifyControl_ofPlans]
  simp only [Bool.false_or, List.any_eq_true, ruleMatches_eq, List.mem_filter, Bool.and_eq_true, and_assoc,
    Bool.not_eq_true', List.isEmpty_eq_false_iff]

theorem route_notifyControl {decision : RoutingDecision} (routed : router.route event = .ok decision) :
    decision.notifyControl = true ↔ router.AsksWithPersona event := by
  unfold AsksWithPersona NotifySeverity
  rw [← gathered_personas_ne_nil, ← gathered_notifyControl]
  unfold route at routed
  cases severities : router.notifyControlSeverities defaultProfileId with
  | error raised =>
    rw [severities] at routed
    cases routed
  | ok notifySeverities =>
    rw [severities] at routed
    have listed : (∃ severities, Except.ok notifySeverities = (Except.ok severities : Except PyExc (List String)) ∧
        event.severity ∈ severities) ↔ event.severity ∈ notifySeverities := by simp
    rw [listed]
    by_cases none : (router.gathered event).personas = []
    · simp only [bind, Except.bind, none, if_true, pure, Except.pure] at routed
      rw [← Except.ok.inj routed]
      simp [none]
    · simp only [bind, Except.bind, none, if_false, pure, Except.pure] at routed
      rw [← Except.ok.inj routed]
      simp [none, or_comm]

end EventRouter

namespace DispatchEvent

variable {d : DispatchEvent} {event : SecurityEvent} {payload payload' : JsonDict} {hex : Nat → String}
  {amid : WorkersAmid} {s t : Intake} {result : RoutingDecision × List String}

theorem notifyControl_applyConductorRouting {decision made : RoutingDecision}
    (conducted : d.applyConductorRouting event payload decision = .ok (made, payload')) :
    made.notifyControl = decision.notifyControl := by
  unfold applyConductorRouting at conducted
  by_cases direct : ¬d.useConductorForEvents ∨ decision.personas = []
  · rw [if_pos direct] at conducted
    cases conducted
    rfl
  · rw [if_neg direct] at conducted
    obtain ⟨hints, -, made⟩ := except_bind_ok.mp conducted
    cases made
    rfl

def dispatchRouted (d : DispatchEvent) (event : SecurityEvent) (payload : JsonDict) (hex : Nat → String) :
    IntakeEffect (RoutingDecision × List String) := do
  let decision ← resultOf (d.router.route event)
  if decision.personas = [] then
    return (decision, [])
  else
    let (decision, enrichedPayload) ← resultOf (d.applyConductorRouting event payload decision)
    let jobIds ← Intake.onWorld (enqueueFromRouting
      { eventId := event.id, playbookId := decision.playbookId, payload := enrichedPayload
        correlationId := orElse event.correlationId event.id, tenantId := event.tenantId, sequential := false }
      (withHex hex decision.personas))
    return (decision, jobIds)

theorem dispatchRouted_ok (ends : d.dispatchRouted event payload hex s = .ok result t) :
    result.1.notifyControl = true ↔ d.router.AsksWithPersona event := by
  unfold dispatchRouted at ends
  obtain ⟨decision, u, routed, ends⟩ := run_bind_ok.mp ends
  obtain ⟨routed, -⟩ := resultOf_ok.mp routed
  rw [← EventRouter.route_notifyControl routed]
  by_cases none : decision.personas = []
  · rw [if_pos none] at ends
    cases ends
    rfl
  · rw [if_neg none] at ends
    obtain ⟨made, v, conducted, ends⟩ := run_bind_ok.mp ends
    obtain ⟨conducted, -⟩ := resultOf_ok.mp conducted
    obtain ⟨jobIds, w, -, ends⟩ := run_bind_ok.mp ends
    cases ends
    rw [notifyControl_applyConductorRouting conducted]

theorem dispatch_unplanned (unplanned : d.manualPlanner event = none)
    (ends : d.dispatchSync event payload hex s = .ok result t ∨
      d.dispatchAsync event payload amid hex s = .ok result t) :
    d.dispatchRouted event payload hex s = .ok result t := by
  unfold dispatchSync dispatchAsync at ends
  rw [unplanned] at ends
  exact ends.elim id id

theorem notifyControl_planned {deps : PlannerDeps} (planned : d.manualPlanner event = some deps)
    (ends : d.dispatchSync event payload hex s = .ok result t ∨
      d.dispatchAsync event payload amid hex s = .ok result t) : result.1.notifyControl = true := by
  rcases ends with ends | ends
  · unfold dispatchSync at ends
    rw [planned] at ends
    obtain ⟨plan, u, -, ends⟩ := run_bind_ok.mp ends
    obtain ⟨jobIds, v, -, ends⟩ := run_bind_ok.mp ends
    cases ends
    rfl
  · unfold dispatchAsync at ends
    rw [planned] at ends
    by_cases deferred : d.manualInvestigationAsync = true
    · simp only [deferred, if_true] at ends
      obtain ⟨_, u, -, ends⟩ := run_bind_ok.mp ends
      cases ends
      rfl
    · simp only [deferred] at ends
      obtain ⟨plan, u, -, ends⟩ := run_bind_ok.mp ends
      obtain ⟨jobIds, v, -, ends⟩ := run_bind_ok.mp ends
      cases ends
      rfl

/-- The flag is there whenever it is asked for, exactly when a planner takes the event, or what asks for it has a
    persona too. -/
theorem notified_iff (d : DispatchEvent) (event : SecurityEvent) (payload : JsonDict) (amid : WorkersAmid)
    (hex : Nat → String) (s t : Intake) (result : RoutingDecision × List String)
    (ends : d.dispatchSync event payload hex s = .ok result t ∨
      d.dispatchAsync event payload amid hex s = .ok result t) :
    (d.router.Asks event → result.1.notifyControl = true) ↔
      d.manualPlanner event ≠ none ∨ (d.router.Asks event → d.router.AsksWithPersona event) := by
  cases planned : d.manualPlanner event with
  | none => rw [dispatchRouted_ok (dispatch_unplanned planned ends), ne_self_iff_false, false_or]
  | some deps => simp [notifyControl_planned planned ends]

def notifyHigh : EventRouter where
  plans := [{ id := "siem", rules := [{ minSeverity := some "medium", personas := ["soc"] }] }]
  notifyControlSeverities _ := .ok ["high", "critical"]

def quietRouter : EventRouter := { notifyHigh with plans := [] }

/-- No rule is for the critical alert, so the control plane is not told of it. -/
theorem critical_alert_unnotified :
    ∃ result t, dispatchSync { router := quietRouter } (EventRouter.alert "critical") [] (fun _ => "") {} =
        .ok result t ∧ quietRouter.Asks (EventRouter.alert "critical") ∧ result.1.notifyControl = false :=
  ⟨_, _, rfl, .inl ⟨_, rfl, by decide⟩, rfl⟩

theorem high_alert_notified :
    ∃ result t, dispatchSync { router := notifyHigh } (EventRouter.alert "high") [] (fun _ => "") {} = .ok result t ∧
      (notifyHigh.Asks (EventRouter.alert "high") → result.1.notifyControl = true) := by
  refine ⟨_, _, rfl, ?_⟩
  apply (notified_iff { router := notifyHigh } (EventRouter.alert "high") [] {} (fun _ => "") {} _ _
    (.inl rfl)).mpr
  right
  intro _
  have selected : (notifyHigh.gathered (EventRouter.alert "high")).personas ≠ [] := by decide +kernel
  exact ⟨EventRouter.gathered_personas_ne_nil.mp selected, .inl ⟨_, rfl, by decide⟩⟩

end DispatchEvent

end CysAgi
