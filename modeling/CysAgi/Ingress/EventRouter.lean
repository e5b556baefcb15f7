import CysAgi.Base.Listing
import CysAgi.Planning.PlanInvestigation
import CysAgi.Runtime.Tools

namespace CysAgi

open Py

def severityOrder : List String := ["info", "low", "medium", "high", "critical"]

structure RoutingRule where
  eventTypes : List String := []
  minSeverity : Option String := none
  personas : List String := []
  playbookId : String := ""
  notifyControl : Bool := false

structure PlanRoutingConfig where
  id : String
  rules : List RoutingRule := []

structure RoutingDecision where
  eventId : String
  jobs : List String := []
  playbookId : String := ""
  personas : List String := []
  notifyControl : Bool := false
  reason : String := ""
  matchedPlanId : String := ""
  matchedRuleIdx : Int := -1
  deriving DecidableEq

def severityAtLeast (actual minimum : String) : Bool :=
  decide (severityOrder.idxOf minimum ≤ severityOrder.idxOf actual)

def ruleMatches (rule : RoutingRule) (eventType severity : String) : Bool :=
  if rule.eventTypes ≠ [] ∧ eventType ∉ rule.eventTypes then false
  else if rule.minSeverity.any fun minimum => !severityAtLeast severity minimum then false
  else !rule.personas.isEmpty

structure EventRouter where
  plans : List PlanRoutingConfig := []
  notifyControlSeverities : String → Except PyExc (List String) := fun _ => .ok []

structure Gathered where
  personas : List String := []
  playbookId : String := ""
  notifyControl : Bool := false
  matchedRules : Nat := 0
  matchedPlanId : String := ""
  matchedRuleIdx : Int := -1

namespace Gathered

def addPersona (personas : List String) (persona : String) : List String :=
  if persona ∈ personas then personas else personas ++ [persona]

def add (gathered : Gathered) (plan : PlanRoutingConfig) (rule : RoutingRule) (ruleIdx : Nat) : Gathered where
  personas := rule.personas.foldl addPersona gathered.personas
  playbookId :=
    if rule.playbookId ≠ "" then rule.playbookId
    else if plan.id ≠ "" ∧ gathered.playbookId = "" then plan.id
    else gathered.playbookId
  notifyControl := gathered.notifyControl || rule.notifyControl
  matchedRules := gathered.matchedRules + 1
  matchedPlanId := plan.id
  matchedRuleIdx := ruleIdx

def ofRule (event : SecurityEvent) (plan : PlanRoutingConfig) (gathered : Gathered) (entry : RoutingRule × Nat) :
    Gathered :=
  if ruleMatches entry.1 event.type event.severity then gathered.add plan entry.1 entry.2 else gathered

def ofPlan (event : SecurityEvent) (gathered : Gathered) (plan : PlanRoutingConfig) : Gathered :=
  plan.rules.zipIdx.foldl (ofRule event plan) gathered

end Gathered

namespace EventRouter

def gathered (router : EventRouter) (event : SecurityEvent) : Gathered :=
  router.plans.foldl (Gathered.ofPlan event) {}

def route (router : EventRouter) (event : SecurityEvent) (profileId : String := defaultProfileId) :
    Except PyExc RoutingDecision := do
  let found := router.gathered event
  let notifySeverities ← router.notifyControlSeverities profileId
  let notifyControl := found.notifyControl || notifySeverities.contains event.severity
  if found.personas = [] then
    return { eventId := event.id, reason := "no_matching_rule"
             matchedPlanId := found.matchedPlanId, matchedRuleIdx := found.matchedRuleIdx }
  else
    return { eventId := event.id, jobs := found.personas.map fun persona => s!"{persona}:{event.id}"
             playbookId := found.playbookId, personas := found.personas, notifyControl
             reason := s!"matched_{found.matchedRules}_rules"
             matchedPlanId := found.matchedPlanId, matchedRuleIdx := found.matchedRuleIdx }

end EventRouter

namespace Gathered

variable (event : SecurityEvent) {persona : String}

theorem mem_addPersona {personas : List String} {other : String} :
    persona ∈ addPersona personas other ↔ persona ∈ personas ∨ other = persona := by
  unfold addPersona
  split
  · rename_i held
    refine ⟨.inl, fun either => either.elim id fun same => ?_⟩
    rw [← same]
    exact held
  · simp [eq_comm]

theorem mem_personas_ofRule (plan : PlanRoutingConfig) (gathered : Gathered) (entry : RoutingRule × Nat) :
    persona ∈ (ofRule event plan gathered entry).personas ↔
      persona ∈ gathered.personas ∨
        ruleMatches entry.1 event.type event.severity = true ∧ persona ∈ entry.1.personas := by
  unfold ofRule
  split
  · rename_i applies
    have added := Listing.foldl_has_iff (persona ∈ ·) (· = persona) (fun _ _ => mem_addPersona)
      entry.1.personas gathered.personas
    simp [add, added, applies]
  · rename_i other
    simp [other]

theorem mem_personas_ofPlan (gathered : Gathered) (plan : PlanRoutingConfig) :
    persona ∈ (ofPlan event gathered plan).personas ↔
      persona ∈ gathered.personas ∨
        ∃ rule ∈ plan.rules, ruleMatches rule event.type event.severity = true ∧ persona ∈ rule.personas := by
  have gathers := Listing.foldl_has_iff (fun gathered : Gathered => persona ∈ gathered.personas)
    (fun entry => ruleMatches entry.1 event.type event.severity = true ∧ persona ∈ entry.1.personas)
    (mem_personas_ofRule event plan) plan.rules.zipIdx gathered
  refine gathers.trans (or_congr_right ⟨?_, ?_⟩)
  · intro found
    obtain ⟨entry, member, applies⟩ := found
    exact ⟨entry.1, (List.mem_zipIdx' member).2 ▸ List.getElem_mem _, applies⟩
  · intro found
    obtain ⟨rule, member, applies⟩ := found
    obtain ⟨i, bound, place⟩ := List.getElem_of_mem member
    exact ⟨(rule, i), List.mk_mem_zipIdx_iff_getElem?.mpr (by rw [List.getElem?_eq_getElem bound, place]), applies⟩

end Gathered

namespace EventRouter

variable {router : EventRouter} {event : SecurityEvent}

theorem personas_of_route {decision : RoutingDecision} {profileId : String}
    (routed : router.route event profileId = .ok decision) :
    decision.personas = (router.gathered event).personas := by
  unfold route at routed
  cases severities : router.notifyControlSeverities profileId with
  | error raised =>
    rw [severities] at routed
    cases routed
  | ok notifySeverities =>
    rw [severities] at routed
    by_cases none : (router.gathered event).personas = []
    · simp only [bind, Except.bind, none, if_true, pure, Except.pure] at routed
      rw [none, ← Except.ok.inj routed]
    · simp only [bind, Except.bind, none, if_false, pure, Except.pure] at routed
      rw [← Except.ok.inj routed]

theorem mem_route_personas {decision : RoutingDecision} {profileId persona : String}
    (routed : router.route event profileId = .ok decision) :
    persona ∈ decision.personas ↔
      ∃ plan ∈ router.plans, ∃ rule ∈ plan.rules,
        ruleMatches rule event.type event.severity = true ∧ persona ∈ rule.personas := by
  rw [personas_of_route routed]
  have gathers := Listing.foldl_has_iff (fun gathered : Gathered => persona ∈ gathered.personas) _
    (Gathered.mem_personas_ofPlan event) router.plans {}
  exact gathers.trans (by simp)

end EventRouter

end CysAgi
