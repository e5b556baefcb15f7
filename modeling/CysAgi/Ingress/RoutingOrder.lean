import CysAgi.Base.FirstOccurrence
import CysAgi.Ingress.EventRouter

namespace CysAgi

open Py FirstOccurrence

def RoutingRule.applies (rule : RoutingRule) (eventType severity : String) : Bool :=
  decide (rule.eventTypes = [] ∨ eventType ∈ rule.eventTypes) && rule.minSeverity.all (severityAtLeast severity ·)

theorem ruleMatches_eq (rule : RoutingRule) (eventType severity : String) :
    ruleMatches rule eventType severity = (rule.applies eventType severity && !rule.personas.isEmpty) := by
  unfold ruleMatches RoutingRule.applies
  by_cases listed : rule.eventTypes = [] ∨ eventType ∈ rule.eventTypes
  · have allowed : ¬(rule.eventTypes ≠ [] ∧ eventType ∉ rule.eventTypes) := by tauto
    rw [if_neg allowed, decide_eq_true listed, Bool.true_and]
    cases rule.minSeverity with
    | none => rfl
    | some minimum =>
      rw [Option.any_some, Option.all_some]
      cases severityAtLeast severity minimum <;> rfl
  · have refused : rule.eventTypes ≠ [] ∧ eventType ∉ rule.eventTypes := not_or.mp listed
    rw [if_pos refused, decide_eq_false listed, Bool.false_and, Bool.false_and]

theorem severityAtLeast_trans {lower middle higher : String} (first : severityAtLeast middle lower = true)
    (second : severityAtLeast higher middle = true) : severityAtLeast higher lower = true := by
  unfold severityAtLeast at first second ⊢
  exact decide_eq_true ((of_decide_eq_true first).trans (of_decide_eq_true second))

theorem RoutingRule.applies_mono {rule : RoutingRule} {eventType lower higher : String}
    (above : severityAtLeast higher lower = true) (applied : rule.applies eventType lower = true) :
    rule.applies eventType higher = true := by
  unfold RoutingRule.applies at applied ⊢
  rw [Bool.and_eq_true] at applied ⊢
  refine ⟨applied.1, ?_⟩
  cases least : rule.minSeverity with
  | none => rfl
  | some minimum =>
    rw [least] at applied
    exact severityAtLeast_trans applied.2 above

namespace EventRouter

def matching (router : EventRouter) (event : SecurityEvent) : List RoutingRule :=
  (router.plans.flatMap (·.rules)).filter (·.applies event.type event.severity)

def named (router : EventRouter) (event : SecurityEvent) : List String :=
  (router.matching event).flatMap (·.personas)

end EventRouter

namespace Gathered

variable (event : SecurityEvent)

theorem personas_ofRule (plan : PlanRoutingConfig) (gathered : Gathered) (entry : RoutingRule × Nat) :
    (ofRule event plan gathered entry).personas =
      if entry.1.applies event.type event.severity then entry.1.personas.foldl insertNew gathered.personas
      else gathered.personas := by
  unfold ofRule
  rw [ruleMatches_eq]
  cases entry.1.applies event.type event.severity with
  | false => rfl
  | true =>
    cases named : entry.1.personas with
    | nil => rfl
    | cons persona rest =>
      have same : addPersona = insertNew := rfl
      rw [← named, ← same]
      simp [add, named]

theorem personas_ofRules (plan : PlanRoutingConfig) (rules : List RoutingRule) (start : Nat) (gathered : Gathered) :
    ((rules.zipIdx start).foldl (ofRule event plan) gathered).personas =
      ((rules.filter (·.applies event.type event.severity)).flatMap (·.personas)).foldl insertNew
        gathered.personas := by
  induction rules generalizing start gathered with
  | nil => rfl
  | cons rule rules ih =>
    rw [List.zipIdx_cons, List.foldl_cons, ih, personas_ofRule, List.filter_cons]
    cases rule.applies event.type event.severity with
    | false => rfl
    | true => rw [if_pos rfl, if_pos rfl, List.flatMap_cons, List.foldl_append]

theorem personas_ofPlans (plans : List PlanRoutingConfig) (gathered : Gathered) :
    (plans.foldl (ofPlan event) gathered).personas =
      (((plans.flatMap (·.rules)).filter (·.applies event.type event.severity)).flatMap (·.personas)).foldl
        insertNew gathered.personas := by
  induction plans generalizing gathered with
  | nil => rfl
  | cons plan plans ih =>
    rw [List.foldl_cons, ih, ofPlan, personas_ofRules, List.flatMap_cons, List.filter_append, List.flatMap_append,
      List.foldl_append]

end Gathered

namespace EventRouter

variable {router : EventRouter} {event : SecurityEvent} {profileId : String}

theorem gathered_personas : (router.gathered event).personas = (router.named event).eraseDups := by
  rw [gathered, Gathered.personas_ofPlans]
  exact @foldl_insertNew String _ [] _

theorem personas_eq {decision : RoutingDecision} (routed : router.route event profileId = .ok decision) :
    decision.personas = (router.named event).eraseDups := by
  rw [personas_of_route routed, gathered_personas]

/-- The personas of the rules for the event, each once, where it is named first. At a higher severity they are
    still selected, and in the same order, but where a rule that is only for the higher severity names a later one
    before any rule names an earlier one. -/
theorem route_selects (router : EventRouter) (event : SecurityEvent) (profileId : String) (decision : RoutingDecision)
    (routed : router.route event profileId = .ok decision) :
    decision.personas.Nodup ∧ decision.personas = (router.named event).eraseDups ∧
      ∀ severity raised, severityAtLeast severity event.severity = true →
        router.route { event with severity } profileId = .ok raised →
          decision.personas ⊆ raised.personas ∧
            ∀ earlier later, Precedes decision.personas earlier later →
              (¬Precedes raised.personas earlier later ↔
                ∃ before rule after, router.matching { event with severity } = before ++ rule :: after ∧
                  rule.applies event.type event.severity = false ∧
                  (∀ other ∈ before, earlier ∉ other.personas) ∧ Precedes rule.personas later earlier) := by
  have selected := personas_eq routed
  refine ⟨?_, selected, ?_⟩
  · rw [selected]
    exact Py.nodup_eraseDups _
  · intro severity raised above again
    have weaker : ∀ rule : RoutingRule, rule.applies event.type event.severity = true →
        rule.applies event.type severity = true := fun _ applied => RoutingRule.applies_mono above applied
    rw [selected, personas_eq again]
    have kept : (router.named event).eraseDups ⊆ (router.named { event with severity }).eraseDups := by
      intro persona member
      rw [List.mem_eraseDups] at member ⊢
      obtain ⟨rule, listed, names⟩ := List.mem_flatMap.mp member
      obtain ⟨stored, applied⟩ := List.mem_filter.mp listed
      exact List.mem_flatMap.mpr ⟨rule, List.mem_filter.mpr ⟨stored, weaker rule applied⟩, names⟩
    refine ⟨kept, ?_⟩
    intro earlier later first
    rw [not_precedes_iff (kept (mem_of_precedes first)) (ne_of_precedes first), precedes_eraseDups]
    exact precedes_flip_iff weaker ((precedes_eraseDups _).mp first)

def escalating : EventRouter where
  plans := [{ id := "siem", rules :=
    [{ minSeverity := some "high", personas := ["intel"] }, { personas := ["soc", "intel"] }] }]

def alert (severity : String) : SecurityEvent := { id := "e1", type := "siem.alert", severity }

def toPersonas (personas : List String) (rules idx : Nat) : RoutingDecision where
  eventId := "e1"
  jobs := personas.map fun persona => s!"{persona}:e1"
  playbookId := "siem"
  personas
  reason := s!"matched_{rules}_rules"
  matchedPlanId := "siem"
  matchedRuleIdx := idx

theorem alert_routed :
    escalating.route (alert "low") = .ok (toPersonas ["soc", "intel"] 1 1) ∧
      escalating.route (alert "high") = .ok (toPersonas ["intel", "soc"] 2 1) := by
  decide +kernel

/-- The rule for high alerts names first whom the other rule names second. -/
theorem order_not_kept :
    ∃ low high, escalating.route (alert "low") = .ok low ∧ escalating.route (alert "high") = .ok high ∧
      severityAtLeast "high" "low" = true ∧ "soc" ∈ high.personas ∧ "intel" ∈ low.personas ∧
      Precedes low.personas "soc" "intel" ∧ ¬Precedes high.personas "soc" "intel" := by
  exact ⟨_, _, alert_routed.1, alert_routed.2, by decide +kernel⟩

theorem escalating_selects :
    ["soc", "intel"] ⊆ ["intel", "soc"] ∧
      (¬Precedes ["intel", "soc"] "soc" "intel" ↔
        ∃ before rule after, escalating.matching (alert "high") = before ++ rule :: after ∧
          rule.applies "siem.alert" "low" = false ∧ (∀ other ∈ before, "soc" ∉ other.personas) ∧
          Precedes rule.personas "intel" "soc") := by
  have selects := route_selects escalating (alert "low") defaultProfileId (toPersonas ["soc", "intel"] 1 1)
    alert_routed.1
  obtain ⟨kept, order⟩ := selects.2.2 "high" _ (by decide +kernel) alert_routed.2
  exact ⟨kept, order "soc" "intel" (by decide +kernel)⟩

end EventRouter

end CysAgi
