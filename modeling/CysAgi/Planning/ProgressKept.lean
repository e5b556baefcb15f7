import CysAgi.Planning.PlanInvestigation

namespace CysAgi

open Py

theorem Keeps.iff_absorbed {before row : Option InvestigationState} {seen unseen : List StateCall}
    (findings : findingsOf row = findingsOf before ++ seen.filterMap StateCall.finding?)
    (personas : ∀ persona, persona ∈ completedOf row ↔
      persona ∈ completedOf before ++ seen.filterMap StateCall.persona?) :
    Keeps before (seen ++ unseen) row ↔
      ∀ call ∈ unseen, ∃ persona, call = .markPersonaDone persona ∧ persona ∈ completedOf row := by
  constructor
  · intro kept call member
    cases call with
    | appendFinding finding =>
      have appended : finding ∈ unseen.filterMap StateCall.finding? :=
        List.mem_filterMap.mpr ⟨.appendFinding finding, member, rfl⟩
      have counted := kept.findings finding
      rw [List.filterMap_append, ← List.append_assoc, ← findings, List.count_append] at counted
      have positive := List.count_pos_iff.mpr appended
      omega
    | markPersonaDone persona =>
      have marked : persona ∈ unseen.filterMap StateCall.persona? :=
        List.mem_filterMap.mpr ⟨.markPersonaDone persona, member, rfl⟩
      refine ⟨persona, rfl, kept.personas persona ?_⟩
      rw [List.filterMap_append]
      exact List.mem_append_right _ (List.mem_append_right _ marked)
  · intro absorbed
    have none_appended : unseen.filterMap StateCall.finding? = [] := by
      rw [List.filterMap_eq_nil_iff]
      intro call member
      obtain ⟨persona, rfl, -⟩ := absorbed call member
      rfl
    constructor
    · intro finding
      rw [List.filterMap_append, none_appended, List.append_nil, findings]
    · intro persona member
      rw [List.filterMap_append, ← List.append_assoc] at member
      rcases List.mem_append.mp member with known | marked
      · exact (personas persona).mpr known
      · obtain ⟨call, made, names⟩ := List.mem_filterMap.mp marked
        obtain ⟨other, rfl, present⟩ := absorbed call made
        cases names
        exact present

namespace WorkersAmid

def seen (amid : WorkersAmid) (found : Option InvestigationState) : List StateCall :=
  if found.isNone then amid.afterGet else []

def unseen (amid : WorkersAmid) (found : Option InvestigationState) : List StateCall :=
  if found.isNone then amid.beforePlanning ++ amid.beforePlan else amid.calls

theorem seen_append_unseen (amid : WorkersAmid) (found : Option InvestigationState) :
    amid.seen found ++ amid.unseen found = amid.calls := by
  cases found <;> simp [seen, unseen, calls]

end WorkersAmid

namespace PlanInvestigation

section

variable {deps : PlannerDeps} {event : SecurityEvent} {amid : WorkersAmid}
variable {store : PostgresInvestigationStateStore}

def row (event : SecurityEvent) (store : PostgresInvestigationStateStore) : Option InvestigationState :=
  store.get event.tenantId (investigationId event)

def snapshot (event : SecurityEvent) (amid : WorkersAmid) (store : PostgresInvestigationStateStore) :
    Option InvestigationState :=
  row event (store.calls event.tenantId (investigationId event) (amid.seen (row event store)))

structure From (event : SecurityEvent) (read : Option InvestigationState) (state : InvestigationState) : Prop where
  named : state.tenantId = event.tenantId ∧ state.investigationId = investigationId event
  findings : state.findingsSummary = findingsOf read
  completed : state.completedPersonas = completedOf read

theorem from_takeState (deps : PlannerDeps) (event : SecurityEvent) (amid : WorkersAmid)
    (store : PostgresInvestigationStateStore) :
    From event (snapshot event amid store) (takeState deps event amid store).2 := by
  unfold takeState snapshot row
  cases found : store.get event.tenantId (investigationId event) with
  | none =>
    simp only [WorkersAmid.seen, Option.isNone_none, if_true, beginPlanning]
    cases read : (store.calls event.tenantId (investigationId event) amid.afterGet).get event.tenantId
        (investigationId event) with
    | none => exact ⟨⟨rfl, rfl⟩, rfl, rfl⟩
    | some state =>
      have named := PostgresInvestigationStateStore.named_of_get read
      exact ⟨named, rfl, rfl⟩
  | some state =>
    have named := PostgresInvestigationStateStore.named_of_get found
    have unchanged : (store.calls event.tenantId (investigationId event) []).get event.tenantId
        (investigationId event) = some state := found
    simp only [WorkersAmid.seen, Option.isNone_some, Bool.false_eq_true, if_false, unchanged]
    split <;> exact ⟨named, rfl, rfl⟩

theorem execute_ok {plan : InvestigationPlan} (returned : (execute deps event amid store).2 = .ok plan) :
    ∃ before status error, (execute deps event amid store).1 =
      PostgresInvestigationStateStore.upsert before (planned (takeState deps event amid store).2 plan status error) := by
  unfold execute at returned ⊢
  dsimp only at returned ⊢
  cases known : deps.availablePersonas with
  | error e => rw [known] at returned; cases returned
  | ok available =>
    rw [known] at returned
    dsimp only at returned ⊢
    cases made : makePlan deps event available with
    | ok first =>
      rw [made] at returned
      cases returned
      exact ⟨_, _, _, rfl⟩
    | error e =>
      rw [made] at returned
      cases e with
      | baseException message => cases returned
      | _ =>
        dsimp only at returned ⊢
        cases fallen : fallbackPlan deps (goalFromEvent deps event) "planner_unavailable_fallback" with
        | error failure => rw [fallen] at returned; cases returned
        | ok fallback =>
          rw [fallen] at returned
          cases returned
          exact ⟨_, _, _, rfl⟩

theorem row_planned {plan : InvestigationPlan} (returned : (execute deps event amid store).2 = .ok plan) :
    ∃ status error, row event (execute deps event amid store).1 =
      some (planned (takeState deps event amid store).2 plan status error) := by
  obtain ⟨before, status, error, wrote⟩ := execute_ok returned
  have taken := from_takeState deps event amid store
  refine ⟨status, error, ?_⟩
  rw [wrote]
  exact before.get_upsert taken.named

theorem row_execute {plan : InvestigationPlan} (returned : (execute deps event amid store).2 = .ok plan) :
    findingsOf (row event (execute deps event amid store).1) = findingsOf (snapshot event amid store) ∧
      completedOf (row event (execute deps event amid store).1) = completedOf (snapshot event amid store) := by
  obtain ⟨status, error, stored⟩ := row_planned returned
  have taken := from_takeState deps event amid store
  rw [stored]
  exact ⟨taken.findings, taken.completed⟩

/-- The planner's upsert keeps what was recorded since its first read exactly when whatever its
    snapshot has missed is a mark of a persona that the snapshot already has. -/
theorem planning_keeps_iff {plan : InvestigationPlan} (returned : (execute deps event amid store).2 = .ok plan) :
    Keeps (row event store) amid.calls (row event (execute deps event amid store).1) ↔
      ∀ call ∈ amid.unseen (row event store), ∃ persona, call = .markPersonaDone persona ∧
        persona ∈ completedOf (snapshot event amid store) := by
  obtain ⟨findings, completed⟩ := row_execute returned
  obtain ⟨seenFindings, seenPersonas⟩ := StateCall.serial_row event.tenantId (investigationId event)
    (row event store) (amid.seen (row event store))
  have read : snapshot event amid store = (amid.seen (row event store)).foldl
      (fun row call => some (call.updated event.tenantId (investigationId event) row)) (row event store) :=
    store.get_calls event.tenantId (investigationId event) _
  rw [← read] at seenFindings
  rw [← amid.seen_append_unseen (row event store), ← completed]
  apply Keeps.iff_absorbed
  · rw [findings, seenFindings]
  · intro persona
    rw [completed, read]
    exact seenPersonas persona

end

def sampleEvent : SecurityEvent :=
  { id := "evt-1", type := "manual.investigation", correlationId := "inv-1" }

def samplePlanner : PlannerDeps where
  arun _ := .ok (.obj [("personas", .arr [.str "consultant"]), ("rationale", .str "advisory")])
  availablePersonas := .ok ["consultant", "soc"]
  fallbackPersonas := .ok ["consultant"]
  rankPersonasByQuality personas := .ok personas
  loads _ := none
  dumps _ := ""
  str
    | .str text => text
    | _ => ""
  typeError _ := "argument is not iterable"
  recursionLimit := 1000

def samplePlan : InvestigationPlan := { personas := ["consultant"], rationale := "advisory" }

def socDone : PostgresInvestigationStateStore :=
  PostgresInvestigationStateStore.empty.call "default" "inv-1" (.markPersonaDone "soc")

def markedAgain : WorkersAmid := { beforePlan := [.markPersonaDone "soc"] }

theorem planning_keeps_iff_marked_again :
    Keeps (row sampleEvent socDone) markedAgain.calls
        (row sampleEvent (execute samplePlanner sampleEvent markedAgain socDone).1) ↔
      ∀ call ∈ markedAgain.unseen (row sampleEvent socDone), ∃ persona, call = .markPersonaDone persona ∧
        persona ∈ completedOf (snapshot sampleEvent markedAgain socDone) :=
  planning_keeps_iff
    (show (execute samplePlanner sampleEvent markedAgain socDone).2 = .ok samplePlan by decide)

def socEnds : WorkersAmid :=
  { beforePlan := [.appendFinding [("persona", .str "soc"), ("job_id", .str "job-1")], .markPersonaDone "soc"] }

/-- While the planner awaits its plan a worker ends: its finding and its persona are gone. -/
theorem planner_erases_progress :
    (execute samplePlanner sampleEvent socEnds .empty).2 = .ok samplePlan ∧
      findingsOf (row sampleEvent (execute samplePlanner sampleEvent socEnds .empty).1) = [] ∧
      completedOf (row sampleEvent (execute samplePlanner sampleEvent socEnds .empty).1) = [] ∧
      ¬ Keeps (row sampleEvent .empty) socEnds.calls
        (row sampleEvent (execute samplePlanner sampleEvent socEnds .empty).1) := by
  refine ⟨by decide, by decide, by decide, ?_⟩
  intro kept
  have marked := kept.personas "soc" (by decide)
  revert marked
  decide

end PlanInvestigation

end CysAgi
