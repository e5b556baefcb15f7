import CysAgi.Base.Json

namespace CysAgi

open Py

inductive InvestigationStatus where
  | opened
  | inProgress
  | closed
  deriving DecidableEq

inductive PlannerStatus where
  | planning
  | ok
  | fallback
  | error
  deriving DecidableEq

structure InvestigationState where
  investigationId : String
  tenantId : String
  goal : String := ""
  status : InvestigationStatus := .opened
  completedPersonas : List String := []
  findingsSummary : List JsonDict := []
  plannerPlan : Option (List String) := none
  plannerStatus : Option PlannerStatus := none
  plannerRationale : String := ""
  plannerError : String := ""
  deriving DecidableEq

structure InMemoryInvestigationStateStore where
  states : Dict (String × String) InvestigationState

namespace InMemoryInvestigationStateStore

def empty : InMemoryInvestigationStateStore := ⟨.empty⟩

def get (store : InMemoryInvestigationStateStore) (tenantId investigationId : String) :
    Option InvestigationState :=
  store.states.get? (tenantId, investigationId)

def getOrCreate (store : InMemoryInvestigationStateStore) (tenantId investigationId : String) :
    InvestigationState :=
  (store.get tenantId investigationId).getD { investigationId, tenantId, status := .inProgress }

def appendFinding (store : InMemoryInvestigationStateStore) (tenantId investigationId : String)
    (finding : JsonDict) : InMemoryInvestigationStateStore :=
  let state := store.getOrCreate tenantId investigationId
  ⟨store.states.set (tenantId, investigationId)
    { state with
      findingsSummary := state.findingsSummary ++ [finding]
      status := if state.status = .opened then .inProgress else state.status }⟩

def markPersonaDone (store : InMemoryInvestigationStateStore)
    (tenantId investigationId persona : String) : InMemoryInvestigationStateStore :=
  let state := store.getOrCreate tenantId investigationId
  ⟨store.states.set (tenantId, investigationId)
    { state with
      completedPersonas :=
        if persona ∈ state.completedPersonas then state.completedPersonas
        else state.completedPersonas ++ [persona] }⟩

def completed (store : InMemoryInvestigationStateStore) (tenantId investigationId : String) :
    List String :=
  ((store.get tenantId investigationId).map InvestigationState.completedPersonas).getD []

def findings (store : InMemoryInvestigationStateStore) (tenantId investigationId : String) :
    List JsonDict :=
  ((store.get tenantId investigationId).map InvestigationState.findingsSummary).getD []

section

variable (store : InMemoryInvestigationStateStore) (tenantId investigationId : String)

theorem getOrCreate_completed :
    (store.getOrCreate tenantId investigationId).completedPersonas =
      store.completed tenantId investigationId := by
  unfold getOrCreate completed
  cases store.get tenantId investigationId <;> rfl

theorem getOrCreate_findings :
    (store.getOrCreate tenantId investigationId).findingsSummary =
      store.findings tenantId investigationId := by
  unfold getOrCreate findings
  cases store.get tenantId investigationId <;> rfl

theorem mem_completed_markPersonaDone (persona otherTenant otherId other : String) :
    other ∈ (store.markPersonaDone tenantId investigationId persona).completed otherTenant otherId ↔
      other ∈ store.completed otherTenant otherId ∨
        (otherTenant = tenantId ∧ otherId = investigationId ∧ other = persona) := by
  by_cases same : (otherTenant, otherId) = (tenantId, investigationId)
  · obtain ⟨rfl, rfl⟩ := Prod.mk.inj same
    simp only [completed, get, markPersonaDone, Dict.get?_set_self, Option.map_some,
      Option.getD_some]
    have held := getOrCreate_completed store otherTenant otherId
    simp only [completed, get] at held
    rw [held]
    split
    · rename_i present
      constructor
      · exact .inl
      · intro either
        rcases either with known | ⟨-, -, rfl⟩
        · exact known
        · exact present
    · simp
  · have apart : ¬ (otherTenant = tenantId ∧ otherId = investigationId ∧ other = persona) := by
      intro given
      obtain ⟨rfl, rfl, -⟩ := given
      exact same rfl
    simp only [completed, get, markPersonaDone, Dict.get?_set_of_ne _ _ same, apart, or_false]

@[simp] theorem completed_appendFinding (finding : JsonDict) (otherTenant otherId : String) :
    (store.appendFinding tenantId investigationId finding).completed otherTenant otherId =
      store.completed otherTenant otherId := by
  by_cases same : (otherTenant, otherId) = (tenantId, investigationId)
  · obtain ⟨rfl, rfl⟩ := Prod.mk.inj same
    simp only [completed, get, appendFinding, Dict.get?_set_self, Option.map_some, Option.getD_some]
    exact getOrCreate_completed store otherTenant otherId
  · simp only [completed, get, appendFinding, Dict.get?_set_of_ne _ _ same]

@[simp] theorem findings_markPersonaDone (persona otherTenant otherId : String) :
    (store.markPersonaDone tenantId investigationId persona).findings otherTenant otherId =
      store.findings otherTenant otherId := by
  by_cases same : (otherTenant, otherId) = (tenantId, investigationId)
  · obtain ⟨rfl, rfl⟩ := Prod.mk.inj same
    simp only [findings, get, markPersonaDone, Dict.get?_set_self, Option.map_some, Option.getD_some]
    exact getOrCreate_findings store otherTenant otherId
  · simp only [findings, get, markPersonaDone, Dict.get?_set_of_ne _ _ same]

@[simp] theorem findings_appendFinding_self (finding : JsonDict) :
    (store.appendFinding tenantId investigationId finding).findings tenantId investigationId =
      store.findings tenantId investigationId ++ [finding] := by
  simp only [findings, get, appendFinding, Dict.get?_set_self, Option.map_some, Option.getD_some]
  rw [getOrCreate_findings]
  rfl

theorem findings_appendFinding_of_ne (finding : JsonDict) {otherTenant otherId : String}
    (other : (otherTenant, otherId) ≠ (tenantId, investigationId)) :
    (store.appendFinding tenantId investigationId finding).findings otherTenant otherId =
      store.findings otherTenant otherId := by
  simp only [findings, get, appendFinding, Dict.get?_set_of_ne _ _ other]

end

end InMemoryInvestigationStateStore

end CysAgi
