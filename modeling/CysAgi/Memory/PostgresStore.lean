import CysAgi.Base.Overwrite
import CysAgi.Memory.InvestigationState

namespace CysAgi

open Py

/-- The rows of `investigation_states`. A row is stored under the key that its state names. -/
structure PostgresInvestigationStateStore where
  rows : Dict (String × String) InvestigationState
  keyed : ∀ key state, rows.get? key = some state → (state.tenantId, state.investigationId) = key

namespace PostgresInvestigationStateStore

def empty : PostgresInvestigationStateStore := ⟨.empty, by intro key state found; cases found⟩

def get (store : PostgresInvestigationStateStore) (tenantId investigationId : String) :
    Option InvestigationState :=
  store.rows.get? (tenantId, investigationId)

def upsert (store : PostgresInvestigationStateStore) (state : InvestigationState) :
    PostgresInvestigationStateStore where
  rows := store.rows.set (state.tenantId, state.investigationId) state
  keyed key other found := by
    rw [Dict.get?_set] at found
    split at found
    · rename_i same
      cases found
      exact same.symm
    · exact store.keyed key other found

theorem named_of_get {store : PostgresInvestigationStateStore} {tenantId investigationId : String}
    {state : InvestigationState} (found : store.get tenantId investigationId = some state) :
    state.tenantId = tenantId ∧ state.investigationId = investigationId :=
  Prod.mk.inj (store.keyed _ _ found)

theorem get_upsert (store : PostgresInvestigationStateStore) {state : InvestigationState}
    {tenantId investigationId : String}
    (named : state.tenantId = tenantId ∧ state.investigationId = investigationId) :
    (store.upsert state).get tenantId investigationId = some state := by
  rw [← named.1, ← named.2]
  exact Dict.get?_set_self _ _ _

end PostgresInvestigationStateStore

inductive StateCall where
  | appendFinding (finding : JsonDict)
  | markPersonaDone (persona : String)
  deriving DecidableEq

namespace StateCall

def change : StateCall → InvestigationState → InvestigationState
  | .appendFinding finding, state =>
    { state with
      findingsSummary := state.findingsSummary ++ [finding]
      status := if state.status = .opened then .inProgress else state.status }
  | .markPersonaDone persona, state =>
    { state with
      completedPersonas :=
        if persona ∈ state.completedPersonas then state.completedPersonas
        else state.completedPersonas ++ [persona] }

def updated (call : StateCall) (tenantId investigationId : String) (got : Option InvestigationState) :
    InvestigationState :=
  call.change (got.getD { investigationId, tenantId, status := .inProgress })

def finding? : StateCall → Option JsonDict
  | .appendFinding finding => some finding
  | .markPersonaDone _ => none

def persona? : StateCall → Option String
  | .appendFinding _ => none
  | .markPersonaDone persona => some persona

end StateCall

def findingsOf (row : Option InvestigationState) : List JsonDict :=
  (row.map InvestigationState.findingsSummary).getD []

def completedOf (row : Option InvestigationState) : List String :=
  (row.map InvestigationState.completedPersonas).getD []

structure Keeps (before : Option InvestigationState) (calls : List StateCall) (row : Option InvestigationState) :
    Prop where
  findings : ∀ finding, (findingsOf before ++ calls.filterMap StateCall.finding?).count finding ≤
    (findingsOf row).count finding
  personas : ∀ persona ∈ completedOf before ++ calls.filterMap StateCall.persona?, persona ∈ completedOf row

namespace PostgresInvestigationStateStore

def call (store : PostgresInvestigationStateStore) (tenantId investigationId : String) (call : StateCall) :
    PostgresInvestigationStateStore :=
  store.upsert (call.updated tenantId investigationId (store.get tenantId investigationId))

def calls (store : PostgresInvestigationStateStore) (tenantId investigationId : String) (calls : List StateCall) :
    PostgresInvestigationStateStore :=
  calls.foldl (fun store made => store.call tenantId investigationId made) store

end PostgresInvestigationStateStore

namespace StateCall

section

variable (tenantId investigationId : String)

theorem findings_updated (call : StateCall) (row : Option InvestigationState) :
    findingsOf (some (call.updated tenantId investigationId row)) = findingsOf row ++ call.finding?.toList := by
  cases row <;> cases call <;> simp [findingsOf, updated, change, finding?]

theorem mem_completed_updated (call : StateCall) (row : Option InvestigationState) (persona : String) :
    persona ∈ completedOf (some (call.updated tenantId investigationId row)) ↔
      persona ∈ completedOf row ∨ call.persona? = some persona := by
  cases call with
  | appendFinding finding => cases row <;> simp [completedOf, updated, change, persona?]
  | markPersonaDone marked =>
    have own : ∀ done : List String,
        persona ∈ (if marked ∈ done then done else done ++ [marked]) ↔ persona ∈ done ∨ marked = persona := by
      intro done
      split
      · rename_i present
        constructor
        · exact .inl
        · intro either
          rcases either with known | rfl
          · exact known
          · exact present
      · simp [eq_comm]
    cases row with
    | none => simp [completedOf, updated, change, persona?, eq_comm]
    | some state => simp [completedOf, updated, change, persona?, own]

theorem serial_row (before : Option InvestigationState) (calls : List StateCall) :
    let serial := calls.foldl (fun row call => some (updated call tenantId investigationId row)) before
    findingsOf serial = findingsOf before ++ calls.filterMap finding? ∧
      ∀ persona, persona ∈ completedOf serial ↔
        persona ∈ completedOf before ++ calls.filterMap persona? := by
  induction calls generalizing before with
  | nil => simp
  | cons call rest ih =>
    obtain ⟨findings, completed⟩ := ih (some (call.updated tenantId investigationId before))
    rw [findings_updated] at findings
    constructor
    · rw [List.foldl_cons, findings]
      cases call <;> simp [finding?, List.filterMap_cons]
    · intro persona
      rw [List.foldl_cons, completed, List.mem_append, List.mem_append, mem_completed_updated]
      cases call <;> simp [persona?, List.filterMap_cons, or_assoc, eq_comm]

theorem updated_named {row : Option InvestigationState} (call : StateCall)
    (named : ∀ state, row = some state → state.tenantId = tenantId ∧ state.investigationId = investigationId) :
    (call.updated tenantId investigationId row).tenantId = tenantId ∧
      (call.updated tenantId investigationId row).investigationId = investigationId := by
  cases row with
  | none => cases call <;> exact ⟨rfl, rfl⟩
  | some state => cases call <;> exact named state rfl

end

end StateCall

namespace PostgresInvestigationStateStore

theorem get_call (store : PostgresInvestigationStateStore) (tenantId investigationId : String) (call : StateCall) :
    (store.call tenantId investigationId call).get tenantId investigationId =
      some (call.updated tenantId investigationId (store.get tenantId investigationId)) :=
  store.get_upsert (call.updated_named tenantId investigationId fun _ => store.named_of_get)

theorem get_calls (store : PostgresInvestigationStateStore) (tenantId investigationId : String)
    (calls : List StateCall) :
    (store.calls tenantId investigationId calls).get tenantId investigationId =
      calls.foldl (fun row call => some (call.updated tenantId investigationId row))
        (store.get tenantId investigationId) := by
  induction calls generalizing store with
  | nil => rfl
  | cons call rest ih =>
    rw [List.foldl_cons, ← get_call]
    exact ih (store.call tenantId investigationId call)

end PostgresInvestigationStateStore

namespace InMemoryInvestigationStateStore

def call (store : InMemoryInvestigationStateStore) (tenantId investigationId : String) :
    StateCall → InMemoryInvestigationStateStore
  | .appendFinding finding => store.appendFinding tenantId investigationId finding
  | .markPersonaDone persona => store.markPersonaDone tenantId investigationId persona

theorem get_call (store : InMemoryInvestigationStateStore) (tenantId investigationId : String) (call : StateCall) :
    (store.call tenantId investigationId call).get tenantId investigationId =
      some (call.updated tenantId investigationId (store.get tenantId investigationId)) := by
  cases call <;> exact Dict.get?_set_self _ _ _

end InMemoryInvestigationStateStore

end CysAgi
