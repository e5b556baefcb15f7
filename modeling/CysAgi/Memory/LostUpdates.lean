import CysAgi.Memory.PostgresStore
import Mathlib.Data.List.InsertIdx

namespace CysAgi

open Py

/-- A call between its `get` and its `upsert`. -/
structure PendingCall (tenantId investigationId : String) where
  call : StateCall
  got : Option InvestigationState
  named : ∀ state, got = some state →
    state.tenantId = tenantId ∧ state.investigationId = investigationId

/-- The store, the calls of the workers that have read the investigation's row and not yet
    written it, and those that have. -/
structure StoreSystem (tenantId investigationId : String) where
  store : PostgresInvestigationStateStore
  reads : List (PendingCall tenantId investigationId) := []
  done : List StateCall := []

inductive StoreStep where
  | get (call : StateCall)
  | upsert (read : Nat)

namespace StoreSystem

def initial (tenantId investigationId : String) (store : PostgresInvestigationStateStore) :
    StoreSystem tenantId investigationId := { store }

section

variable {tenantId investigationId : String}

def row (s : StoreSystem tenantId investigationId) : Option InvestigationState :=
  s.store.get tenantId investigationId

def step (s : StoreSystem tenantId investigationId) : StoreStep → Option (StoreSystem tenantId investigationId)
  | .get call => some
    { s with reads := s.reads ++ [{ call, got := s.row, named := fun _ => s.store.named_of_get }] }
  | .upsert read => s.reads[read]?.map fun pending =>
    { store := s.store.upsert (pending.call.updated tenantId investigationId pending.got)
      reads := s.reads.eraseIdx read
      done := s.done ++ [pending.call] }

def NothingLost (before : Option InvestigationState) (s : StoreSystem tenantId investigationId) : Prop :=
  Keeps before s.done s.row

/-- What a call upserts is based on everything that the row holds by then, but for the persona
    that it marks itself. -/
def UpToDate (s : StoreSystem tenantId investigationId) : StoreStep → Prop
  | .get _ => True
  | .upsert read => ∀ pending, s.reads[read]? = some pending →
    (∀ finding, (findingsOf s.row).count finding ≤ (findingsOf pending.got).count finding) ∧
    ∀ persona ∈ completedOf s.row, persona ∈ completedOf pending.got ∨ pending.call.persona? = some persona

def rowRules (tenantId investigationId : String) : Overwrite.Rules (Option InvestigationState) StateCall where
  apply call row := some (call.updated tenantId investigationId row)
  Within a b := (∀ finding, (findingsOf a).count finding ≤ (findingsOf b).count finding) ∧
    ∀ persona ∈ completedOf a, persona ∈ completedOf b
  refl row := ⟨fun _ => le_rfl, fun _ => id⟩
  trans first second := ⟨fun finding => (first.1 finding).trans (second.1 finding),
    fun persona member => second.2 persona (first.2 persona member)⟩
  grows call row := by
    constructor
    · intro finding
      rw [StateCall.findings_updated, List.count_append]
      omega
    · intro persona member
      rw [StateCall.mem_completed_updated]
      exact .inl member
  monotone call _ _ within := by
    constructor
    · intro finding
      rw [StateCall.findings_updated, StateCall.findings_updated, List.count_append, List.count_append]
      have fewer := within.1 finding
      omega
    · intro persona member
      rw [StateCall.mem_completed_updated] at member ⊢
      exact member.imp_left (within.2 persona)

def cell (before : Option InvestigationState) (s : StoreSystem tenantId investigationId) :
    Overwrite.Cell (Option InvestigationState) StateCall where
  record := s.row
  reads := s.reads.map fun pending => (pending.call, pending.got)
  serial := s.done.foldl (fun row call => some (call.updated tenantId investigationId row)) before

def move : StoreStep → Overwrite.Move StateCall
  | .get call => .read call
  | .upsert read => .write read

def overwritten (before : Option InvestigationState) :
    Transition.Embedding (@step tenantId investigationId)
      (Overwrite.step (rowRules tenantId investigationId)) where
  state := cell before
  action := move
  Inv _ := True
  invariant _ _ _ _ _ := trivial
  commutes s action _ := by
    cases action with
    | get call => simp [Overwrite.step, step, cell, move, row]
    | upsert read =>
      simp only [Overwrite.step, step, cell, move, List.getElem?_map]
      cases s.reads[read]? with
      | none => rfl
      | some pending =>
        have written := s.store.get_upsert (pending.call.updated_named tenantId investigationId pending.named)
        simp only [Option.map_some, cell, row, rowRules, written, List.eraseIdx_map, List.foldl_append,
          List.foldl_cons, List.foldl_nil]

theorem locked_keeps_all (tenantId investigationId : String) (store : InMemoryInvestigationStateStore)
    (calls : List StateCall) :
    let after := calls.foldl (fun store call => store.call tenantId investigationId call) store
    findingsOf (after.get tenantId investigationId) =
        findingsOf (store.get tenantId investigationId) ++ calls.filterMap StateCall.finding? ∧
      ∀ persona, persona ∈ completedOf (after.get tenantId investigationId) ↔
        persona ∈ completedOf (store.get tenantId investigationId) ++ calls.filterMap StateCall.persona? := by
  have row : (calls.foldl (fun store call => store.call tenantId investigationId call) store).get
      tenantId investigationId = calls.foldl (fun row call => some (call.updated tenantId investigationId row))
        (store.get tenantId investigationId) := by
    induction calls generalizing store with
    | nil => rfl
    | cons call rest ih =>
      rw [List.foldl_cons, List.foldl_cons, ih, InMemoryInvestigationStateStore.get_call]
  dsimp only
  rw [row]
  exact StateCall.serial_row tenantId investigationId (store.get tenantId investigationId) calls

theorem lossless_cell (before : Option InvestigationState) (s : StoreSystem tenantId investigationId) :
    Overwrite.Lossless (rowRules tenantId investigationId) (s.cell before) ↔ NothingLost before s := by
  obtain ⟨findings, completed⟩ := StateCall.serial_row tenantId investigationId before s.done
  unfold Overwrite.Lossless rowRules cell
  dsimp only
  rw [findings]
  simp only [completed]
  exact ⟨fun kept => ⟨kept.1, kept.2⟩, fun kept => ⟨kept.findings, kept.personas⟩⟩

theorem current_cell (before : Option InvestigationState) (s : StoreSystem tenantId investigationId)
    (action : StoreStep) :
    Overwrite.Current (rowRules tenantId investigationId) (s.cell before) (move action) ↔
      s.UpToDate action := by
  cases action with
  | get call => exact Iff.rfl
  | upsert read =>
    simp only [Overwrite.Current, UpToDate, move, cell, rowRules, List.getElem?_map]
    cases s.reads[read]? with
    | none => simp
    | some pending =>
      simp only [Option.map_some, Option.some.injEq, Prod.mk.injEq, StateCall.findings_updated,
        StateCall.mem_completed_updated, List.count_append, Nat.add_le_add_iff_right]
      constructor
      · intro current other same
        cases same
        obtain ⟨findings, completed⟩ := current pending.call pending.got ⟨rfl, rfl⟩
        exact ⟨findings, fun persona known => completed persona (.inl known)⟩
      · intro current call got given
        obtain ⟨rfl, rfl⟩ := given
        obtain ⟨findings, completed⟩ := current pending rfl
        refine ⟨findings, ?_⟩
        intro persona either
        rcases either with known | own
        · exact completed persona known
        · exact .inr own

/-- In a run nothing is lost throughout exactly when each upsert is based on an up-to-date row. -/
theorem no_lost_updates_iff {store : PostgresInvestigationStateStore} {actions : List StoreStep}
    {s : StoreSystem tenantId investigationId}
    (reached : Transition.run step (initial tenantId investigationId store) actions = some s) :
    Transition.Always step (NothingLost (store.get tenantId investigationId))
        (initial tenantId investigationId store) actions ↔
      Transition.Guarded step UpToDate (initial tenantId investigationId store) actions := by
  exact (overwritten (store.get tenantId investigationId)).always_iff_guarded (fun s _ => lossless_cell _ s)
    (fun s action _ => current_cell _ s action) trivial reached Overwrite.lossless_iff_current

end

def sampleFinding : JsonDict := [("persona", .str "soc"), ("job_id", .str "job-1")]

def sampleCalls : List StateCall := [.appendFinding sampleFinding, .markPersonaDone "soc"]

def oneByOne : List StoreStep := sampleCalls.flatMap fun call => [.get call, .upsert 0]

theorem no_lost_updates_iff_one_by_one :
    Transition.Always step (NothingLost none) (initial "default" "inv-1" .empty) oneByOne ↔
      Transition.Guarded step UpToDate (initial "default" "inv-1" .empty) oneByOne :=
  no_lost_updates_iff (Option.some_get
    (show (Transition.run step (initial "default" "inv-1" .empty) oneByOne).isSome = true by decide)).symm

/-- Two workers read the row before either writes it: the finding of the first is gone. -/
theorem overwritten_finding_lost :
    ∃ s : StoreSystem "default" "inv-1",
      Transition.run step (initial _ _ .empty) (sampleCalls.map .get ++ [.upsert 0, .upsert 0]) = some s ∧
        s.reads = [] ∧ s.done = sampleCalls ∧ findingsOf s.row = [] ∧ ¬ NothingLost none s := by
  refine ⟨_, rfl, rfl, rfl, rfl, ?_⟩
  intro kept
  have stored := kept.findings sampleFinding
  revert stored
  decide

end StoreSystem

end CysAgi
