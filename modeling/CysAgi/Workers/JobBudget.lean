import CysAgi.Workers.Models

namespace CysAgi

open Py

structure JobBudgetState where
  maxTokens : Int
  maxCostUsd : Rat
  maxToolCalls : Int
  tokensUsed : Int := 0
  costUsd : Rat := 0
  toolCalls : Int := 0
  deriving DecidableEq

/-- `round` on an exact value: halves go to the even neighbour. -/
def roundHalfEven (value : Rat) : Int :=
  let below := value.floor
  let rest := value - below
  if rest < 1 / 2 then below
  else if 1 / 2 < rest then below + 1
  else if below % 2 = 0 then below
  else below + 1

/-- `f"{value:.2f}"`. -/
def fixed2 (value : Rat) : String :=
  let cents := (roundHalfEven ((if value < 0 then -value else value) * 100)).toNat
  (if value < 0 then "-" else "") ++ toString (cents / 100) ++ "." ++ toString (cents / 10 % 10) ++
    toString (cents % 10)

namespace JobBudgetState

def charged (state : JobBudgetState) (tokens : Int) (rate : Rat) : JobBudgetState :=
  { state with tokensUsed := state.tokensUsed + tokens, costUsd := state.costUsd + tokens / 1000 * rate }

def checkLimits (state : JobBudgetState) : Option PyExc :=
  if state.tokensUsed > state.maxTokens then
    some (.jobBudgetExceeded s!"Job token budget exceeded ({state.maxTokens} max)")
  else if state.costUsd > state.maxCostUsd then
    some (.jobBudgetExceeded s!"Job cost budget exceeded (${fixed2 state.maxCostUsd} max)")
  else none

theorem tokens_within {state : JobBudgetState} (within : state.checkLimits = none) :
    state.tokensUsed ≤ state.maxTokens := by
  by_contra above
  unfold checkLimits at within
  rw [if_pos (by omega)] at within
  cases within

end JobBudgetState

structure JobBudgetTracker where
  states : Dict String JobBudgetState
  profileIds : Dict String String
  profileCosts : Dict String Rat
  costPer1kTokensUsd : Rat := 3 / 1000

namespace JobBudgetTracker

def empty : JobBudgetTracker := { states := .empty, profileIds := .empty, profileCosts := .empty }

def configureJobCost (tracker : JobBudgetTracker) (costPer1kTokensUsd : Rat) (profileId : String) :
    JobBudgetTracker :=
  if profileId = "" then { tracker with costPer1kTokensUsd }
  else { tracker with profileCosts := tracker.profileCosts.set profileId costPer1kTokensUsd }

def configure (tracker : JobBudgetTracker) (sessionId : String) (maxTokens : Int) (maxCostUsd : Rat)
    (maxToolCalls : Int) (profileId : String) : JobBudgetTracker :=
  { tracker with
    states := tracker.states.set sessionId { maxTokens, maxCostUsd, maxToolCalls }
    profileIds := tracker.profileIds.set sessionId profileId }

def get (tracker : JobBudgetTracker) (sessionId : String) : Option JobBudgetState :=
  tracker.states.get? sessionId

def clear (tracker : JobBudgetTracker) (sessionId : String) : JobBudgetTracker :=
  { tracker with
    states := tracker.states.erase sessionId
    profileIds := tracker.profileIds.erase sessionId }

/-- `none` when the call may go ahead, else the exception raised. -/
def checkToolCall (tracker : JobBudgetTracker) (sessionId : String) : Option PyExc :=
  match tracker.get sessionId with
  | none => none
  | some state =>
    if state.toolCalls ≥ state.maxToolCalls then
      some (.jobBudgetExceeded s!"Job tool-call budget exceeded ({state.maxToolCalls} max)")
    else none

def recordToolCall (tracker : JobBudgetTracker) (sessionId : String) : Except PyExc JobBudgetTracker :=
  match tracker.checkToolCall sessionId with
  | some e => .error e
  | none => .ok { tracker with
      states := tracker.states.modify sessionId fun state => { state with toolCalls := state.toolCalls + 1 } }

def costRate (tracker : JobBudgetTracker) (sessionId : String) : Rat :=
  match tracker.profileIds.get? sessionId with
  | none => tracker.costPer1kTokensUsd
  | some profileId =>
    if profileId = "" then tracker.costPer1kTokensUsd
    else (tracker.profileCosts.get? profileId).getD tracker.costPer1kTokensUsd

def recordTokens (tracker : JobBudgetTracker) (sessionId : String) (tokens : Int) :
    JobBudgetTracker × Option PyExc :=
  match tracker.get sessionId with
  | none => (tracker, none)
  | some state =>
    if tokens ≤ 0 then (tracker, none)
    else
      let charged := state.charged tokens (tracker.costRate sessionId)
      ({ tracker with states := tracker.states.set sessionId charged }, charged.checkLimits)

@[simp] theorem get_clear (tracker : JobBudgetTracker) (sessionId : String) :
    (tracker.clear sessionId).get sessionId = none := by
  simp [get, clear, Dict.get?_erase]

theorem get_clear_ne (tracker : JobBudgetTracker) {sessionId other : String} (ne : other ≠ sessionId) :
    (tracker.clear sessionId).get other = tracker.get other := by
  simp [get, clear, Dict.get?_erase, ne]

variable {tracker : JobBudgetTracker} {sessionId : String} {state : JobBudgetState}

theorem checkToolCall_none_iff (tracked : tracker.get sessionId = some state) :
    tracker.checkToolCall sessionId = none ↔ state.toolCalls < state.maxToolCalls := by
  unfold checkToolCall
  rw [tracked]
  by_cases spent : state.toolCalls ≥ state.maxToolCalls
  · simp [spent]
  · simp [spent]
    omega

theorem recordToolCall_below (tracked : tracker.get sessionId = some state)
    (below : state.toolCalls < state.maxToolCalls) : ∃ after, tracker.recordToolCall sessionId = .ok after := by
  have unspent := (checkToolCall_none_iff tracked).mpr below
  unfold recordToolCall
  rw [unspent]
  exact ⟨_, rfl⟩

theorem recordToolCall_ok {after : JobBudgetTracker} (counted : tracker.recordToolCall sessionId = .ok after)
    (other : String) :
    after.get other = if other = sessionId then
      (tracker.get other).map fun state => { state with toolCalls := state.toolCalls + 1 }
    else tracker.get other := by
  unfold recordToolCall at counted
  cases checked : tracker.checkToolCall sessionId with
  | some e =>
    rw [checked] at counted
    cases counted
  | none =>
    rw [checked] at counted
    cases counted
    exact Dict.get?_modify tracker.states sessionId other _

theorem recordTokens_ignored (tracker : JobBudgetTracker) (sessionId : String) {tokens : Int}
    (ignored : tokens ≤ 0) : tracker.recordTokens sessionId tokens = (tracker, none) := by
  unfold recordTokens
  cases tracker.get sessionId with
  | none => rfl
  | some state => exact if_pos ignored

theorem recordTokens_untracked (untracked : tracker.get sessionId = none) (tokens : Int) :
    tracker.recordTokens sessionId tokens = (tracker, none) := by
  unfold recordTokens
  rw [untracked]

theorem recordTokens_tracked (tracked : tracker.get sessionId = some state) {tokens : Int}
    (positive : 0 < tokens) :
    tracker.recordTokens sessionId tokens =
      ({ tracker with states := tracker.states.set sessionId (state.charged tokens (tracker.costRate sessionId)) },
        (state.charged tokens (tracker.costRate sessionId)).checkLimits) := by
  unfold recordTokens
  rw [tracked]
  exact if_neg (by omega)

theorem untracked_call (tracker : JobBudgetTracker) (sessionId : String)
    (untracked : tracker.get sessionId = none) :
    tracker.checkToolCall sessionId = none ∧
      ∃ after, tracker.recordToolCall sessionId = .ok after ∧ after.get sessionId = none := by
  have unchecked : tracker.checkToolCall sessionId = none := by simp [checkToolCall, untracked]
  refine ⟨unchecked, _, by rw [recordToolCall, unchecked], ?_⟩
  unfold get at untracked ⊢
  simp [untracked]

end JobBudgetTracker

structure AgentCatalogEntry where
  profileId : String
  budgetMaxTokens : Option Int := none
  budgetMaxCostUsd : Option Rat := none
  budgetMaxToolCalls : Option Int := none

def defaultBudget : PersonaBudget := { maxTokens := 40000, maxCostUsd := 2 }

def personaBudgets : List (String × PersonaBudget) :=
  [("soc", { maxTokens := 50000, maxCostUsd := 2 }),
    ("network", { maxTokens := 50000, maxCostUsd := 2 }),
    ("compliance", { maxTokens := 40000, maxCostUsd := 3 / 2 }),
    ("redteam", { maxTokens := 80000, maxCostUsd := 5 }),
    ("intel", { maxTokens := 45000, maxCostUsd := 2 }),
    ("hunter", { maxTokens := 55000, maxCostUsd := 5 / 2 }),
    ("identity", { maxTokens := 50000, maxCostUsd := 2 }),
    ("dfir", { maxTokens := 60000, maxCostUsd := 3 }),
    ("cloud", { maxTokens := 50000, maxCostUsd := 2 }),
    ("purple", { maxTokens := 45000, maxCostUsd := 3 / 2 }),
    ("consultant", { maxTokens := 35000, maxCostUsd := 1 }),
    ("conductor", { maxTokens := 60000, maxCostUsd := 3 }),
    ("gaia_solver", { maxTokens := 80000, maxCostUsd := 4 }),
    ("research", { maxTokens := 55000, maxCostUsd := 5 / 2 }),
    ("coding", { maxTokens := 70000, maxCostUsd := 7 / 2 })]

def orNumber {α : Type} [OfNat α 0] [DecidableEq α] (value fallback : α) : α :=
  if value = 0 then fallback else value

/-- `persona_budget_pure`. -/
def personaBudget (persona : String) (entry : Option AgentCatalogEntry) : PersonaBudget :=
  let listed := (personaBudgets.lookup persona).getD defaultBudget
  match entry with
  | none => listed
  | some entry =>
    if entry.budgetMaxTokens = none ∧ entry.budgetMaxCostUsd = none then listed
    else
      { maxTokens := orNumber (entry.budgetMaxTokens.getD 0) defaultBudget.maxTokens
        maxCostUsd := orNumber (entry.budgetMaxCostUsd.getD 0) defaultBudget.maxCostUsd
        maxToolCalls := orNumber (entry.budgetMaxToolCalls.getD 0) defaultBudget.maxToolCalls }

def enrichJobBudget (job : WorkerJob) (entry : Option AgentCatalogEntry) : WorkerJob :=
  let budget := personaBudget job.persona entry
  { job with
    maxTokens := orNumber job.maxTokens budget.maxTokens
    maxCostUsd := orNumber job.maxCostUsd budget.maxCostUsd
    maxToolCalls := orNumber job.maxToolCalls budget.maxToolCalls }

end CysAgi
