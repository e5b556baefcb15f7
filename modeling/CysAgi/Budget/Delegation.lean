import Mathlib.Algebra.Order.BigOperators.Group.Finset
import Mathlib.Algebra.Order.Ring.Unbundled.Rat
import CysAgi.Base.Transition
import CysAgi.Workers.JobBudget

namespace CysAgi

open Py

/-- `int(value)`, which truncates. -/
def intOf (value : Rat) : Int := value.num.tdiv value.den

/-- The budget of a session that `nested_delegate_budget` splits off. -/
def nestedBudget (parent : JobBudgetState) (fraction : Rat) : JobBudgetState :=
  let remainingTools := max 1 (parent.maxToolCalls - parent.toolCalls)
  let remainingTokens := max 1000 (parent.maxTokens - parent.tokensUsed)
  { maxTokens := max 1000 (intOf (remainingTokens * fraction))
    maxCostUsd := max (1 / 20) (parent.maxCostUsd * fraction)
    maxToolCalls := max 1 (intOf (remainingTools * fraction)) }

/-- The start of `nested_delegate_budget`, nothing where the parent has no budget. -/
def nestedDelegateBudget (tracker : JobBudgetTracker) (parentSessionId childSessionId : String)
    (fraction : Rat) : Option JobBudgetTracker :=
  match tracker.get parentSessionId with
  | none => none
  | some parent =>
    let nested := nestedBudget parent fraction
    some (tracker.configure childSessionId nested.maxTokens nested.maxCostUsd nested.maxToolCalls "cybersec-soc")

/-- The sessions that `DelegateResearch.execute` delegates from and to. -/
def delegateSessions (contextId tenantId : String) : String × String :=
  let invId := if contextId = "" then "delegate-" ++ tenantId else contextId
  let parentSession := "delegate:research:" ++ invId
  (parentSession, parentSession ++ ":child")

inductive Charge where
  | tokens (count : Int)
  | toolCall
  deriving DecidableEq

inductive Resource where
  | tokens
  | toolCalls
  deriving DecidableEq

def Charge.amount : Charge → Resource → Int
  | .tokens count, .tokens => max 0 count
  | .toolCall, .toolCalls => 1
  | _, _ => 0

theorem Charge.amount_nonneg (charge : Charge) (resource : Resource) : 0 ≤ charge.amount resource := by
  cases charge <;> cases resource <;> simp [amount]

namespace JobBudgetState

def limit (state : JobBudgetState) : Resource → Int
  | .tokens => max 0 state.maxTokens
  | .toolCalls => max 0 state.maxToolCalls

def left (state : JobBudgetState) : Resource → Int
  | .tokens => max 0 (state.maxTokens - state.tokensUsed)
  | .toolCalls => max 0 (state.maxToolCalls - state.toolCalls)

theorem left_nonneg (state : JobBudgetState) (resource : Resource) : 0 ≤ state.left resource := by
  cases resource <;> exact le_max_left _ _

end JobBudgetState

namespace JobBudgetTracker

variable {tracker : JobBudgetTracker} {sessionId : String}

def charge (tracker : JobBudgetTracker) (sessionId : String) : Charge → JobBudgetTracker × Option PyExc
  | .tokens count => tracker.recordTokens sessionId count
  | .toolCall =>
    match tracker.recordToolCall sessionId with
    | .error e => (tracker, some e)
    | .ok after => (after, none)

def Admits (tracker : JobBudgetTracker) (sessionId : String) : Charge → Prop
  | .tokens count => ∀ state, tracker.get sessionId = some state → 0 < count →
    (state.charged count (tracker.costRate sessionId)).checkLimits = none
  | .toolCall => tracker.checkToolCall sessionId = none

def paid (tracker : JobBudgetTracker) (sessionId : String) (charge : Charge) (resource : Resource) : Int :=
  if (tracker.charge sessionId charge).2 = none then charge.amount resource else 0

theorem charge_accepted_iff (charge : Charge) :
    (tracker.charge sessionId charge).2 = none ↔ tracker.Admits sessionId charge := by
  cases charge with
  | tokens count =>
    unfold JobBudgetTracker.charge Admits
    cases tracked : tracker.get sessionId with
    | none => simp [recordTokens_untracked tracked]
    | some state =>
      by_cases ignored : count ≤ 0
      · simp only [recordTokens_ignored tracker sessionId ignored, true_iff]
        intro _ _ positive
        omega
      · have positive : 0 < count := by omega
        simp [recordTokens_tracked tracked positive, positive]
  | toolCall =>
    unfold JobBudgetTracker.charge recordToolCall Admits
    cases tracker.checkToolCall sessionId <;> simp

theorem paid_admitted {charge : Charge} (admitted : tracker.Admits sessionId charge) (resource : Resource) :
    tracker.paid sessionId charge resource = charge.amount resource :=
  if_pos ((charge_accepted_iff charge).mpr admitted)

theorem paid_refused {charge : Charge} (refused : ¬ tracker.Admits sessionId charge) (resource : Resource) :
    tracker.paid sessionId charge resource = 0 :=
  if_neg fun accepted => refused ((charge_accepted_iff charge).mp accepted)

theorem get_charge_ne {other : String} (charge : Charge) (ne : other ≠ sessionId) :
    (tracker.charge sessionId charge).1.get other = tracker.get other := by
  cases charge with
  | tokens count =>
    simp only [JobBudgetTracker.charge]
    cases tracked : tracker.get sessionId with
    | none => rw [recordTokens_untracked tracked]
    | some state =>
      by_cases ignored : count ≤ 0
      · rw [recordTokens_ignored tracker sessionId ignored]
      · rw [recordTokens_tracked tracked (by omega)]
        exact Dict.get?_set_of_ne tracker.states _ ne
  | toolCall =>
    simp only [JobBudgetTracker.charge]
    cases counted : tracker.recordToolCall sessionId with
    | error e => rfl
    | ok after =>
      have same := recordToolCall_ok counted other
      rw [if_neg ne] at same
      exact same

theorem charge_tokens_tracked {state : JobBudgetState} (tracked : tracker.get sessionId = some state) (count : Int) :
    ∃ after, (tracker.charge sessionId (.tokens count)).1.get sessionId = some after ∧
      ∀ resource, after.left resource + tracker.paid sessionId (.tokens count) resource ≤ state.left resource := by
  by_cases ignored : count ≤ 0
  · have same := recordTokens_ignored tracker sessionId ignored
    refine ⟨state, ?_, ?_⟩
    · simp only [JobBudgetTracker.charge]
      rw [same]
      exact tracked
    · intro resource
      simp only [paid, JobBudgetTracker.charge, same, if_pos]
      cases resource with
      | tokens => simp only [Charge.amount]; omega
      | toolCalls => simp only [Charge.amount]; omega
  · have recorded := recordTokens_tracked tracked (show 0 < count by omega)
    refine ⟨state.charged count (tracker.costRate sessionId), ?_, ?_⟩
    · simp only [JobBudgetTracker.charge]
      rw [recorded]
      exact Dict.get?_set_self tracker.states _ _
    · intro resource
      simp only [paid, JobBudgetTracker.charge, recorded]
      by_cases within : (state.charged count (tracker.costRate sessionId)).checkLimits = none
      · have below := JobBudgetState.tokens_within within
        simp only [JobBudgetState.charged] at below
        rw [if_pos within]
        cases resource with
        | tokens => simp only [Charge.amount, JobBudgetState.left, JobBudgetState.charged]; omega
        | toolCalls => simp only [Charge.amount, JobBudgetState.left, JobBudgetState.charged]; omega
      · rw [if_neg within]
        cases resource with
        | tokens => simp only [JobBudgetState.left, JobBudgetState.charged]; omega
        | toolCalls => simp only [JobBudgetState.left, JobBudgetState.charged]; omega

theorem charge_toolCall_below {state : JobBudgetState} (tracked : tracker.get sessionId = some state)
    (below : state.toolCalls < state.maxToolCalls) :
    (tracker.charge sessionId .toolCall).1.get sessionId = some { state with toolCalls := state.toolCalls + 1 } ∧
      ∀ resource, tracker.paid sessionId .toolCall resource = Charge.toolCall.amount resource := by
  obtain ⟨counted, recorded⟩ := recordToolCall_below tracked below
  have after := recordToolCall_ok recorded sessionId
  rw [if_pos rfl, tracked] at after
  simp only [paid, JobBudgetTracker.charge, recorded, if_pos]
  exact ⟨after, fun _ => trivial⟩

theorem charge_toolCall_tracked {state : JobBudgetState} (tracked : tracker.get sessionId = some state) :
    ∃ after, (tracker.charge sessionId .toolCall).1.get sessionId = some after ∧
      ∀ resource, after.left resource + tracker.paid sessionId .toolCall resource ≤ state.left resource := by
  by_cases below : state.toolCalls < state.maxToolCalls
  · obtain ⟨after, paid⟩ := charge_toolCall_below tracked below
    refine ⟨_, after, ?_⟩
    intro resource
    rw [paid]
    cases resource with
    | tokens => simp only [Charge.amount, JobBudgetState.left]; omega
    | toolCalls => simp only [Charge.amount, JobBudgetState.left]; omega
  · have spent : tracker.checkToolCall sessionId ≠ none := fun unspent =>
      below ((checkToolCall_none_iff tracked).mp unspent)
    obtain ⟨e, raised⟩ := Option.ne_none_iff_exists'.mp spent
    have refused : tracker.recordToolCall sessionId = .error e := by
      unfold recordToolCall
      rw [raised]
    simp only [paid, JobBudgetTracker.charge, refused]
    refine ⟨state, tracked, ?_⟩
    intro resource
    simp

theorem charge_untracked (charge : Charge) (untracked : tracker.get sessionId = none) :
    (tracker.charge sessionId charge).1.get sessionId = none := by
  cases charge with
  | tokens count =>
    simp only [JobBudgetTracker.charge, recordTokens_untracked untracked]
    exact untracked
  | toolCall =>
    obtain ⟨_, after, counted, still⟩ := untracked_call tracker sessionId untracked
    simp only [JobBudgetTracker.charge, counted]
    exact still

theorem charge_tracked {state : JobBudgetState} (charge : Charge) (tracked : tracker.get sessionId = some state) :
    ∃ after, (tracker.charge sessionId charge).1.get sessionId = some after ∧
      ∀ resource, after.left resource + tracker.paid sessionId charge resource ≤ state.left resource := by
  cases charge with
  | tokens count => exact charge_tokens_tracked tracked count
  | toolCall => exact charge_toolCall_tracked tracked

end JobBudgetTracker

structure Delegations where
  root : String
  tracker : JobBudgetTracker
  descendants : Finset String := ∅
  /-- The child of each `nested_delegate_budget` that has not exited. -/
  entered : List String := []
  accepted : Resource → Int := fun _ => 0

inductive DelegationStep where
  | delegate (parent child : String) (fraction : Rat)
  | exit (index : Nat)
  | charge (sessionId : String) (charge : Charge)

/-- `DelegateResearch.execute` up to the delegate's run. -/
def delegateResearch (contextId tenantId : String) (fraction : Rat) : DelegationStep :=
  .delegate (delegateSessions contextId tenantId).1 (delegateSessions contextId tenantId).2 fraction

namespace Delegations

def Member (s : Delegations) (sessionId : String) : Prop := sessionId = s.root ∨ sessionId ∈ s.descendants

instance (s : Delegations) (sessionId : String) : Decidable (s.Member sessionId) :=
  inferInstanceAs (Decidable (_ ∨ _))

def delegate (s : Delegations) (parent child : String) (fraction : Rat) : Delegations :=
  let descendants := if child = s.root then s.descendants else insert child s.descendants
  match nestedDelegateBudget s.tracker parent child fraction with
  | none => { s with descendants }
  | some tracker => { s with descendants, tracker, entered := s.entered ++ [child] }

def exit (s : Delegations) (index : Nat) (child : String) : Delegations :=
  { s with tracker := s.tracker.clear child, entered := s.entered.eraseIdx index }

def charge (s : Delegations) (sessionId : String) (charge : Charge) : Delegations :=
  { s with
    tracker := (s.tracker.charge sessionId charge).1
    accepted := fun resource => s.accepted resource + s.tracker.paid sessionId charge resource }

def step (s : Delegations) : DelegationStep → Option Delegations
  | .delegate parent child fraction =>
    if s.Member parent ∧ 0 < fraction ∧ fraction ≤ 1 then some (s.delegate parent child fraction) else none
  | .exit index =>
    match s.entered[index]? with
    | none => none
    | some child => some (s.exit index child)
  | .charge sessionId charge => if s.Member sessionId then some (s.charge sessionId charge) else none

def Within (budget : JobBudgetState) (s : Delegations) : Prop :=
  ∀ resource, s.accepted resource ≤ budget.limit resource

def outstanding (s : Delegations) (resource : Resource) (sessionId : String) : Int :=
  match s.tracker.get sessionId with
  | none => 0
  | some state => state.left resource

def committed (s : Delegations) (sessions : Finset String) (resource : Resource) : Int :=
  s.accepted resource + ∑ sessionId ∈ sessions, s.outstanding resource sessionId

def granted (s : Delegations) (parent child : String) (fraction : Rat) (resource : Resource) : Int :=
  match s.tracker.get parent with
  | none => s.outstanding resource child
  | some state => (nestedBudget state fraction).left resource

/-- A delegation, and a charge that no delegated budget was opened for, take no more than what
    neither was charged yet nor is held open for the descendants. -/
def Fits (budget : JobBudgetState) (s : Delegations) : DelegationStep → Prop
  | .delegate parent child fraction => ∀ resource,
    s.committed (s.descendants.erase child) resource + s.granted parent child fraction resource ≤
      budget.limit resource
  | .exit _ => True
  | .charge sessionId charge =>
    sessionId ∈ s.descendants ∧ s.tracker.get sessionId ≠ none ∨
      (s.tracker.Admits sessionId charge → ∀ resource,
        s.committed s.descendants resource + charge.amount resource ≤ budget.limit resource)

structure Covered (budget : JobBudgetState) (s : Delegations) : Prop where
  apart : s.root ∉ s.descendants
  held : ∀ resource, s.committed s.descendants resource ≤ budget.limit resource

variable {budget : JobBudgetState} {s t : Delegations} {sessions : Finset String} {resource : Resource}

theorem outstanding_nonneg (s : Delegations) (resource : Resource) (sessionId : String) :
    0 ≤ s.outstanding resource sessionId := by
  unfold outstanding
  cases s.tracker.get sessionId with
  | none => exact Int.le_refl 0
  | some state => exact state.left_nonneg resource

theorem accepted_le_committed : s.accepted resource ≤ s.committed sessions resource := by
  have nonneg := Finset.sum_nonneg fun sessionId (_ : sessionId ∈ sessions) => s.outstanding_nonneg resource sessionId
  unfold committed
  omega

theorem committed_insert (s : Delegations) (sessions : Finset String) (sessionId : String) (resource : Resource) :
    s.committed (insert sessionId sessions) resource =
      s.committed (sessions.erase sessionId) resource + s.outstanding resource sessionId := by
  have split := Finset.add_sum_erase (insert sessionId sessions) (s.outstanding resource)
    (Finset.mem_insert_self sessionId sessions)
  rw [Finset.erase_insert_eq_erase] at split
  unfold committed
  omega

theorem committed_mono (accepted : t.accepted resource = s.accepted resource)
    (fewer : ∀ sessionId ∈ sessions, t.outstanding resource sessionId ≤ s.outstanding resource sessionId) :
    t.committed sessions resource ≤ s.committed sessions resource := by
  have summed := Finset.sum_le_sum fewer
  unfold committed
  omega

theorem Covered.within (covered : Covered budget s) : Within budget s := by
  intro resource
  exact le_trans accepted_le_committed (covered.held resource)

section

variable {parent child : String} {fraction : Rat}

theorem delegate_fields (s : Delegations) (parent child : String) (fraction : Rat) :
    (s.delegate parent child fraction).root = s.root ∧
      (s.delegate parent child fraction).accepted = s.accepted ∧
      (s.delegate parent child fraction).descendants =
        if child = s.root then s.descendants else insert child s.descendants := by
  unfold delegate
  cases nestedDelegateBudget s.tracker parent child fraction with
  | none => exact ⟨rfl, rfl, rfl⟩
  | some tracker => exact ⟨rfl, rfl, rfl⟩

theorem outstanding_delegate (s : Delegations) (resource : Resource) (sessionId : String) :
    (s.delegate parent child fraction).outstanding resource sessionId =
      if sessionId = child then s.granted parent child fraction resource else s.outstanding resource sessionId := by
  unfold delegate granted nestedDelegateBudget
  cases s.tracker.get parent with
  | none =>
    show s.outstanding resource sessionId = _
    split
    · rename_i same
      rw [same]
    · rfl
  | some state =>
    unfold outstanding JobBudgetTracker.configure JobBudgetTracker.get
    dsimp only
    rw [Dict.get?_set]
    by_cases same : sessionId = child
    · rw [if_pos same, if_pos same]
      rfl
    · rw [if_neg same, if_neg same]

theorem committed_delegate (notin : child ∉ sessions) :
    (s.delegate parent child fraction).committed sessions resource = s.committed sessions resource := by
  have same : ∀ sessionId ∈ sessions,
      (s.delegate parent child fraction).outstanding resource sessionId = s.outstanding resource sessionId := by
    intro sessionId member
    rw [outstanding_delegate, if_neg]
    intro eq
    rw [eq] at member
    exact notin member
  unfold committed
  rw [Finset.sum_congr rfl same, (delegate_fields s parent child fraction).2.1]

theorem covered_delegate (covered : Covered budget s) (fits : s.Fits budget (.delegate parent child fraction)) :
    Covered budget (s.delegate parent child fraction) := by
  obtain ⟨root, accepted, descendants⟩ := delegate_fields s parent child fraction
  by_cases own : child = s.root
  · rw [if_pos own] at descendants
    constructor
    · rw [root, descendants]
      exact covered.apart
    · intro resource
      rw [descendants, committed_delegate (by rw [own]; exact covered.apart)]
      exact covered.held resource
  · rw [if_neg own] at descendants
    constructor
    · rw [root, descendants, Finset.mem_insert]
      intro member
      rcases member with same | member
      · exact own same.symm
      · exact covered.apart member
    · intro resource
      rw [descendants, committed_insert, committed_delegate (Finset.notMem_erase _ _), outstanding_delegate,
        if_pos rfl]
      exact fits resource

end

theorem outstanding_exit (index : Nat) (child sessionId : String) (resource : Resource) :
    (s.exit index child).outstanding resource sessionId ≤ s.outstanding resource sessionId := by
  by_cases same : sessionId = child
  · have cleared : (s.exit index child).tracker.get sessionId = none := by
      rw [same]
      exact JobBudgetTracker.get_clear s.tracker child
    have nothing : (s.exit index child).outstanding resource sessionId = 0 := by
      unfold outstanding
      rw [cleared]
    rw [nothing]
    exact s.outstanding_nonneg resource sessionId
  · have kept : (s.exit index child).tracker.get sessionId = s.tracker.get sessionId :=
      JobBudgetTracker.get_clear_ne s.tracker same
    unfold outstanding
    rw [kept]

theorem covered_exit {index : Nat} {child : String} (covered : Covered budget s) :
    Covered budget (s.exit index child) := by
  constructor
  · exact covered.apart
  · intro resource
    have fewer : (s.exit index child).committed s.descendants resource ≤ s.committed s.descendants resource := by
      apply committed_mono
      · rfl
      · intro sessionId _
        exact outstanding_exit index child sessionId resource
    exact le_trans fewer (covered.held resource)
section

variable {sessionId : String} {charge : Charge}

theorem paid_nonneg : 0 ≤ s.tracker.paid sessionId charge resource := by
  by_cases admitted : s.tracker.Admits sessionId charge
  · rw [JobBudgetTracker.paid_admitted admitted]
    exact charge.amount_nonneg resource
  · rw [JobBudgetTracker.paid_refused admitted]

theorem outstanding_charge_ne {other : String} (ne : other ≠ sessionId) :
    (s.charge sessionId charge).outstanding resource other = s.outstanding resource other := by
  unfold outstanding Delegations.charge
  dsimp only
  rw [JobBudgetTracker.get_charge_ne charge ne]

theorem outstanding_charge_tracked (charge : Charge) (resource : Resource) (tracked : s.tracker.get sessionId ≠ none) :
    (s.charge sessionId charge).outstanding resource sessionId + s.tracker.paid sessionId charge resource ≤
      s.outstanding resource sessionId := by
  obtain ⟨state, known⟩ := Option.ne_none_iff_exists'.mp tracked
  obtain ⟨after, charged, less⟩ := JobBudgetTracker.charge_tracked charge known
  unfold outstanding Delegations.charge
  simp only [charged, known]
  exact less resource

theorem outstanding_charge_le (s : Delegations) (sessionId : String) (charge : Charge) (resource : Resource)
    (other : String) :
    (s.charge sessionId charge).outstanding resource other ≤ s.outstanding resource other := by
  by_cases same : other = sessionId
  · rw [same]
    by_cases tracked : s.tracker.get sessionId = none
    · have untracked := JobBudgetTracker.charge_untracked charge tracked
      unfold outstanding Delegations.charge
      simp only [untracked]
      exact s.outstanding_nonneg resource sessionId
    · have less := outstanding_charge_tracked charge resource tracked
      have paid : 0 ≤ s.tracker.paid sessionId charge resource := paid_nonneg
      omega
  · rw [outstanding_charge_ne same]

theorem covered_charge (covered : Covered budget s) (fits : s.Fits budget (.charge sessionId charge)) :
    Covered budget (s.charge sessionId charge) := by
  constructor
  · exact covered.apart
  · intro resource
    have before := covered.held resource
    show s.accepted resource + s.tracker.paid sessionId charge resource +
      ∑ other ∈ s.descendants, (s.charge sessionId charge).outstanding resource other ≤ budget.limit resource
    rcases fits with ⟨member, tracked⟩ | fits
    · have apart := Finset.add_sum_erase s.descendants (s.outstanding resource) member
      have apart' := Finset.add_sum_erase s.descendants ((s.charge sessionId charge).outstanding resource) member
      have others : ∑ other ∈ s.descendants.erase sessionId, (s.charge sessionId charge).outstanding resource other =
          ∑ other ∈ s.descendants.erase sessionId, s.outstanding resource other :=
        Finset.sum_congr rfl fun other member => outstanding_charge_ne (Finset.ne_of_mem_erase member)
      have less := outstanding_charge_tracked charge resource tracked
      unfold committed at before
      omega
    · have fewer := Finset.sum_le_sum fun other (_ : other ∈ s.descendants) =>
        outstanding_charge_le s sessionId charge resource other
      unfold committed at before
      by_cases admitted : s.tracker.Admits sessionId charge
      · have room := fits admitted resource
        unfold committed at room
        rw [JobBudgetTracker.paid_admitted admitted]
        omega
      · rw [JobBudgetTracker.paid_refused admitted]
        omega

end

theorem charge_toolCall_open (room : 0 < s.outstanding .toolCalls sessionId) :
    (s.charge sessionId .toolCall).outstanding .toolCalls sessionId + 1 = s.outstanding .toolCalls sessionId ∧
      (s.charge sessionId .toolCall).accepted .toolCalls = s.accepted .toolCalls + 1 := by
  cases tracked : s.tracker.get sessionId with
  | none =>
    unfold outstanding at room
    rw [tracked] at room
    exact absurd room (Int.lt_irrefl 0)
  | some state =>
    have below : state.toolCalls < state.maxToolCalls := by
      unfold outstanding at room
      rw [tracked] at room
      simp only [JobBudgetState.left] at room
      omega
    obtain ⟨after, paid⟩ := JobBudgetTracker.charge_toolCall_below tracked below
    constructor
    · unfold outstanding Delegations.charge
      simp only [after, tracked, JobBudgetState.left]
      omega
    · show s.accepted .toolCalls + s.tracker.paid sessionId .toolCall .toolCalls = _
      rw [paid]
      rfl

theorem committed_charge_open (member : sessionId ∈ s.descendants)
    (room : 0 < s.outstanding .toolCalls sessionId) :
    (s.charge sessionId .toolCall).committed s.descendants .toolCalls = s.committed s.descendants .toolCalls := by
  obtain ⟨drawn, counted⟩ := charge_toolCall_open room
  have apart := Finset.add_sum_erase s.descendants (s.outstanding .toolCalls) member
  have apart' := Finset.add_sum_erase s.descendants ((s.charge sessionId .toolCall).outstanding .toolCalls) member
  have others : ∑ other ∈ s.descendants.erase sessionId, (s.charge sessionId .toolCall).outstanding .toolCalls other =
      ∑ other ∈ s.descendants.erase sessionId, s.outstanding .toolCalls other :=
    Finset.sum_congr rfl fun other member => outstanding_charge_ne (Finset.ne_of_mem_erase member)
  unfold committed
  omega

theorem overcommitted_exceeds {limit : Int} (commits : limit < s.committed s.descendants .toolCalls) :
    ∃ (sessions : List String) (t : Delegations), (∀ sessionId ∈ sessions, sessionId ∈ s.descendants) ∧
      Transition.run step s (sessions.map fun sessionId => .charge sessionId .toolCall) = some t ∧
      limit < t.accepted .toolCalls := by
  induction open' : (∑ sessionId ∈ s.descendants, s.outstanding .toolCalls sessionId).toNat generalizing s with
  | zero =>
    refine ⟨[], s, ?_, rfl, ?_⟩
    · intro sessionId member
      cases member
    · unfold committed at commits
      omega
  | succ n ih =>
    -- Some descendant has a call left; charging it moves one call from what is open to what is accepted.
    obtain ⟨sessionId, member, room⟩ : ∃ sessionId ∈ s.descendants, 0 < s.outstanding .toolCalls sessionId := by
      by_contra nobody
      have nothing : ∑ sessionId ∈ s.descendants, s.outstanding .toolCalls sessionId ≤ 0 := by
        apply Finset.sum_nonpos
        intro sessionId member
        by_contra positive
        exact nobody ⟨sessionId, member, by omega⟩
      omega
    have kept := committed_charge_open member room
    have counted := (charge_toolCall_open room).2
    have fewer : (∑ other ∈ s.descendants, (s.charge sessionId .toolCall).outstanding .toolCalls other).toNat = n := by
      unfold committed at kept
      omega
    rw [← kept] at commits
    obtain ⟨rest, t, members, reached, above⟩ := ih (s := s.charge sessionId .toolCall) commits fewer
    refine ⟨sessionId :: rest, t, ?_, ?_, above⟩
    · intro other listed
      rcases List.mem_cons.mp listed with rfl | listed
      · exact member
      · exact members other listed
    · have taken : s.step (.charge sessionId .toolCall) = some (s.charge sessionId .toolCall) :=
        if_pos (.inr member)
      simp only [List.map_cons, Transition.run, taken]
      exact reached

theorem covered_step {action : DelegationStep} (covered : Covered budget s) (fits : s.Fits budget action)
    (taken : s.step action = some t) : Covered budget t := by
  cases action with
  | delegate parent child fraction =>
    simp only [step, Option.ite_none_right_eq_some, Option.some.injEq] at taken
    rw [← taken.2]
    exact covered_delegate covered fits
  | exit index =>
    simp only [step] at taken
    cases left : s.entered[index]? with
    | none =>
      rw [left] at taken
      cases taken
    | some child =>
      rw [left] at taken
      cases taken
      exact covered_exit covered
  | charge sessionId charge =>
    simp only [step, Option.ite_none_right_eq_some, Option.some.injEq] at taken
    rw [← taken.2]
    exact covered_charge covered fits

end Delegations

def budgetedSession (tracker : JobBudgetTracker) (sessionId : String) (maxTokens : Int) (maxCostUsd : Rat)
    (maxToolCalls : Int) (profileId : String) : Delegations :=
  { root := sessionId, tracker := tracker.configure sessionId maxTokens maxCostUsd maxToolCalls profileId }

/-- While delegations and unreserved charges fit into what is left, the session and all its
    descendants together are charged no more than its budget. -/
theorem delegated_charges_within (tracker : JobBudgetTracker) (sessionId : String) (maxTokens : Int)
    (maxCostUsd : Rat) (maxToolCalls : Int) (profileId : String) (steps : List DelegationStep)
    (fits : Transition.Guarded Delegations.step (Delegations.Fits { maxTokens, maxCostUsd, maxToolCalls })
      (budgetedSession tracker sessionId maxTokens maxCostUsd maxToolCalls profileId) steps) :
    Transition.Always Delegations.step (Delegations.Within { maxTokens, maxCostUsd, maxToolCalls })
      (budgetedSession tracker sessionId maxTokens maxCostUsd maxToolCalls profileId) steps := by
  apply Transition.always_of_guarded (Delegations.Covered { maxTokens, maxCostUsd, maxToolCalls })
  · intro s covered
    exact covered.within
  · intro s action t covered fits taken
    exact Delegations.covered_step covered fits taken
  · constructor
    · exact Finset.notMem_empty sessionId
    · intro resource
      cases resource <;> exact le_max_left _ _
  · exact fits

theorem overdrawn {budget : JobBudgetState} {s : Delegations} {steps : List DelegationStep} {resource : Resource}
    {total : Int} (charged : (Transition.run Delegations.step s steps).map (·.accepted resource) = some total)
    (above : budget.limit resource < total) :
    ¬ Transition.Always Delegations.step (Delegations.Within budget) s steps := by
  intro always
  obtain ⟨t, reached, rfl⟩ := Option.map_eq_some_iff.mp charged
  have within : t.accepted resource ≤ budget.limit resource := always.last reached resource
  omega

def conductorSession : Delegations :=
  budgetedSession .empty (delegateSessions "inv-1" "default").1 60000 3 1 "cybersec-soc"

def researchCharge (charge : Charge) : DelegationStep := .charge (delegateSessions "inv-1" "default").2 charge

theorem early_delegation_fits :
    Transition.Guarded Delegations.step
      (Delegations.Fits { maxTokens := 60000, maxCostUsd := 3, maxToolCalls := 1 }) conductorSession
      [delegateResearch "inv-1" "default" (35 / 100), researchCharge (.tokens 1000)] := by
  constructor
  · intro resource
    cases resource <;> decide +kernel
  · intro t taken
    have known : (Delegations.step conductorSession (delegateResearch "inv-1" "default" (35 / 100))).all
        (fun u => (delegateSessions "inv-1" "default").2 ∈ u.descendants ∧
          u.tracker.get (delegateSessions "inv-1" "default").2 ≠ none) = true := by decide +kernel
    rw [taken] at known
    exact ⟨.inl (of_decide_eq_true known), fun _ _ => trivial⟩

theorem early_delegation_within :
    Transition.Always Delegations.step
      (Delegations.Within { maxTokens := 60000, maxCostUsd := 3, maxToolCalls := 1 }) conductorSession
      [delegateResearch "inv-1" "default" (35 / 100), researchCharge (.tokens 1000)] :=
  delegated_charges_within .empty _ 60000 3 1 "cybersec-soc" _ early_delegation_fits

def spentTokens : List DelegationStep :=
  [.charge conductorSession.root (.tokens 60000), delegateResearch "inv-1" "default" (35 / 100),
    researchCharge (.tokens 1000)]

def spentToolCalls : List DelegationStep :=
  [.charge conductorSession.root .toolCall, delegateResearch "inv-1" "default" (35 / 100), researchCharge .toolCall]

/-- A session that has spent its tokens, or its tool calls, still delegates the least budget. -/
theorem delegated_charges_exceed :
    ¬ Transition.Always Delegations.step
        (Delegations.Within { maxTokens := 60000, maxCostUsd := 3, maxToolCalls := 1 }) conductorSession spentTokens ∧
      ¬ Transition.Always Delegations.step
        (Delegations.Within { maxTokens := 60000, maxCostUsd := 3, maxToolCalls := 1 }) conductorSession
        spentToolCalls := by
  constructor
  · have charged : (Transition.run Delegations.step conductorSession spentTokens).map (·.accepted .tokens) =
        some 61000 := by decide +kernel
    exact overdrawn charged (by decide)
  · have charged : (Transition.run Delegations.step conductorSession spentToolCalls).map (·.accepted .toolCalls) =
        some 2 := by decide +kernel
    exact overdrawn charged (by decide)

end CysAgi
