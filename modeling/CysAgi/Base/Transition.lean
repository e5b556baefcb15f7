import Mathlib.Data.List.Basic

namespace Transition

variable {State Action : Type} (step : State → Action → Option State)

def run : State → List Action → Option State
  | s, [] => some s
  | s, action :: rest => (step s action).bind fun t => run t rest

/-- Every action of the run meets the guard in the state it is taken in. -/
def Guarded (guard : State → Action → Prop) : State → List Action → Prop
  | _, [] => True
  | s, action :: rest => guard s action ∧ ∀ t, step s action = some t → Guarded guard t rest

def Always (P : State → Prop) : State → List Action → Prop
  | s, [] => P s
  | s, action :: rest => P s ∧ ∀ t, step s action = some t → Always P t rest

variable {step}

theorem run_append (s : State) (first second : List Action) :
    run step s (first ++ second) = (run step s first).bind fun t => run step t second := by
  induction first generalizing s with
  | nil => rfl
  | cons action rest ih =>
    simp only [List.cons_append, run]
    cases step s action with
    | none => rfl
    | some t => simp [ih]

theorem run_total (total : ∀ s action, ∃ t, step s action = some t) (s : State) (actions : List Action) :
    ∃ t, run step s actions = some t := by
  induction actions generalizing s with
  | nil => exact ⟨s, rfl⟩
  | cons action rest ih =>
    obtain ⟨u, taken⟩ := total s action
    obtain ⟨t, reached⟩ := ih u
    refine ⟨t, ?_⟩
    rw [run, taken]
    exact reached

theorem invariant_run {P : State → Prop}
    (preserved : ∀ s action t, P s → step s action = some t → P t)
    {actions : List Action} {s t : State} (start : P s)
    (reached : run step s actions = some t) : P t := by
  induction actions generalizing s with
  | nil =>
    cases reached
    exact start
  | cons action rest ih =>
    simp only [run, Option.bind_eq_some_iff] at reached
    obtain ⟨u, taken, reached⟩ := reached
    exact ih (preserved s action u start taken) reached

theorem Always.head {P : State → Prop} {actions : List Action} {s : State} (always : Always step P s actions) :
    P s := by
  cases actions with
  | nil => exact always
  | cons => exact always.1

theorem Always.last {P : State → Prop} {actions : List Action} {s t : State} (always : Always step P s actions)
    (reached : run step s actions = some t) : P t := by
  induction actions generalizing s with
  | nil =>
    cases reached
    exact always
  | cons action rest ih =>
    simp only [run, Option.bind_eq_some_iff] at reached
    obtain ⟨u, taken, reached⟩ := reached
    exact ih (always.2 u taken) reached

variable (step) in
def Leads (s t : State) : Prop := ∃ actions, run step s actions = some t

theorem Leads.refl (s : State) : Leads step s s := ⟨[], rfl⟩

theorem Leads.trans {s t u : State} (first : Leads step s t) (second : Leads step t u) : Leads step s u := by
  obtain ⟨actions, ran⟩ := first
  obtain ⟨more, went⟩ := second
  refine ⟨actions ++ more, ?_⟩
  rw [run_append, ran]
  exact went

theorem Leads.single {s t : State} {action : Action} (taken : step s action = some t) : Leads step s t := by
  refine ⟨[action], ?_⟩
  rw [run, taken]
  rfl

/-- Where a step keeps the property exactly when its guard holds, a run keeps it throughout
    exactly when all its steps are guarded. -/
theorem always_iff_guarded {P : State → Prop} {guard : State → Action → Prop}
    (Inv : State → Prop)
    (invariant : ∀ s action t, Inv s → P s → guard s action → step s action = some t → Inv t)
    (exact_step : ∀ s action t, Inv s → P s → step s action = some t → (P t ↔ guard s action))
    {actions : List Action} {s t : State} (inv : Inv s) (start : P s)
    (reached : run step s actions = some t) :
    Always step P s actions ↔ Guarded step guard s actions := by
  induction actions generalizing s with
  | nil => exact ⟨fun _ => trivial, fun _ => start⟩
  | cons action rest ih =>
    simp only [run, Option.bind_eq_some_iff] at reached
    obtain ⟨u, taken, reached⟩ := reached
    have next := exact_step s action u inv start taken
    constructor
    · intro always
      have held := always.2 u taken
      have allowed := next.mp held.head
      refine ⟨allowed, ?_⟩
      intro v same
      rw [taken] at same
      cases same
      exact (ih (invariant s action u inv start allowed taken) held.head reached).mp held
    · intro guarded
      refine ⟨start, ?_⟩
      intro v same
      rw [taken] at same
      cases same
      exact (ih (invariant s action u inv start guarded.1 taken) (next.mpr guarded.1) reached).mpr
        (guarded.2 u taken)

theorem always_of_guarded {P : State → Prop} {guard : State → Action → Prop} (Inv : State → Prop)
    (holds : ∀ s, Inv s → P s)
    (preserved : ∀ s action t, Inv s → guard s action → step s action = some t → Inv t)
    {actions : List Action} {s : State} (inv : Inv s) (guarded : Guarded step guard s actions) :
    Always step P s actions := by
  induction actions generalizing s with
  | nil => exact holds s inv
  | cons action rest ih =>
    constructor
    · exact holds s inv
    · intro t taken
      exact ih (preserved s action t inv guarded.1 taken) (guarded.2 t taken)

theorem Guarded.imp {guard guard' : State → Action → Prop} (Inv : State → Prop)
    (invariant : ∀ s action t, Inv s → guard s action → step s action = some t → Inv t)
    (implied : ∀ s action, Inv s → guard s action → guard' s action) {actions : List Action} {s : State}
    (inv : Inv s) (guarded : Guarded step guard s actions) : Guarded step guard' s actions := by
  induction actions generalizing s with
  | nil => trivial
  | cons action rest ih =>
    constructor
    · exact implied s action inv guarded.1
    · intro t taken
      exact ih (invariant s action t inv guarded.1 taken) (guarded.2 t taken)

instance decidableGuarded {guard : State → Action → Prop} [decide : ∀ s action, Decidable (guard s action)] :
    (s : State) → (actions : List Action) → Decidable (Guarded step guard s actions)
  | _, [] => isTrue trivial
  | s, action :: rest =>
    match decide s action, taken : step s action with
    | isFalse refused, _ => isFalse fun guarded => refused guarded.1
    | isTrue allowed, none => isTrue ⟨allowed, fun t same => by rw [taken] at same; cases same⟩
    | isTrue allowed, some t =>
      match decidableGuarded t rest with
      | isTrue later => isTrue ⟨allowed, fun u same => by rw [taken] at same; cases same; exact later⟩
      | isFalse refused => isFalse fun guarded => refused (guarded.2 t taken)

/-- A map into the states and actions of another system that commutes with the steps, from the
    states that meet an invariant. -/
structure Embedding {State' Action' : Type} (step : State → Action → Option State)
    (step' : State' → Action' → Option State') where
  state : State → State'
  action : Action → Action'
  Inv : State → Prop
  invariant : ∀ s a t, Inv s → step s a = some t → Inv t
  commutes : ∀ s a, Inv s → step' (state s) (action a) = (step s a).map state

namespace Embedding

variable {State' Action' : Type} {step' : State' → Action' → Option State'} (e : Embedding step step')

theorem run_map {s : State} (inv : e.Inv s) (actions : List Action) :
    run step' (e.state s) (actions.map e.action) = (run step s actions).map e.state := by
  induction actions generalizing s with
  | nil => rfl
  | cons a rest ih =>
    simp only [List.map_cons, run, e.commutes s a inv]
    cases taken : step s a with
    | none => rfl
    | some t => exact ih (e.invariant s a t inv taken)

theorem always_map {P : State → Prop} {P' : State' → Prop} (same : ∀ s, e.Inv s → (P' (e.state s) ↔ P s))
    {s : State} (inv : e.Inv s) (actions : List Action) :
    Always step' P' (e.state s) (actions.map e.action) ↔ Always step P s actions := by
  induction actions generalizing s with
  | nil => exact same s inv
  | cons a rest ih =>
    simp only [List.map_cons, Always, e.commutes s a inv, same s inv]
    cases taken : step s a with
    | none => simp
    | some t => simp [ih (e.invariant s a t inv taken)]

theorem guarded_map {guard : State → Action → Prop} {guard' : State' → Action' → Prop}
    (same : ∀ s a, e.Inv s → (guard' (e.state s) (e.action a) ↔ guard s a)) {s : State} (inv : e.Inv s)
    (actions : List Action) :
    Guarded step' guard' (e.state s) (actions.map e.action) ↔ Guarded step guard s actions := by
  induction actions generalizing s with
  | nil => exact Iff.rfl
  | cons a rest ih =>
    simp only [List.map_cons, Guarded, e.commutes s a inv, same s a inv]
    cases taken : step s a with
    | none => simp
    | some t => simp [ih (e.invariant s a t inv taken)]

theorem always_iff_guarded {P : State → Prop} {P' : State' → Prop} {guard : State → Action → Prop}
    {guard' : State' → Action' → Prop} (sameP : ∀ s, e.Inv s → (P' (e.state s) ↔ P s))
    (sameGuard : ∀ s a, e.Inv s → (guard' (e.state s) (e.action a) ↔ guard s a)) {s t : State} (inv : e.Inv s)
    {actions : List Action} (reached : run step s actions = some t)
    (other : ∀ {u}, run step' (e.state s) (actions.map e.action) = some u →
      (Always step' P' (e.state s) (actions.map e.action) ↔ Guarded step' guard' (e.state s) (actions.map e.action))) :
    Always step P s actions ↔ Guarded step guard s actions := by
  have moved := e.run_map inv actions
  rw [reached] at moved
  rw [← e.always_map sameP inv actions, ← e.guarded_map sameGuard inv actions]
  exact other moved

end Embedding

/-- A map into the states of another system that follows the steps, from the states that meet an invariant. A step
    without an action there is one that the other system does not see. -/
structure Simulation {State' Action' : Type} (step : State → Action → Option State)
    (step' : State' → Action' → Option State') where
  state : State → State'
  action : Action → Option Action'
  Inv : State → Prop
  invariant : ∀ s a t, Inv s → step s a = some t → Inv t
  unseen : ∀ s a t, Inv s → action a = none → step s a = some t → state t = state s
  follows : ∀ s a b t, Inv s → action a = some b → step s a = some t → step' (state s) b = some (state t)

namespace Simulation

variable {State' Action' : Type} {step' : State' → Action' → Option State'} (sim : Simulation step step')

theorem run_filterMap {actions : List Action} {s t : State} (inv : sim.Inv s) (reached : run step s actions = some t) :
    run step' (sim.state s) (actions.filterMap sim.action) = some (sim.state t) := by
  induction actions generalizing s with
  | nil =>
    cases reached
    rfl
  | cons a rest ih =>
    obtain ⟨u, taken, reached⟩ := Option.bind_eq_some_iff.mp reached
    have later := ih (sim.invariant s a u inv taken) reached
    cases seen : sim.action a with
    | none =>
      rw [List.filterMap_cons_none seen, ← sim.unseen s a u inv seen taken]
      exact later
    | some b =>
      rw [List.filterMap_cons_some seen, run, sim.follows s a b u inv seen taken]
      exact later

theorem guarded_filterMap {guard : State → Action → Prop} {guard' : State' → Action' → Prop}
    (implied : ∀ s a b, sim.Inv s → sim.action a = some b → guard s a → guard' (sim.state s) b)
    {actions : List Action} {s t : State} (inv : sim.Inv s) (reached : run step s actions = some t)
    (guarded : Guarded step guard s actions) :
    Guarded step' guard' (sim.state s) (actions.filterMap sim.action) := by
  induction actions generalizing s with
  | nil => trivial
  | cons a rest ih =>
    obtain ⟨u, taken, reached⟩ := Option.bind_eq_some_iff.mp reached
    have later := ih (sim.invariant s a u inv taken) reached (guarded.2 u taken)
    cases seen : sim.action a with
    | none =>
      rw [List.filterMap_cons_none seen, ← sim.unseen s a u inv seen taken]
      exact later
    | some b =>
      rw [List.filterMap_cons_some seen]
      refine ⟨implied s a b inv seen guarded.1, ?_⟩
      intro v went
      rw [sim.follows s a b u inv seen taken] at went
      cases went
      exact later

end Simulation

end Transition
