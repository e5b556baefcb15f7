import CysAgi.Base.Transition
import Mathlib.Logic.Function.Basic

namespace Learning

variable {κ : Type} [DecidableEq κ] {β : κ → Type}

/-- An update learns a new value from the one that is kept under a key, if any. An edit replaces what belongs to
    the key, and is to keep the value, or to start with the initial one. -/
inductive Change (β : κ → Type) where
  | update (key : κ) (f : β key → β key) (moves : ∀ value, f value ≠ value)
  | edit (key : κ) (initial : β key)

def learn (values : ∀ key, Option (β key)) : Change β → ∀ key, Option (β key)
  | .update key f _ => Function.update values key ((values key).map f)
  | .edit key initial => Function.update values key (some ((values key).getD initial))

structure Policy where
  storesUpdates : Bool
  keepsOnEdit : Bool

def stored (policy : κ → Policy) (values : ∀ key, Option (β key)) : Change β → ∀ key, Option (β key)
  | .update key f _ => if (policy key).storesUpdates then Function.update values key ((values key).map f) else values
  | .edit key initial =>
    Function.update values key (some (if (policy key).keepsOnEdit then (values key).getD initial else initial))

theorem stored_update_none {policy : κ → Policy} {values : ∀ key, Option (β key)} {key : κ} {f : β key → β key}
    (moves : ∀ value, f value ≠ value) (absent : values key = none) :
    stored policy values (.update key f moves) = values := by
  have unchanged : Function.update values key ((values key).map f) = values := by
    rw [absent]
    exact Function.update_eq_self_iff.mpr absent.symm
  simp only [stored, unchanged, ite_self]

def Kept (policy : κ → Policy) (values : ∀ key, Option (β key)) : Change β → Prop
  | .update key _ _ => (policy key).storesUpdates = true ∨ values key = none
  | .edit key initial => (policy key).keepsOnEdit = true ∨ values key = none ∨ values key = some initial

theorem update_eq_iff (values : ∀ key, Option (β key)) (key : κ) (first second : Option (β key)) :
    Function.update values key first = Function.update values key second ↔ first = second := by
  constructor
  · intro same
    have here := congrFun same key
    rw [Function.update_self, Function.update_self] at here
    exact here
  · intro equal
    subst equal
    rfl

theorem eq_ite_update {values next : ∀ key, Option (β key)} {key : κ} {value : Option (β key)} {p : Prop} [Decidable p]
    (here : next key = if p then value else values key) (others : ∀ other, other ≠ key → next other = values other) :
    next = if p then Function.update values key value else values := by
  by_cases changed : p
  · rw [if_pos changed] at here ⊢
    exact Function.eq_update_iff.mpr ⟨here, others⟩
  · rw [if_neg changed] at here ⊢
    funext other
    by_cases same : other = key
    · rw [same, here]
    · exact others other same

theorem stored_eq_learn_iff (policy : κ → Policy) (values : ∀ key, Option (β key)) (change : Change β) :
    stored policy values change = learn values change ↔ Kept policy values change := by
  cases change with
  | update key f moves =>
    simp only [stored, learn, Kept]
    by_cases stores : (policy key).storesUpdates = true
    · rw [if_pos stores]
      exact ⟨fun _ => .inl stores, fun _ => rfl⟩
    · rw [if_neg stores]
      refine Iff.trans ?_ ⟨.inr, fun kept => kept.resolve_left stores⟩
      constructor
      · intro same
        have here := congrFun same key
        rw [Function.update_self] at here
        cases held : values key with
        | none => rfl
        | some value =>
          rw [held] at here
          exact absurd (Option.some.inj here).symm (moves value)
      · intro absent
        rw [absent]
        exact (Function.update_eq_self_iff.mpr absent.symm).symm
  | edit key initial =>
    simp only [stored, learn, Kept]
    rw [update_eq_iff]
    by_cases keeps : (policy key).keepsOnEdit = true
    · rw [if_pos keeps]
      exact ⟨fun _ => .inl keeps, fun _ => rfl⟩
    · rw [if_neg keeps]
      refine Iff.trans ?_ ⟨.inr, fun kept => kept.resolve_left keeps⟩
      cases values key with
      | none => exact ⟨fun _ => .inl rfl, fun _ => rfl⟩
      | some value =>
        constructor
        · intro same
          exact .inr same.symm
        · intro either
          rcases either with absent | same
          · cases absent
          · exact same.symm

/-- A store of values, what a call makes of it, and which change the call stands for. -/
structure Store (σ α : Type) (β : κ → Type) where
  perform : σ → α → σ
  read : σ → ∀ key, Option (β key)
  change : σ → α → Option (Change β)
  policy : σ → κ → Policy
  refines : ∀ s call, read (perform s call) = (change s call).elim (read s) (stored (policy s) (read s))

structure Learner (σ : Type) (β : κ → Type) where
  store : σ
  learned : ∀ key, Option (β key)

namespace Store

variable {σ α : Type} (st : Store σ α β)

def start (s : σ) : Learner σ β := { store := s, learned := st.read s }

def step (s : Learner σ β) (call : α) : Option (Learner σ β) :=
  some { store := st.perform s.store call, learned := (st.change s.store call).elim s.learned (learn s.learned) }

def Persisted (s : Learner σ β) : Prop := st.read s.store = s.learned

def Keeps (s : Learner σ β) (call : α) : Prop :=
  ∀ change, st.change s.store call = some change → Kept (st.policy s.store) (st.read s.store) change

theorem persisted_step_iff {s t : Learner σ β} {call : α} (persisted : st.Persisted s)
    (taken : st.step s call = some t) : st.Persisted t ↔ st.Keeps s call := by
  cases taken
  unfold Persisted Keeps at *
  rw [st.refines, ← persisted]
  cases st.change s.store call with
  | none =>
    refine iff_of_true rfl ?_
    intro _ found
    cases found
  | some change =>
    refine (stored_eq_learn_iff (st.policy s.store) (st.read s.store) change).trans ?_
    exact ⟨fun kept other found => Option.some.inj found ▸ kept, fun keeps => keeps change rfl⟩

theorem persisted_always_iff (s : σ) (calls : List α) :
    Transition.Always st.step st.Persisted (st.start s) calls ↔
      Transition.Guarded st.step st.Keeps (st.start s) calls := by
  have total : ∀ s call, ∃ t, st.step s call = some t := fun _ _ => ⟨_, rfl⟩
  obtain ⟨last, reached⟩ := Transition.run_total total (st.start s) calls
  have start : st.Persisted (st.start s) := rfl
  apply Transition.always_iff_guarded (fun _ => True) _ _ trivial start reached
  · intro _ _ _ _ _ _ _
    trivial
  · intro _ _ _ _ persisted taken
    exact st.persisted_step_iff persisted taken

end Store

end Learning
