import CysAgi.Base.Effect

namespace Iteration

open Py

variable {σ ε α β : Type}

def iterate (body : α → EStateM ε σ (β ⊕ α)) : Nat → α → EStateM ε σ (Option β)
  | 0, _ => pure none
  | rounds + 1, a => do
    match ← body a with
    | .inl b => return some b
    | .inr next => iterate body rounds next

variable {body : α → EStateM ε σ (β ⊕ α)}

theorem iterate_succ (rounds : Nat) (a : α) (s : σ) :
    iterate body (rounds + 1) a s = match body a s with
      | .ok (.inl b) t => .ok (some b) t
      | .ok (.inr next) t => iterate body rounds next t
      | .error e t => .error e t := by
  rw [iterate, run_bind]
  cases body a s with
  | ok result t => cases result <;> rfl
  | error e t => rfl

theorem preserves_iterate {P : σ → Prop} (kept : ∀ a, Preserves P (body a)) (rounds : Nat) (a : α) :
    Preserves P (iterate body rounds a) := by
  induction rounds generalizing a with
  | zero => exact Preserves.pure none
  | succ rounds ih =>
    intro s holds
    have after := kept a s holds
    unfold final at after ⊢
    rw [iterate_succ]
    cases turn : body a s with
    | error e t =>
      rw [turn] at after
      exact after
    | ok result t =>
      rw [turn] at after
      cases result with
      | inl b => exact after
      | inr next => exact ih next t after

structure Bounded (body : α → EStateM ε σ (β ⊕ α)) (left cost : σ → Nat) : Prop where
  continues : ∀ a s next t, body a s = .ok (.inr next) t → left t < left s
  costs : ∀ a s, cost (final (body a) s) ≤ cost s + 1

namespace Bounded

variable {left cost : σ → Nat}

theorem returns (bounded : Bounded body left cost) {rounds : Nat} (a : α) (s : σ) (enough : left s < rounds) :
    outcome (iterate body rounds a) s ≠ .ok none := by
  induction rounds generalizing a s with
  | zero => omega
  | succ rounds ih =>
    unfold outcome
    rw [iterate_succ]
    cases turn : body a s with
    | error e t => nofun
    | ok result t =>
      cases result with
      | inl b => nofun
      | inr next =>
        have less := bounded.continues a s next t turn
        exact ih next t (by omega)

/-- What the loop costs, however many rounds it is given. -/
theorem cost_iterate (bounded : Bounded body left cost) (rounds : Nat) (a : α) (s : σ) :
    cost (final (iterate body rounds a) s) ≤ cost s + left s + 1 := by
  induction rounds generalizing a s with
  | zero =>
    have same : final (iterate body 0 a) s = s := rfl
    rw [same]
    omega
  | succ rounds ih =>
    have once := bounded.costs a s
    unfold final at once ⊢
    rw [iterate_succ]
    cases turn : body a s with
    | error e t =>
      rw [turn] at once
      dsimp only at once ⊢
      omega
    | ok result t =>
      rw [turn] at once
      cases result with
      | inl b =>
        dsimp only at once ⊢
        omega
      | inr next =>
        have less := bounded.continues a s next t turn
        have rest := ih next t
        unfold final at rest
        dsimp only at once rest ⊢
        omega

end Bounded

end Iteration
