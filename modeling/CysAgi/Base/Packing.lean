import Mathlib.Data.List.Infix
import Mathlib.Algebra.BigOperators.Group.List.Basic
import Mathlib.Algebra.GroupWithZero.Nat

namespace Packing

variable {α : Type} (size : α → Nat)

def load (items : List α) : Nat := (items.map size).sum

def spaced (gap : Nat) (items : List α) : Nat := load size items + gap * (items.length - 1)

def takeWithin (limit : Int) : Nat → List α → List α
  | _, [] => []
  | total, item :: rest =>
    if ((total + size item : Nat) : Int) > limit then []
    else item :: takeWithin limit (total + size item) rest

variable {size} {limit : Int} {total : Nat} {items part : List α}

theorem load_cons (item : α) (rest : List α) : load size (item :: rest) = size item + load size rest := by
  simp [load]

theorem load_append (left right : List α) : load size (left ++ right) = load size left + load size right := by
  simp [load]

theorem takeWithin_prefix : takeWithin size limit total items <+: items := by
  induction items generalizing total with
  | nil => exact List.prefix_rfl
  | cons item rest ih =>
    by_cases above : ((total + size item : Nat) : Int) > limit
    · rw [takeWithin, if_pos above]
      exact List.nil_prefix
    · rw [takeWithin, if_neg above, List.prefix_cons_inj]
      exact ih

theorem prefix_takeWithin_iff (beginning : part <+: items) :
    part <+: takeWithin size limit total items ↔ part = [] ∨ ((total + load size part : Nat) : Int) ≤ limit := by
  induction items generalizing total part with
  | nil =>
    have empty : part = [] := List.prefix_nil.mp beginning
    simp [empty]
  | cons item rest ih =>
    cases part with
    | nil => simp
    | cons first part =>
      obtain ⟨rfl, within⟩ := List.cons_prefix_cons.mp beginning
      have carried : total + load size (first :: part) = total + size first + load size part := by
        rw [load_cons]
        omega
      rw [carried]
      by_cases above : ((total + size first : Nat) : Int) > limit
      · rw [takeWithin, if_pos above, List.prefix_nil]
        constructor
        · intro empty
          cases empty
        · rintro (empty | within)
          · cases empty
          · omega
      · rw [takeWithin, if_neg above, List.prefix_cons_inj, ih within]
        simp only [List.cons_ne_nil, false_or]
        constructor
        · rintro (rfl | within)
          · simp only [load, List.map_nil, List.sum_nil]
            omega
          · exact within
        · intro within
          exact .inr within

theorem spaced_mono (gap : Nat) (beginning : part <+: items) : spaced size gap part ≤ spaced size gap items := by
  obtain ⟨behind, rfl⟩ := beginning
  have gaps : gap * (part.length - 1) ≤ gap * ((part ++ behind).length - 1) := by
    apply Nat.mul_le_mul_left
    rw [List.length_append]
    omega
  unfold spaced
  rw [load_append]
  omega

theorem load_le_spaced (gap : Nat) : load size items ≤ spaced size gap items := Nat.le_add_right _ _

theorem prefix_takeWithin_of_spaced {gap : Nat} (beginning : part <+: items)
    (fits : (spaced size gap part : Int) ≤ limit) : part <+: takeWithin size limit 0 items := by
  apply (prefix_takeWithin_iff beginning).mpr
  have carried : load size part ≤ spaced size gap part := load_le_spaced gap
  right
  omega

theorem spaced_takeWithin_le_iff (gap : Nat) (room : 0 ≤ limit) :
    (spaced size gap (takeWithin size limit 0 items) : Int) ≤ limit ↔
      ∀ part, part <+: items → (load size part : Int) ≤ limit → (spaced size gap part : Int) ≤ limit := by
  constructor
  · intro fits part beginning within
    have taken : part <+: takeWithin size limit 0 items := by
      apply (prefix_takeWithin_iff beginning).mpr
      right
      omega
    have smaller := @spaced_mono _ size _ _ gap taken
    omega
  · intro every
    apply every _ takeWithin_prefix
    rcases (prefix_takeWithin_iff takeWithin_prefix).mp List.prefix_rfl with empty | within
    · rw [empty]
      simpa [load] using room
    · simpa using within

end Packing
