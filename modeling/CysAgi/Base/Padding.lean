import Mathlib.Data.List.DropRight
import Mathlib.Data.List.GetD

namespace Py

variable {α : Type}

theorem getD_concat_blank (items : List α) (blank : α) (i : Nat) :
    (items ++ [blank]).getD i blank = items.getD i blank := by
  simp only [List.getD_eq_getElem?_getD, List.getElem?_append]
  split
  · rfl
  · rename_i past
    rw [List.getElem?_eq_none (by omega : items.length ≤ i)]
    cases i - items.length <;> rfl

theorem getD_take (items : List α) (blank : α) (n i : Nat) :
    (items.take n).getD i blank = if i < n then items.getD i blank else blank := by
  simp only [List.getD_eq_getElem?_getD, List.getElem?_take]
  split <;> rfl

theorem length_le_of_getD {left right : List α} {blank : α} (same : ∀ i, left.getD i blank = right.getD i blank)
    (ends : ∀ nonempty : left ≠ [], left.getLast nonempty ≠ blank) : left.length ≤ right.length := by
  by_contra longer
  have nonempty : left ≠ [] := by
    rintro rfl
    exact longer (Nat.zero_le _)
  apply ends nonempty
  have here := same (left.length - 1)
  rw [List.getD_eq_default right blank (by omega)] at here
  rw [List.getLast_eq_getElem, ← here, List.getD_eq_getElem]

theorem length_rtake (items : List α) (n : Nat) : (items.rtake n).length = min n items.length := by
  rw [List.rtake, List.length_drop]
  omega

theorem map_rtake {β : Type} (f : α → β) (items : List α) (n : Nat) :
    (items.rtake n).map f = (items.map f).rtake n := by
  rw [List.rtake, List.rtake, List.map_drop, List.length_map]

theorem headD_reverse_rtake (items : List α) (n : Nat) (default : α) :
    (items.rtake (n + 1)).reverse.headD default = items.getLastD default := by
  cases items using List.reverseRecOn with
  | nil => simp
  | append_singleton items item => simp [List.rtake_concat_succ]

variable [DecidableEq α]

theorem getD_rdropWhile (items : List α) (blank : α) (i : Nat) :
    (items.rdropWhile (· = blank)).getD i blank = items.getD i blank := by
  induction items using List.reverseRecOn with
  | nil => rfl
  | append_singleton items last ih =>
    by_cases same : last = blank
    · rw [List.rdropWhile_concat_pos _ _ _ (by simp [same]), ih, same, getD_concat_blank]
    · rw [List.rdropWhile_concat_neg _ _ _ (by simp [same])]

theorem rdropWhile_eq_iff (left right : List α) (blank : α) :
    left.rdropWhile (· = blank) = right.rdropWhile (· = blank) ↔ ∀ i, left.getD i blank = right.getD i blank := by
  constructor
  · intro same i
    rw [← getD_rdropWhile left, ← getD_rdropWhile right, same]
  · intro same
    have cut (i : Nat) : (left.rdropWhile (· = blank)).getD i blank = (right.rdropWhile (· = blank)).getD i blank := by
      rw [getD_rdropWhile, getD_rdropWhile, same i]
    have ends (items : List α) (nonempty : items.rdropWhile (· = blank) ≠ []) :
        (items.rdropWhile (· = blank)).getLast nonempty ≠ blank := by
      simpa using List.rdropWhile_last_not (fun c => decide (c = blank)) items nonempty
    have long := length_le_of_getD cut (ends left)
    have short := length_le_of_getD (fun i => (cut i).symm) (ends right)
    apply List.ext_getElem (by omega)
    intro i first second
    have here := cut i
    rw [List.getD_eq_getElem _ _ first, List.getD_eq_getElem _ _ second] at here
    exact here

theorem rdropWhile_take_eq_iff (left right : List α) (blank : α) (n : Nat) :
    (left.take n).rdropWhile (· = blank) = (right.take n).rdropWhile (· = blank) ↔
      ∀ i < n, left.getD i blank = right.getD i blank := by
  rw [rdropWhile_eq_iff]
  constructor
  · intro same i inside
    have here := same i
    rwa [getD_take, getD_take, if_pos inside, if_pos inside] at here
  · intro same i
    rw [getD_take, getD_take]
    split
    · rename_i inside
      exact same i inside
    · rfl

end Py
