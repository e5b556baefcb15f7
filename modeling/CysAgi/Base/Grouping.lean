import Mathlib.Data.List.Basic

namespace Grouping

variable {α : Type} (full : List α → Bool)

def gather : List α → List α → List (List α)
  | [], [] => []
  | group, [] => [group]
  | [], item :: rest => gather [item] rest
  | group, item :: rest => if full (group ++ [item]) then group :: gather [item] rest else gather (group ++ [item]) rest

theorem gather_nil {group : List α} (started : group ≠ []) : gather full group [] = [group] := by
  cases group with
  | nil => exact absurd rfl started
  | cons => rfl

theorem gather_cons {group : List α} (started : group ≠ []) (item : α) (rest : List α) :
    gather full group (item :: rest) =
      if full (group ++ [item]) then group :: gather full [item] rest else gather full (group ++ [item]) rest := by
  cases group with
  | nil => exact absurd rfl started
  | cons => rfl

theorem flatten_gather_started {group : List α} (started : group ≠ []) (items : List α) :
    (gather full group items).flatten = group ++ items := by
  induction items generalizing group with
  | nil => rw [gather_nil full started, List.flatten_singleton, List.append_nil]
  | cons item rest ih =>
    rw [gather_cons full started]
    split
    · rw [List.flatten_cons, ih (List.cons_ne_nil item []), List.singleton_append]
    · rw [ih (List.concat_ne_nil item group), List.append_assoc, List.singleton_append]

theorem flatten_gather (items : List α) : (gather full [] items).flatten = items := by
  cases items with
  | nil => rfl
  | cons item rest => exact flatten_gather_started full (List.cons_ne_nil item []) rest

theorem mem_of_mem_gather {items group : List α} (placed : group ∈ gather full [] items) {item : α}
    (inside : item ∈ group) : item ∈ items := by
  rw [← flatten_gather full items]
  exact List.mem_flatten.mpr ⟨group, placed, inside⟩

/-- A group that is too large only as a single item. -/
structure Fits (group : List α) : Prop where
  nonempty : group ≠ []
  bounded : full group = false ∨ ∃ item, group = [item]

variable {full}

theorem fits_singleton (item : α) : Fits full [item] where
  nonempty := List.cons_ne_nil item []
  bounded := .inr ⟨item, rfl⟩

theorem fits_gather_started {group : List α} (fits : Fits full group) {items closed : List α}
    (member : closed ∈ gather full group items) : Fits full closed := by
  induction items generalizing group with
  | nil =>
    rw [gather_nil full fits.nonempty, List.mem_singleton] at member
    rwa [member]
  | cons item rest ih =>
    rw [gather_cons full fits.nonempty] at member
    split at member
    · rcases List.mem_cons.mp member with rfl | member
      · exact fits
      · exact ih (fits_singleton item) member
    · rename_i within
      have grown : Fits full (group ++ [item]) := ⟨List.concat_ne_nil item group, .inl (Bool.eq_false_iff.mpr within)⟩
      exact ih grown member

theorem fits_gather {items closed : List α} (member : closed ∈ gather full [] items) : Fits full closed := by
  cases items with
  | nil => cases member
  | cons item rest => exact fits_gather_started (fits_singleton item) member

end Grouping
