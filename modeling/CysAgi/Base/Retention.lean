import Mathlib.Data.List.Induction

/-- A state that holds items. A step leaves those that it keeps, and adds some. -/
structure Retention (State Action Item : Type) where
  step : State → Action → State
  items : State → List Item
  keeps : Action → Item → Bool
  adds : State → Action → List Item
  items_step : ∀ s action, items (step s action) = (items s).filter (keeps action) ++ adds s action

namespace Retention

variable {State Action Item : Type} (store : Retention State Action Item)

def run (start : State) (actions : List Action) : State := actions.foldl store.step start

theorem run_concat (start : State) (actions : List Action) (action : Action) :
    store.run start (actions ++ [action]) = store.step (store.run start actions) action := by
  rw [run, List.foldl_append]
  rfl

def Kept (start : State) (actions : List Action) (item : Item) : Prop :=
  ∃ before action after, actions = before ++ action :: after ∧ item ∈ store.adds (store.run start before) action ∧
    ∀ later ∈ after, store.keeps later item

theorem kept_concat (start : State) (actions : List Action) (action : Action) (item : Item) :
    store.Kept start (actions ++ [action]) item ↔
      (store.Kept start actions item ∧ store.keeps action item) ∨ item ∈ store.adds (store.run start actions) action := by
  constructor
  · rintro ⟨before, added, after, split, member, kept⟩
    rcases List.eq_nil_or_concat after with rfl | ⟨early, last, rfl⟩
    · have ends := List.append_inj' split rfl
      rw [ends.1, List.singleton_inj.mp ends.2]
      exact Or.inr member
    · have whole : actions ++ [action] = (before ++ added :: early) ++ [last] := by
        rw [split, List.append_assoc, List.cons_append, List.concat_eq_append]
      have ends := List.append_inj' whole rfl
      have same := List.singleton_inj.mp ends.2
      rw [List.concat_eq_append] at kept
      have both := List.forall_mem_append.mp kept
      rw [same]
      exact Or.inl ⟨⟨before, added, early, ends.1, member, both.1⟩, both.2 last List.mem_cons_self⟩
  · rintro (⟨⟨before, added, after, rfl, member, kept⟩, last⟩ | member)
    · refine ⟨before, added, after ++ [action], ?_, member, ?_⟩
      · rw [List.append_assoc, List.cons_append]
      · exact List.forall_mem_append.mpr ⟨kept, List.forall_mem_singleton.mpr last⟩
    · exact ⟨actions, action, [], rfl, member, nofun⟩

/-- What is held after a run was added by a step of it and kept since, or was there and kept all along. -/
theorem mem_run_iff (start : State) (actions : List Action) (item : Item) :
    item ∈ store.items (store.run start actions) ↔
      (item ∈ store.items start ∧ ∀ action ∈ actions, store.keeps action item) ∨ store.Kept start actions item := by
  induction actions using List.reverseRecOn with
  | nil =>
    constructor
    · exact fun member => Or.inl ⟨member, nofun⟩
    · rintro (⟨member, -⟩ | ⟨before, action, after, split, -⟩)
      · exact member
      · cases List.append_eq_nil_iff.mp split.symm |>.2
  | append_singleton actions action ih =>
    rw [run_concat, items_step, List.mem_append, List.mem_filter, ih, kept_concat, List.forall_mem_append,
      List.forall_mem_singleton]
    constructor
    · rintro (⟨⟨start, all⟩ | kept, last⟩ | member)
      · exact Or.inl ⟨start, all, last⟩
      · exact Or.inr (Or.inl ⟨kept, last⟩)
      · exact Or.inr (Or.inr member)
    · rintro (⟨start, all, last⟩ | ⟨kept, last⟩ | member)
      · exact Or.inl ⟨Or.inl ⟨start, all⟩, last⟩
      · exact Or.inl ⟨Or.inr kept, last⟩
      · exact Or.inr member

theorem mem_run_of_empty {start : State} (empty : store.items start = []) (actions : List Action) (item : Item) :
    item ∈ store.items (store.run start actions) ↔ store.Kept start actions item := by
  rw [mem_run_iff, empty]
  constructor
  · rintro (⟨member, -⟩ | kept)
    · cases member
    · exact kept
  · exact Or.inr

end Retention
