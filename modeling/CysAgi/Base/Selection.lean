import Mathlib.Logic.Function.Basic

namespace Selection

structure Flags where
  enabled : Bool
  active : Bool
  deriving DecidableEq

variable {κ : Type}

section

variable (group scope : κ → Prop) (table : κ → Option Flags)

def Chosen (key : κ) : Prop := group key ∧ table key = some { enabled := true, active := true }

def On (key : κ) : Prop := scope key ∧ ∃ flags, table key = some flags ∧ flags.enabled = true

def Only (target : κ) : Prop :=
  (∀ key, Chosen group table key ↔ key = target) ∨
    (∀ key, ¬Chosen group table key) ∧ ∀ key, On scope table key ↔ key = target

end

variable {group scope : κ → Prop} {table : κ → Option Flags} {target key : κ}

theorem not_chosen_of_only (only : Only group scope table target) (ne : key ≠ target) :
    ¬Chosen group table key := by
  rcases only with chosen | ⟨none, -⟩
  · exact fun here => ne ((chosen key).mp here)
  · exact none key

structure Remarked (group : κ → Prop) (mark : κ → Bool) (table next : κ → Option Flags) : Prop where
  inside : ∀ key, group key → next key = (table key).map fun flags => { flags with active := mark key }
  outside : ∀ key, ¬group key → next key = table key

theorem on_remarked_iff {mark : κ → Bool} {next : κ → Option Flags} (remarked : Remarked group mark table next)
    (key : κ) : On scope next key ↔ On scope table key := by
  by_cases grouped : group key
  · simp [On, remarked.inside key grouped]
  · simp [On, remarked.outside key grouped]

theorem chosen_remarked_iff {mark : κ → Bool} {next : κ → Option Flags} (remarked : Remarked group mark table next)
    (key : κ) : Chosen group next key ↔ group key ∧ mark key = true ∧ On (fun _ => True) table key := by
  rw [Chosen]
  refine and_congr_right fun grouped => ?_
  rw [remarked.inside key grouped]
  cases held : table key with
  | none => simp [On, held]
  | some flags => simp [On, held, and_comm]

theorem only_unmarked_iff {next : κ → Option Flags} (remarked : Remarked group (fun _ => false) table next) :
    Only group scope next target ↔ ∀ key, On scope table key ↔ key = target := by
  have unchosen : ∀ key, ¬Chosen group next key := by
    intro key chosen
    exact Bool.false_ne_true ((chosen_remarked_iff remarked key).mp chosen).2.1
  constructor
  · intro only key
    rcases only with chosen | ⟨-, on⟩
    · exact absurd ((chosen target).mpr rfl) (unchosen target)
    · exact (on_remarked_iff remarked key).symm.trans (on key)
  · intro on
    exact .inr ⟨unchosen, fun key => (on_remarked_iff remarked key).trans (on key)⟩

section Writes

variable [DecidableEq κ]

section

variable (group scope : κ → Prop) (table : κ → Option Flags)

def Spares (target key : κ) (flags : Flags) : Prop :=
  if key = target then
    flags.enabled = true ∧ (flags.active = true ∨ ∀ other, other ≠ target → ¬On scope table other)
  else if table target = some { enabled := true, active := true } then
    ¬(group key ∧ flags.enabled = true ∧ flags.active = true)
  else ¬(scope key ∧ flags.enabled = true)

def write (key : κ) (flags : Flags) : κ → Option Flags := Function.update table key (some flags)

end

variable {flags : Flags}

theorem chosen_write_self (table : κ → Option Flags) : Chosen group (write table key flags) key ↔
    group key ∧ flags.enabled = true ∧ flags.active = true := by
  rw [Chosen, write, Function.update_self, Option.some.injEq]
  obtain ⟨enabled, active⟩ := flags
  simp

theorem chosen_write_of_ne {other : κ} (ne : other ≠ key) :
    Chosen group (write table key flags) other ↔ Chosen group table other := by
  rw [Chosen, write, Function.update_of_ne ne, Chosen]

theorem on_write_self (table : κ → Option Flags) :
    On scope (write table key flags) key ↔ scope key ∧ flags.enabled = true := by
  simp [On, write]

theorem on_write_of_ne {other : κ} (ne : other ≠ key) :
    On scope (write table key flags) other ↔ On scope table other := by
  rw [On, write, Function.update_of_ne ne, On]

theorem all_of_ne {A : κ → Prop} (key : κ) (here : A key) (others : ∀ other, other ≠ key → A other) :
    ∀ other, A other := by
  intro other
  by_cases same : other = key
  · rwa [same]
  · exact others other same

theorem only_write_target_iff (grouped : group target) (inside : scope target)
    (only : Only group scope table target) : Only group scope (write table target flags) target ↔
      flags.enabled = true ∧ (flags.active = true ∨ ∀ other, other ≠ target → ¬On scope table other) := by
  constructor
  · intro held
    rcases held with chosen | ⟨-, on⟩
    · have here := (chosen_write_self table).mp ((chosen target).mpr rfl)
      exact ⟨here.2.1, .inl here.2.2⟩
    · refine ⟨((on_write_self table).mp ((on target).mpr rfl)).2, .inr ?_⟩
      intro other ne there
      exact ne ((on other).mp ((on_write_of_ne ne).mpr there))
  · intro spares
    obtain ⟨enabled, rest⟩ := spares
    have others : ∀ other, other ≠ target → ¬Chosen group (write table target flags) other := by
      intro other ne
      rw [chosen_write_of_ne ne]
      exact not_chosen_of_only only ne
    by_cases active : flags.active = true
    · left
      refine all_of_ne target ?_ ?_
      · exact iff_of_true ((chosen_write_self table).mpr ⟨grouped, enabled, active⟩) rfl
      · intro other ne
        exact iff_of_false (others other ne) ne
    · have alone := rest.resolve_left active
      refine .inr ⟨all_of_ne target ?_ others, all_of_ne target ?_ ?_⟩
      · rw [chosen_write_self]
        exact fun all => active all.2.2
      · exact iff_of_true ((on_write_self table).mpr ⟨inside, enabled⟩) rfl
      · intro other ne
        rw [on_write_of_ne ne]
        exact iff_of_false (alone other ne) ne

theorem only_write_other_iff (inScope : ∀ key, group key → scope key) (grouped : group target)
    (only : Only group scope table target) (ne : key ≠ target) :
    Only group scope (write table key flags) target ↔
      if table target = some { enabled := true, active := true } then
        ¬(group key ∧ flags.enabled = true ∧ flags.active = true)
      else ¬(scope key ∧ flags.enabled = true) := by
  have target_kept : Chosen group (write table key flags) target ↔ Chosen group table target :=
    chosen_write_of_ne (Ne.symm ne)
  split
  · rename_i held
    have chosen : Chosen group table target := ⟨grouped, held⟩
    rw [← chosen_write_self table]
    constructor
    · intro after both
      exact not_chosen_of_only after ne both
    · intro spared
      left
      refine all_of_ne key ?_ ?_
      · exact iff_of_false spared ne
      · intro other apart
        rw [chosen_write_of_ne apart]
        by_cases it : other = target
        · exact iff_of_true (it ▸ chosen) it
        · exact iff_of_false (not_chosen_of_only only it) it
  · rename_i held
    have unchosen : ¬Chosen group table target := fun chosen => held chosen.2
    rcases only with chosen | ⟨none, on⟩
    · exact absurd ((chosen target).mpr rfl) unchosen
    · rw [← on_write_self table]
      constructor
      · intro after both
        rcases after with chosen | ⟨-, on⟩
        · exact unchosen (target_kept.mp ((chosen target).mpr rfl))
        · exact ne ((on key).mp both)
      · intro spared
        refine .inr ⟨all_of_ne key ?_ ?_, all_of_ne key ?_ ?_⟩
        · rw [chosen_write_self]
          exact fun all => spared ((on_write_self table).mpr ⟨inScope key all.1, all.2.1⟩)
        · intro other apart
          rw [chosen_write_of_ne apart]
          exact none other
        · exact iff_of_false spared ne
        · intro other apart
          rw [on_write_of_ne apart]
          exact on other

theorem only_write_iff (inScope : ∀ key, group key → scope key) (grouped : group target)
    (only : Only group scope table target) :
    Only group scope (write table key flags) target ↔ Spares group scope table target key flags := by
  unfold Spares
  by_cases here : key = target
  · rw [if_pos here, here]
    exact only_write_target_iff grouped (inScope target grouped) only
  · rw [if_neg here]
    exact only_write_other_iff inScope grouped only here

theorem only_marked_iff {next : κ → Option Flags}
    (remarked : Remarked group (fun key => decide (key = target)) table next) (grouped : group target) :
    Only group scope next target ↔ ∃ flags, table target = some flags ∧ flags.enabled = true := by
  constructor
  · intro only
    rcases only with chosen | ⟨-, on⟩
    · exact ((chosen_remarked_iff remarked target).mp ((chosen target).mpr rfl)).2.2.2
    · exact ((on_remarked_iff remarked target).mp ((on target).mpr rfl)).2
  · intro held
    left
    intro key
    rw [chosen_remarked_iff remarked key, decide_eq_true_iff]
    constructor
    · intro chosen
      exact chosen.2.1
    · intro here
      rw [here]
      exact ⟨grouped, rfl, trivial, held⟩

end Writes

end Selection
