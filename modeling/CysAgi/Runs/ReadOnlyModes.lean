import CysAgi.Runs.ModePolicy

namespace CysAgi

open Py

section

variable {policy : ModePolicyPayload} {toolName : String}

theorem plan_denies_iff : allowToolPure (some .plan) toolName policy = false ↔
    toolName ∈ (modeSetsFromPolicy policy).planBlocked ∨
      isMutating toolName (modeSetsFromPolicy policy).mutating = true := by
  simp only [allowToolPure, Bool.and_eq_false_iff, decide_eq_false_iff_not, not_not, Bool.not_eq_false']

theorem ask_denies_iff : allowToolPure (some .ask) toolName policy = false ↔
    toolName ∉ (modeSetsFromPolicy policy).readOnly ∧ startsWith toolName "search_" = false := by
  simp only [allowToolPure, Bool.or_eq_false_iff, decide_eq_false_iff_not]

theorem modeSetsFromPolicy_bare (bare : policy.readOnlyTools = [] ∧ policy.planBlockedTools = []) :
    modeSetsFromPolicy policy = .default := if_pos bare

theorem modeSetsFromPolicy_named (named : ¬(policy.readOnlyTools = [] ∧ policy.planBlockedTools = [])) :
    (modeSetsFromPolicy policy).mutating = modeSetsFromPolicy.given policy.mutatingTools mutatingTools := by
  rw [modeSetsFromPolicy, if_neg named]

theorem isMutating_given {tools otherwise : List String} (marked : isMutating toolName tools = true) :
    isMutating toolName (modeSetsFromPolicy.given tools otherwise) = true := by
  by_cases empty : tools = []
  · rw [modeSetsFromPolicy.given, if_pos empty]
    subst empty
    have prefixed : ["run_", "write_", "spawn_", "execute_"].any (startsWith toolName) = true := by
      simpa [isMutating] using marked
    rw [isMutating, prefixed, Bool.or_true]
  · rwa [modeSetsFromPolicy.given, if_neg empty]

end

def DeniedReadOnly (policy : ModePolicyPayload) (toolName : String) : Prop :=
  ∀ mode ∈ [InteractionMode.plan, .ask], allowToolPure (some mode) toolName policy = false

theorem deniedReadOnly_iff {policy : ModePolicyPayload} {toolName : String} : DeniedReadOnly policy toolName ↔
    allowToolPure (some .plan) toolName policy = false ∧ allowToolPure (some .ask) toolName policy = false := by
  simp [DeniedReadOnly]

/-- The mutating tools of a policy count, or the tool is held back by default. -/
def PlanHeld (policy : ModePolicyPayload) (toolName : String) : Prop :=
  policy.readOnlyTools ≠ [] ∨ policy.planBlockedTools ≠ [] ∨
    toolName ∈ planBlockedTools ∨ isMutating toolName mutatingTools = true

def AskUnlisted (policy : ModePolicyPayload) (toolName : String) : Prop :=
  toolName ∉ modeSetsFromPolicy.given policy.readOnlyTools readOnlyTools ∧ startsWith toolName "search_" = false

theorem modeSetsFromPolicy_readOnly (policy : ModePolicyPayload) :
    (modeSetsFromPolicy policy).readOnly = modeSetsFromPolicy.given policy.readOnlyTools readOnlyTools := by
  by_cases bare : policy.readOnlyTools = [] ∧ policy.planBlockedTools = []
  · rw [modeSetsFromPolicy_bare bare, bare.1]
    rfl
  · rw [modeSetsFromPolicy, if_neg bare]

theorem plan_denies_marked_iff {policy : ModePolicyPayload} {toolName : String}
    (marked : isMutating toolName policy.mutatingTools = true) :
    allowToolPure (some .plan) toolName policy = false ↔ PlanHeld policy toolName := by
  rw [plan_denies_iff]
  by_cases bare : policy.readOnlyTools = [] ∧ policy.planBlockedTools = []
  · rw [modeSetsFromPolicy_bare bare]
    simp [PlanHeld, bare, ModeSets.default]
  · have named : policy.readOnlyTools ≠ [] ∨ policy.planBlockedTools ≠ [] := by
      by_contra none
      push Not at none
      exact bare none
    have held : PlanHeld policy toolName := by
      rcases named with listed | listed
      · exact .inl listed
      · exact .inr (.inl listed)
    have mutates : isMutating toolName (modeSetsFromPolicy policy).mutating = true := by
      rw [modeSetsFromPolicy_named bare]
      exact isMutating_given marked
    exact iff_of_true (.inr mutates) held

/-- Planning loses the mutating tools of a policy that lists nothing else, and asking never reads them. -/
theorem marked_denied_iff (policy : ModePolicyPayload) (toolName : String)
    (marked : isMutating toolName policy.mutatingTools = true) :
    DeniedReadOnly policy toolName ↔ PlanHeld policy toolName ∧ AskUnlisted policy toolName := by
  rw [deniedReadOnly_iff, plan_denies_marked_iff marked, ask_denies_iff, modeSetsFromPolicy_readOnly]
  rfl

theorem execute_command_denied :
    isMutating "execute_command" defaultModePolicy.mutatingTools = true ∧
      DeniedReadOnly defaultModePolicy "execute_command" := by
  have marked : isMutating "execute_command" defaultModePolicy.mutatingTools = true := by decide +kernel
  have held : PlanHeld defaultModePolicy "execute_command" := .inr (.inr (.inr (by decide +kernel)))
  have unlisted : AskUnlisted defaultModePolicy "execute_command" := by
    unfold AskUnlisted
    decide +kernel
  exact ⟨marked, (marked_denied_iff _ _ marked).mpr ⟨held, unlisted⟩⟩

/-- A policy that marks one tool, and one that marks a tool named like a search. -/
theorem marked_tools_allowed :
    allowToolPure (some .plan) "delete_index" { mutatingTools := ["delete_index"] } = true ∧
    allowToolPure (some .ask) "search_and_purge" { mutatingTools := ["search_and_purge"] } = true ∧
    ¬ (∀ policy : ModePolicyPayload, ∀ toolName, isMutating toolName policy.mutatingTools = true →
      DeniedReadOnly policy toolName) := by
  have planned : allowToolPure (some .plan) "delete_index" { mutatingTools := ["delete_index"] } = true := by
    decide +kernel
  have asked : allowToolPure (some .ask) "search_and_purge" { mutatingTools := ["search_and_purge"] } = true := by
    decide +kernel
  refine ⟨planned, asked, fun claimed => ?_⟩
  have denied := claimed { mutatingTools := ["delete_index"] } "delete_index" (by decide +kernel) .plan (by simp)
  rw [planned] at denied
  exact Bool.noConfusion denied

end CysAgi
