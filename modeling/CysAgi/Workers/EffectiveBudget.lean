import CysAgi.Workers.JobBudget
import Mathlib.Algebra.Order.Ring.Unbundled.Rat

namespace CysAgi

def listedBudget (persona : String) : PersonaBudget := (personaBudgets.lookup persona).getD defaultBudget

namespace AgentCatalogEntry

/-- A job works with each budget field that the entry sets, zero or not, and with the default for each other. -/
structure Effective (entry : AgentCatalogEntry) (default : PersonaBudget) (job : WorkerJob) : Prop where
  tokens : job.maxTokens = entry.budgetMaxTokens.getD default.maxTokens
  costUsd : job.maxCostUsd = entry.budgetMaxCostUsd.getD default.maxCostUsd
  toolCalls : job.maxToolCalls = entry.budgetMaxToolCalls.getD default.maxToolCalls

/-- No field is set to zero, and tool calls are not set alone, unless to the default. -/
structure Plain (entry : AgentCatalogEntry) : Prop where
  tokens : entry.budgetMaxTokens ≠ some 0
  costUsd : entry.budgetMaxCostUsd ≠ some 0
  toolCalls : entry.budgetMaxToolCalls ≠ some 0
  beside : entry.budgetMaxTokens = none → entry.budgetMaxCostUsd = none →
    entry.budgetMaxToolCalls = none ∨ entry.budgetMaxToolCalls = some defaultBudget.maxToolCalls

end AgentCatalogEntry

section

variable {α : Type} [OfNat α 0] [DecidableEq α] {value fallback : α}

theorem orNumber_of_zero (zero : value = 0) : orNumber value fallback = fallback := if_pos zero

theorem orNumber_of_ne_zero (given : value ≠ 0) : orNumber value fallback = value := if_neg given

theorem orNumber_getD_iff (given : fallback ≠ 0) (set : Option α) (default : α) :
    orNumber (set.getD 0) fallback = set.getD default ↔ set ≠ some 0 ∧ (set = none → fallback = default) := by
  cases set with
  | none =>
    rw [Option.getD_none, orNumber_of_zero rfl, Option.getD_none]
    simp
  | some value =>
    rw [Option.getD_some, Option.getD_some]
    by_cases zero : value = 0
    · rw [orNumber_of_zero zero, zero]
      simp [given]
    · rw [orNumber_of_ne_zero zero]
      simp [zero]

end

theorem listedBudget_toolCalls (persona : String) :
    (listedBudget persona).maxToolCalls = defaultBudget.maxToolCalls := by
  have every : ∀ listed ∈ personaBudgets, listed.2.maxToolCalls = defaultBudget.maxToolCalls := by decide +kernel
  unfold listedBudget
  cases found : personaBudgets.lookup persona with
  | none => rfl
  | some budget =>
    obtain ⟨before, behind, split, -⟩ := List.lookup_eq_some_iff.mp found
    have member : (persona, budget) ∈ personaBudgets := by
      rw [split]
      exact List.mem_append_right _ List.mem_cons_self
    exact every _ member

structure WorkerJob.Unset (job : WorkerJob) : Prop where
  tokens : job.maxTokens = 0
  costUsd : job.maxCostUsd = 0
  toolCalls : job.maxToolCalls = 0

section

variable {job : WorkerJob} {entry : AgentCatalogEntry}

theorem effective_enriched_iff (unset : job.Unset) (default : PersonaBudget) :
    entry.Effective default (enrichJobBudget job (some entry)) ↔
      (personaBudget job.persona (some entry)).maxTokens = entry.budgetMaxTokens.getD default.maxTokens ∧
      (personaBudget job.persona (some entry)).maxCostUsd = entry.budgetMaxCostUsd.getD default.maxCostUsd ∧
      (personaBudget job.persona (some entry)).maxToolCalls = entry.budgetMaxToolCalls.getD default.maxToolCalls := by
  have tokens : (enrichJobBudget job (some entry)).maxTokens = (personaBudget job.persona (some entry)).maxTokens :=
    orNumber_of_zero unset.tokens
  have costUsd : (enrichJobBudget job (some entry)).maxCostUsd = (personaBudget job.persona (some entry)).maxCostUsd :=
    orNumber_of_zero unset.costUsd
  have toolCalls : (enrichJobBudget job (some entry)).maxToolCalls =
      (personaBudget job.persona (some entry)).maxToolCalls :=
    orNumber_of_zero unset.toolCalls
  constructor
  · intro effective
    exact ⟨tokens.symm.trans effective.tokens, costUsd.symm.trans effective.costUsd,
      toolCalls.symm.trans effective.toolCalls⟩
  · intro ⟨sameTokens, sameCost, sameCalls⟩
    exact ⟨tokens.trans sameTokens, costUsd.trans sameCost, toolCalls.trans sameCalls⟩

theorem plain_bare_iff (noTokens : entry.budgetMaxTokens = none) (noCost : entry.budgetMaxCostUsd = none) :
    entry.Plain ↔ defaultBudget.maxToolCalls = entry.budgetMaxToolCalls.getD defaultBudget.maxToolCalls := by
  cases set : entry.budgetMaxToolCalls with
  | none =>
    apply iff_of_true _ rfl
    exact ⟨by simp [noTokens], by simp [noCost], by simp [set], fun _ _ => .inl set⟩
  | some value =>
    constructor
    · intro plain
      rcases plain.beside noTokens noCost with none | same
      · rw [none] at set
        cases set
      · rw [set] at same
        exact (Option.some.inj same).symm
    · intro same
      have positive : value ≠ 0 := by
        rw [show value = defaultBudget.maxToolCalls from same.symm]
        decide
      refine ⟨by simp [noTokens], by simp [noCost], by simp [set, positive], fun _ _ => .inr ?_⟩
      rw [set]
      exact congrArg some same.symm

theorem effective_bare_iff (unset : job.Unset) (noTokens : entry.budgetMaxTokens = none)
    (noCost : entry.budgetMaxCostUsd = none) {default : PersonaBudget}
    (calls : default.maxToolCalls = defaultBudget.maxToolCalls) :
    entry.Effective default (enrichJobBudget job (some entry)) ↔
      entry.Plain ∧ (listedBudget job.persona).maxTokens = default.maxTokens ∧
        (listedBudget job.persona).maxCostUsd = default.maxCostUsd := by
  have bare : personaBudget job.persona (some entry) = listedBudget job.persona := by
    unfold personaBudget
    dsimp only
    rw [if_pos ⟨noTokens, noCost⟩]
    rfl
  have plain := plain_bare_iff noTokens noCost
  rw [effective_enriched_iff unset, bare, listedBudget_toolCalls, noTokens, noCost, calls, plain]
  constructor
  · intro ⟨tokens, costUsd, toolCalls⟩
    exact ⟨toolCalls, tokens, costUsd⟩
  · intro ⟨toolCalls, tokens, costUsd⟩
    exact ⟨tokens, costUsd, toolCalls⟩

theorem effective_set_iff (unset : job.Unset) (set : ¬(entry.budgetMaxTokens = none ∧ entry.budgetMaxCostUsd = none))
    {default : PersonaBudget} (calls : default.maxToolCalls = defaultBudget.maxToolCalls) :
    entry.Effective default (enrichJobBudget job (some entry)) ↔
      entry.Plain ∧ (entry.budgetMaxTokens = none → defaultBudget.maxTokens = default.maxTokens) ∧
        (entry.budgetMaxCostUsd = none → defaultBudget.maxCostUsd = default.maxCostUsd) := by
  have own : personaBudget job.persona (some entry) =
      { maxTokens := orNumber (entry.budgetMaxTokens.getD 0) defaultBudget.maxTokens
        maxCostUsd := orNumber (entry.budgetMaxCostUsd.getD 0) defaultBudget.maxCostUsd
        maxToolCalls := orNumber (entry.budgetMaxToolCalls.getD 0) defaultBudget.maxToolCalls } := if_neg set
  rw [effective_enriched_iff unset, own, calls]
  dsimp only
  rw [orNumber_getD_iff (by decide), orNumber_getD_iff (by decide +kernel), orNumber_getD_iff (by decide)]
  constructor
  · intro ⟨tokens, costUsd, toolCalls⟩
    exact ⟨⟨tokens.1, costUsd.1, toolCalls.1, fun noTokens noCost => absurd ⟨noTokens, noCost⟩ set⟩, tokens.2,
      costUsd.2⟩
  · intro ⟨plain, tokens, costUsd⟩
    exact ⟨⟨plain.tokens, tokens⟩, ⟨plain.costUsd, costUsd⟩, plain.toolCalls, fun _ => rfl⟩

/-- The fields that the entry sets are the job's exactly when they are plain; with the one default the table must give
    no other to a persona whose entry sets nothing, with the table's default no other to one whose entry sets a
    part. -/
theorem effective_budget_iff (job : WorkerJob) (entry : AgentCatalogEntry) (unset : job.Unset) :
    (entry.Effective defaultBudget (enrichJobBudget job (some entry)) ↔
      entry.Plain ∧ (entry.budgetMaxTokens = none → entry.budgetMaxCostUsd = none →
        (listedBudget job.persona).maxTokens = defaultBudget.maxTokens ∧
          (listedBudget job.persona).maxCostUsd = defaultBudget.maxCostUsd)) ∧
    (entry.Effective (listedBudget job.persona) (enrichJobBudget job (some entry)) ↔
      entry.Plain ∧
        (entry.budgetMaxTokens = none → entry.budgetMaxCostUsd ≠ none →
          (listedBudget job.persona).maxTokens = defaultBudget.maxTokens) ∧
        (entry.budgetMaxCostUsd = none → entry.budgetMaxTokens ≠ none →
          (listedBudget job.persona).maxCostUsd = defaultBudget.maxCostUsd)) := by
  by_cases bare : entry.budgetMaxTokens = none ∧ entry.budgetMaxCostUsd = none
  · obtain ⟨noTokens, noCost⟩ := bare
    rw [effective_bare_iff unset noTokens noCost rfl,
      effective_bare_iff unset noTokens noCost (listedBudget_toolCalls job.persona), noTokens, noCost]
    simp
  · rw [effective_set_iff unset bare rfl, effective_set_iff unset bare (listedBudget_toolCalls job.persona)]
    constructor
    · apply and_congr_right
      intro _
      exact iff_of_true ⟨fun _ => rfl, fun _ => rfl⟩ fun noTokens noCost => absurd ⟨noTokens, noCost⟩ bare
    · apply and_congr_right
      intro _
      constructor
      · intro ⟨tokens, costUsd⟩
        exact ⟨fun noTokens _ => (tokens noTokens).symm, fun noCost _ => (costUsd noCost).symm⟩
      · intro ⟨tokens, costUsd⟩
        exact ⟨fun noTokens => (tokens noTokens fun noCost => bare ⟨noTokens, noCost⟩).symm,
          fun noCost => (costUsd noCost fun noTokens => bare ⟨noTokens, noCost⟩).symm⟩

end

def socTriage : WorkerJob := { jobId := "job-1", eventId := "e1", persona := "soc" }

def callsOnly : AgentCatalogEntry := { profileId := "cybersec-soc", budgetMaxToolCalls := some 5 }

def noTokens : AgentCatalogEntry := { profileId := "cybersec-soc", budgetMaxTokens := some 0 }

/-- Five tool calls are set and fifty are allowed; no tokens are set and forty thousand are allowed. -/
theorem set_budgets_ignored :
    ¬callsOnly.Effective (listedBudget "soc") (enrichJobBudget socTriage (some callsOnly)) ∧
    ¬callsOnly.Effective defaultBudget (enrichJobBudget socTriage (some callsOnly)) ∧
    ¬noTokens.Effective (listedBudget "soc") (enrichJobBudget socTriage (some noTokens)) ∧
    ¬noTokens.Effective defaultBudget (enrichJobBudget socTriage (some noTokens)) := by
  refine ⟨?_, ?_, ?_, ?_⟩
  · intro effective
    exact absurd effective.toolCalls (by decide +kernel)
  · intro effective
    exact absurd effective.toolCalls (by decide +kernel)
  · intro effective
    exact absurd effective.tokens (by decide +kernel)
  · intro effective
    exact absurd effective.tokens (by decide +kernel)

def fullBudget : AgentCatalogEntry :=
  { profileId := "cybersec-soc", budgetMaxTokens := some 1000, budgetMaxCostUsd := some (1 / 2)
    budgetMaxToolCalls := some 5 }

theorem full_budget_effective :
    fullBudget.Effective (listedBudget "soc") (enrichJobBudget socTriage (some fullBudget)) :=
  (effective_budget_iff socTriage fullBudget ⟨rfl, rfl, rfl⟩).2.mpr
    ⟨⟨by decide, by decide +kernel, by decide, nofun⟩, nofun, nofun⟩

end CysAgi
