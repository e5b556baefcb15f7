import Mathlib.Algebra.Order.Ring.Unbundled.Rat
import Mathlib.Data.List.Sort
import CysAgi.Base.Effect
import CysAgi.Catalog.Models
import CysAgi.Planning.ProgressKept

namespace CysAgi

open Py Catalog

structure PersonaQualities where
  getAgentCatalog : Except PyExc (Option (String → Except PyExc (Option AgentCatalogEntry)))
  getTrustFloor : Except PyExc Rat

namespace PersonaQualities

def personaTrustScore (catalog : Option (String → Except PyExc (Option AgentCatalogEntry))) (name : String) :
    Except PyExc Rat :=
  match catalog with
  | none => .ok (3 / 4)
  | some getAgent => do
    match ← getAgent name with
    | some entry => return entry.quality.empiricalTrust
    | none => return 3 / 4

def score (catalog : Option (String → Except PyExc (Option AgentCatalogEntry))) (name : String) :
    Except PyExc (String × Rat) := do
  return (name, ← personaTrustScore catalog name)

def scored (qualities : PersonaQualities) (personas : List String) : Except PyExc (Rat × List (String × Rat)) := do
  let catalog ← qualities.getAgentCatalog
  let floor ← qualities.getTrustFloor
  let scores ← personas.mapM (score catalog)
  return (floor, scores)

def rankPersonasByQuality (qualities : PersonaQualities) (personas : List String) : Except PyExc (List String) := do
  let (floor, scores) ← qualities.scored personas
  let above := scores.filter fun item => floor ≤ item.2
  return (above.insertionSort fun first second => second.2 ≤ first.2).map Prod.fst

def LeavesOne (qualities : PersonaQualities) (personas : List String) : Prop :=
  match qualities.scored personas with
  | .ok (floor, scores) => ∃ item ∈ scores, floor ≤ item.2
  | .error e => e.caught

variable {qualities : PersonaQualities} {personas : List String}

theorem name_of_score {catalog : Option (String → Except PyExc (Option AgentCatalogEntry))} {name : String}
    {item : String × Rat} (done : score catalog name = .ok item) : item.1 = name := by
  obtain ⟨trust, -, returned⟩ := except_bind_ok.mp done
  cases returned
  rfl

theorem scored_mem {floor : Rat} {scores : List (String × Rat)}
    (done : qualities.scored personas = .ok (floor, scores)) {item : String × Rat} (member : item ∈ scores) :
    item.1 ∈ personas := by
  obtain ⟨catalog, -, done⟩ := except_bind_ok.mp done
  obtain ⟨_, -, done⟩ := except_bind_ok.mp done
  obtain ⟨results, mapped, returned⟩ := except_bind_ok.mp done
  cases returned
  obtain ⟨index, place⟩ := List.mem_iff_getElem?.mp member
  have related := (mapM_getElem? mapped).2 index
  rw [place] at related
  cases found : personas[index]? with
  | none =>
    rw [found] at related
    cases related
  | some name =>
    rw [found] at related
    cases related with
    | some given =>
      rw [name_of_score given]
      exact List.mem_of_getElem? found

theorem rank_subset {ranked : List String} (done : qualities.rankPersonasByQuality personas = .ok ranked)
    {persona : String} (member : persona ∈ ranked) : persona ∈ personas := by
  obtain ⟨⟨floor, scores⟩, given, returned⟩ := except_bind_ok.mp done
  cases returned
  obtain ⟨item, sorted, rfl⟩ := List.mem_map.mp member
  have above := (List.mem_insertionSort _).mp sorted
  exact scored_mem given (List.mem_filter.mp above).1

theorem rank_leaves_iff :
    (match qualities.rankPersonasByQuality personas with
      | .ok ranked => ranked ≠ []
      | .error e => e.caught) ↔ qualities.LeavesOne personas := by
  unfold rankPersonasByQuality LeavesOne
  cases qualities.scored personas with
  | error e => rfl
  | ok given =>
    obtain ⟨floor, scores⟩ := given
    show List.map Prod.fst _ ≠ [] ↔ _
    rw [ne_eq, List.map_eq_nil_iff, ← List.length_eq_zero_iff, List.length_insertionSort, List.length_eq_zero_iff,
      List.filter_eq_nil_iff]
    simp

def planner (qualities : PersonaQualities) (deps : PlannerDeps) : PlannerDeps :=
  { deps with rankPersonasByQuality := qualities.rankPersonasByQuality }

end PersonaQualities

namespace PlanInvestigation

/-- The personas that are ranked: those named that are available, where none is named the fallback's, and where
    none of them is available all of the fallback's. -/
def candidates (available fallback named : List String) : List String :=
  let allowed := (if named = [] then fallback else named).filter (· ∈ available)
  if allowed = [] then fallback else allowed

/-- The call returns a plan with a persona, the row of the investigation has just the plan's personas, and each of
    them is available or a fallback. -/
def Usable (deps : PlannerDeps) (event : SecurityEvent) (amid : WorkersAmid) (store : PostgresInvestigationStateStore)
    (fallback : List String) : Prop :=
  ∃ plan, (execute deps event amid store).2 = .ok plan ∧ plan.personas ≠ [] ∧
    ((row event (execute deps event amid store).1).bind InvestigationState.plannerPlan = some plan.personas) ∧
    ∀ persona ∈ plan.personas,
      (∃ available, deps.availablePersonas = .ok available ∧ persona ∈ available) ∨ persona ∈ fallback

/-- The available personas are listed, nothing cancels the planner, and where its answer is read and the ranking ends,
    a candidate reaches the trust floor. -/
def LeavesPlan (deps : PlannerDeps) (qualities : PersonaQualities) (event : SecurityEvent) (fallback : List String) :
    Prop :=
  ∃ available, deps.availablePersonas = .ok available ∧
    match deps.arun (plannerCall deps event available) with
    | .error e => e.caught
    | .ok answer =>
      match parsePlan deps (goalFromEvent deps event) deps.recursionLimit answer with
      | .error _ => True
      | .ok plan => qualities.LeavesOne (candidates available fallback plan.personas)

section

variable {deps : PlannerDeps} {event : SecurityEvent} {amid : WorkersAmid}
variable {store : PostgresInvestigationStateStore} {available fallback : List String}

theorem fallbackPlan_ok (listed : deps.fallbackPersonas = .ok fallback) (goal rationale : String) :
    ∃ plan, fallbackPlan deps goal rationale = .ok plan ∧ plan.personas = fallback := by
  unfold fallbackPlan
  rw [listed]
  exact ⟨_, rfl, rfl⟩

theorem fallback_bind {α : Type} {x : Except PyExc α} {instead : α} (done : x = .ok instead) (empty : Prop)
    [Decidable empty] (a : α) {β : Type} (next : α → Except PyExc β) :
    (if empty then x >>= next else pure a >>= next) = next (if empty then instead else a) := by
  rw [done]
  by_cases given : empty
  · rw [if_pos given, if_pos given]
    rfl
  · rw [if_neg given, if_neg given]
    rfl

theorem planOf_raises {result : JsonDict} {personas : List Json} {e : PyExc}
    (raised : planOf deps result personas = .error e) : e.caught = true := by
  unfold planOf at raised
  rcases except_bind_error.mp raised with failed | ⟨steps, -, returned⟩
  · unfold iterate at failed
    split at failed <;> cases failed
    rfl
  · cases returned

theorem parsePlan_raises (listed : deps.fallbackPersonas = .ok fallback) {goal : String} {depth : Nat} {answer : Json}
    {e : PyExc} (raised : parsePlan deps goal depth answer = .error e) : e.caught = true := by
  obtain ⟨plan, fallen, -⟩ := fallbackPlan_ok listed goal "fallback_default_plan"
  induction depth generalizing answer with
  | zero =>
    unfold parsePlan at raised
    cases raised
    rfl
  | succ depth ih =>
    unfold parsePlan at raised
    rw [fallen] at raised
    cases answer with
    | obj result =>
      dsimp only at raised
      split at raised
      · exact planOf_raises raised
      · split at raised
        · split at raised
          · split at raised
            · exact ih raised
            · cases raised
          · cases raised
            rfl
        · cases raised
    | _ =>
      cases raised
      rfl

theorem makePlan_personas (listed : deps.fallbackPersonas = .ok fallback) :
    (makePlan deps event available).map (·.personas) = (do
      let answer ← deps.arun (plannerCall deps event available)
      let plan ← parsePlan deps (goalFromEvent deps event) deps.recursionLimit answer
      deps.rankPersonasByQuality (candidates available fallback plan.personas)) := by
  obtain ⟨first, fallen, names⟩ := fallbackPlan_ok listed (goalFromEvent deps event) "fallback_default_plan"
  obtain ⟨second, invalid, others⟩ :=
    fallbackPlan_ok listed (goalFromEvent deps event) "planner_invalid_personas_fallback"
  unfold makePlan
  cases deps.arun (plannerCall deps event available) with
  | error e => rfl
  | ok answer =>
    show Except.map _ (parsePlan deps _ _ answer >>= _) = (parsePlan deps _ _ answer >>= _)
    cases parsePlan deps (goalFromEvent deps event) deps.recursionLimit answer with
    | error e => rfl
    | ok plan =>
      show Except.map _ (if plan.personas = [] then _ else _) = deps.rankPersonasByQuality _
      rw [fallback_bind fallen]
      dsimp only
      rw [fallback_bind invalid]
      have picked :
          (if (if plan.personas = [] then first else plan).personas.filter (· ∈ available) = [] then second
            else { (if plan.personas = [] then first else plan) with
              personas := (if plan.personas = [] then first else plan).personas.filter (· ∈ available) }).personas =
            candidates available fallback plan.personas := by
        unfold candidates
        rw [apply_ite InvestigationPlan.personas, apply_ite InvestigationPlan.personas, names, others]
      rw [picked]
      cases deps.rankPersonasByQuality (candidates available fallback plan.personas) <;> rfl

theorem candidates_subset {named : List String} {persona : String}
    (member : persona ∈ candidates available fallback named) : persona ∈ available ∨ persona ∈ fallback := by
  unfold candidates at member
  dsimp only at member
  by_cases none : (if named = [] then fallback else named).filter (· ∈ available) = []
  · rw [if_pos none] at member
    exact Or.inr member
  · rw [if_neg none] at member
    left
    exact of_decide_eq_true (List.mem_filter.mp member).2

theorem execute_usable_iff (listed : deps.fallbackPersonas = .ok fallback) (nonempty : fallback ≠ [])
    (given : deps.availablePersonas = .ok available)
    (within : ∀ plan, makePlan deps event available = .ok plan →
      ∀ persona ∈ plan.personas, persona ∈ available ∨ persona ∈ fallback) :
    Usable deps event amid store fallback ↔
      match makePlan deps event available with
      | .ok plan => plan.personas ≠ []
      | .error e => e.caught := by
  obtain ⟨instead, fallen, names⟩ := fallbackPlan_ok listed (goalFromEvent deps event) "planner_unavailable_fallback"
  have stored : ∀ plan, (execute deps event amid store).2 = .ok plan →
      (row event (execute deps event amid store).1).bind InvestigationState.plannerPlan = some plan.personas := by
    intro plan returned
    obtain ⟨status, error, wrote⟩ := row_planned returned
    rw [wrote]
    rfl
  have returns : (execute deps event amid store).2 =
      match makePlan deps event available with
      | .ok plan => .ok plan
      | .error e => if e.caught then .ok instead else .error e := by
    unfold execute
    rw [given]
    dsimp only
    cases makePlan deps event available with
    | ok plan => rfl
    | error e =>
      rw [fallen]
      cases e <;> rfl
  unfold Usable
  rw [returns, given]
  cases made : makePlan deps event available with
  | ok plan =>
    rw [made] at returns
    constructor
    · intro ⟨other, same, names, _⟩
      cases same
      exact names
    · intro names
      refine ⟨plan, rfl, names, stored plan returns, ?_⟩
      intro persona member
      rcases within plan made persona member with listed | fallen
      · exact Or.inl ⟨available, rfl, listed⟩
      · exact Or.inr fallen
  | error e =>
    rw [made] at returns
    dsimp only at returns ⊢
    by_cases caught : e.caught = true
    · rw [if_pos caught] at returns ⊢
      refine iff_of_true ⟨instead, rfl, ?_, stored instead returns, ?_⟩ caught
      · rw [names]
        exact nonempty
      · intro persona member
        rw [names] at member
        exact Or.inr member
    · rw [if_neg caught]
      refine iff_of_false ?_ caught
      intro ⟨other, same, _⟩
      cases same

end

section

variable {deps : PlannerDeps} {qualities : PersonaQualities} {event : SecurityEvent} {amid : WorkersAmid}
variable {store : PostgresInvestigationStateStore} {fallback : List String}

theorem leavesPlan_iff {available : List String} (given : deps.availablePersonas = .ok available) :
    LeavesPlan deps qualities event fallback ↔
      match deps.arun (plannerCall deps event available) with
      | .error e => e.caught
      | .ok answer =>
        match parsePlan deps (goalFromEvent deps event) deps.recursionLimit answer with
        | .error _ => True
        | .ok plan => qualities.LeavesOne (candidates available fallback plan.personas) := by
  unfold LeavesPlan
  rw [given]
  constructor
  · intro ⟨other, same, left⟩
    cases same
    exact left
  · intro left
    exact ⟨available, rfl, left⟩

theorem makePlan_within (listed : deps.fallbackPersonas = .ok fallback) {available : List String}
    {plan : InvestigationPlan} (made : makePlan (qualities.planner deps) event available = .ok plan) :
    ∀ persona ∈ plan.personas, persona ∈ available ∨ persona ∈ fallback := by
  intro persona member
  have ranks := @makePlan_personas (qualities.planner deps) event available fallback listed
  rw [made] at ranks
  obtain ⟨answer, -, read⟩ := except_bind_ok.mp ranks.symm
  obtain ⟨proposed, -, ranked⟩ := except_bind_ok.mp read
  exact candidates_subset (PersonaQualities.rank_subset ranked member)

/-- A usable plan comes back, and is stored, exactly when the ranking leaves a persona wherever it is reached. -/
theorem usable_iff (listed : deps.fallbackPersonas = .ok fallback) (nonempty : fallback ≠ []) :
    Usable (qualities.planner deps) event amid store fallback ↔
      LeavesPlan (qualities.planner deps) qualities event fallback := by
  cases given : (qualities.planner deps).availablePersonas with
  | error e =>
    apply iff_of_false
    · intro ⟨plan, returned, _⟩
      unfold execute at returned
      rw [given] at returned
      cases returned
    · intro ⟨available, same, _⟩
      rw [given] at same
      cases same
  | ok available =>
    have wired : (qualities.planner deps).fallbackPersonas = .ok fallback := listed
    have leaves : LeavesPlan (qualities.planner deps) qualities event fallback ↔
        match (makePlan (qualities.planner deps) event available).map (·.personas) with
        | .ok personas => personas ≠ []
        | .error e => e.caught := by
      rw [makePlan_personas wired, leavesPlan_iff given]
      cases (qualities.planner deps).arun (plannerCall (qualities.planner deps) event available) with
      | error e => rfl
      | ok answer =>
        dsimp only [Bind.bind, Except.bind]
        cases read : parsePlan (qualities.planner deps) (goalFromEvent (qualities.planner deps) event)
            (qualities.planner deps).recursionLimit answer with
        | error e =>
          exact iff_of_true trivial (parsePlan_raises wired read)
        | ok plan => exact PersonaQualities.rank_leaves_iff.symm
    rw [leaves, execute_usable_iff wired nonempty given fun plan made => makePlan_within listed made]
    cases makePlan (qualities.planner deps) event available <;> rfl

end

def consultantRated (trust : Rat) : PersonaQualities where
  getAgentCatalog := .ok (some fun name =>
    .ok (if name = "consultant" then some { name, quality := { empiricalTrust := trust } } else none))
  getTrustFloor := .ok (1 / 2)

def garbledPlanner : PlannerDeps :=
  { samplePlanner with arun := fun _ => .ok (.obj [("raw_response", .str "the plan is")]) }

/-- The only candidate is below the floor, as the planner names it or as the fallback. -/
theorem plan_without_persona :
    ¬ Usable ((consultantRated (2 / 5)).planner samplePlanner) sampleEvent {} .empty ["consultant"] ∧
    ¬ Usable ((consultantRated (2 / 5)).planner garbledPlanner) sampleEvent {} .empty ["consultant"] := by
  constructor
  · intro ⟨plan, returned, names, _⟩
    have answered : (execute ((consultantRated (2 / 5)).planner samplePlanner) sampleEvent {} .empty).2 =
        .ok { samplePlan with personas := [] } := by decide +kernel
    rw [answered] at returned
    cases returned
    exact names rfl
  · intro ⟨plan, returned, names, _⟩
    have answered : (execute ((consultantRated (2 / 5)).planner garbledPlanner) sampleEvent {} .empty).2 =
        .ok { personas := [], subGoals := [("consultant", "Investigate security incident")]
              rationale := "fallback_default_plan" } := by decide +kernel
    rw [answered] at returned
    cases returned
    exact names rfl

theorem trusted_plan_usable :
    Usable ((consultantRated (4 / 5)).planner samplePlanner) sampleEvent {} .empty ["consultant"] := by
  have listed : samplePlanner.fallbackPersonas = .ok ["consultant"] := rfl
  apply (usable_iff listed (by decide)).mpr
  exact ⟨["consultant", "soc"], rfl, ("consultant", 4 / 5), by decide +kernel, by decide +kernel⟩

end PlanInvestigation

end CysAgi
