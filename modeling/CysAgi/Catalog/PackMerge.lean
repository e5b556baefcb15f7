import CysAgi.Catalog.FreshPolicy

open Py

namespace CysAgi.Catalog

structure ProfilePack (python : PolicyLibrary) where
  id : String
  name : String
  description : String := ""
  defaultPersonas : List String := []
  defaultSkills : List String := []
  defaultPlan : String := "incident-triage"
  globalRules : String := ""
  hintsTemplate : String := ""
  policy : ProfilePolicyPayload python := .default python

section

variable (python : PolicyLibrary)

/-- `ProfilePolicyPayload.model_validate(body.get("policy") or {})`, none where it raises. -/
def createdPolicy (body : JsonDict) : Option (ProfilePolicyPayload python) :=
  let given := JsonDict.getD body "policy" .null
  match if given.truthy then given else .obj [] with
  | .obj data => (ProfilePolicyPayload.modelValidate python data).toOption
  | _ => none

def patchedPolicy (existing : ProfilePolicyPayload python) (body : JsonDict) : Option (ProfilePolicyPayload python) :=
  match JsonDict.get? body "policy" with
  | some (.obj policyPatch) => (mergeProfilePolicy python existing policyPatch).toOption
  | _ => some existing

/-- None where it raises. -/
def mergeProfilePack (existing : Option (ProfilePack python)) (profileId : String) (body : JsonDict) :
    Option (ProfilePack python) :=
  match existing with
  | none => do
    let name ← field Json.asText body "name" profileId
    let description ← field Json.asText body "description" ""
    let defaultPersonas ← field textsOf body "default_personas" []
    let defaultSkills ← field textsOf body "default_skills" []
    let policy ← createdPolicy python body
    return { id := profileId, name, description, defaultPersonas, defaultSkills, policy }
  | some existing => do
    let policy ← patchedPolicy python existing.policy body
    let name ← field Json.asText body "name" existing.name
    let description ← field Json.asText body "description" existing.description
    let defaultPersonas ← field textsOf body "default_personas" existing.defaultPersonas
    let defaultSkills ← field textsOf body "default_skills" existing.defaultSkills
    let defaultPlan ← field Json.asText body "default_plan" existing.defaultPlan
    let globalRules ← field Json.asText body "global_rules" existing.globalRules
    let hintsTemplate ← field Json.asText body "hints_template" existing.hintsTemplate
    return { id := profileId, name, description, defaultPersonas, defaultSkills, defaultPlan, globalRules
             hintsTemplate, policy }

structure PackBody where
  entries : JsonDict
  patch : ∀ given, JsonDict.get? entries "policy" = some (.obj given) → ∃ patch : PolicyPatch, patch.entries = given

def SharedTaken (body : JsonDict) : Prop :=
  (field Json.asText body "name" "").isSome ∧ (field Json.asText body "description" "").isSome ∧
    (field textsOf body "default_personas" []).isSome ∧ (field textsOf body "default_skills" []).isSome

def TextsTaken (body : JsonDict) : Prop :=
  (field Json.asText body "default_plan" "").isSome ∧ (field Json.asText body "global_rules" "").isSome ∧
    (field Json.asText body "hints_template" "").isSome

def TextsDefault (body : JsonDict) : Prop :=
  field Json.asText body "default_plan" "incident-triage" = some "incident-triage" ∧
    field Json.asText body "global_rules" "" = some "" ∧ field Json.asText body "hints_template" "" = some ""

def PolicyTaken (body : JsonDict) : Prop :=
  match JsonDict.getD body "policy" .null with
  | .obj given => (validateFields python.toCoercions profilePolicyFields given).isSome
  | given => given.truthy = false

def PatchTaken (body : JsonDict) : Prop :=
  ∀ given, JsonDict.get? body "policy" = some (.obj given) → ModeListsSort given ∧
    (validateFields python.toCoercions profilePolicyFields (withoutNulls given)).isSome

def CreatesAsPatched (profileId name : String) (body : JsonDict) : Prop :=
  ¬ SharedTaken body ∨
  (¬ PolicyTaken python body ∧ (¬ TextsTaken body ∨ ¬ PatchTaken python body)) ∨
  (PolicyTaken python body ∧ TextsDefault body ∧ (JsonDict.has body "name" = true ∨ name = profileId) ∧
    ∀ given, JsonDict.get? body "policy" = some (.obj given) → ModeListsSettled given)

variable {python}

theorem toOption_eq_some {ε α : Type} {result : Except ε α} {value : α} :
    result.toOption = some value ↔ result = .ok value := by
  cases result with
  | error raised => exact ⟨nofun, nofun⟩
  | ok held => exact ⟨fun same => congrArg _ (Option.some.inj same), fun same => congrArg _ (Except.ok.inj same)⟩

theorem null_refused (python : PolicyLibrary) :
    ∀ field ∈ profilePolicyFields, validate python.toCoercions field.2.1 .null = none := by
  simp [profilePolicyFields, validate, python.int_null, python.float_null]

theorem default_validated (python : PolicyLibrary) :
    (ProfilePolicyPayload.modelValidate python []).toOption = some (.default python) :=
  toOption_eq_some.mpr (modelValidate_ok.mpr (validateFields_nothing profilePolicyFields))

theorem createdPolicy_obj {body given : JsonDict} (said : JsonDict.get? body "policy" = some (.obj given)) :
    createdPolicy python body = (ProfilePolicyPayload.modelValidate python given).toOption := by
  unfold createdPolicy JsonDict.getD
  rw [said]
  cases given <;> rfl

theorem createdPolicy_falsy {body : JsonDict} (falsy : (JsonDict.getD body "policy" .null).truthy = false) :
    createdPolicy python body = some (.default python) := by
  unfold createdPolicy
  simp only [falsy]
  exact default_validated python

theorem patchedPolicy_other {existing : ProfilePolicyPayload python} {body : JsonDict}
    (other : ∀ given, JsonDict.get? body "policy" ≠ some (.obj given)) :
    patchedPolicy python existing body = some existing := by
  unfold patchedPolicy
  split
  · next given said => exact absurd said (other given)
  · rfl

theorem createdPolicy_refused {body : JsonDict} (truthy : (JsonDict.getD body "policy" .null).truthy = true)
    (other : ∀ given, JsonDict.getD body "policy" .null ≠ .obj given) : createdPolicy python body = none := by
  unfold createdPolicy
  simp only [truthy, if_true]

theorem payload_of_valid {data held : JsonDict}
    (valid : validateFields python.toCoercions profilePolicyFields data = some held) :
    ∃ policy : ProfilePolicyPayload python, policy.modelDump = held :=
  ⟨⟨held, validateFields_held profilePolicy_distinct (profilePolicy_settled _) valid⟩, rfl⟩

theorem isSome_modelValidate {given : JsonDict} : (ProfilePolicyPayload.modelValidate python given).toOption.isSome ↔
    (validateFields python.toCoercions profilePolicyFields given).isSome := by
  constructor
  · intro taken
    obtain ⟨policy, made⟩ := Option.isSome_iff_exists.mp taken
    rw [modelValidate_ok.mp (toOption_eq_some.mp made)]
    rfl
  · intro taken
    obtain ⟨held, valid⟩ := Option.isSome_iff_exists.mp taken
    obtain ⟨policy, rfl⟩ := payload_of_valid valid
    rw [modelValidate_ok.mpr valid]
    rfl

theorem createdPolicy_isSome_iff (body : JsonDict) :
    (createdPolicy python body).isSome ↔ PolicyTaken python body := by
  unfold PolicyTaken
  cases said : JsonDict.get? body "policy" with
  | none =>
    have absent : JsonDict.getD body "policy" .null = .null := by
      rw [JsonDict.getD, said, Option.getD_none]
    rw [createdPolicy_falsy (by rw [absent]; rfl), absent]
    exact ⟨fun _ => rfl, fun _ => rfl⟩
  | some value =>
    have there : JsonDict.getD body "policy" .null = value := by
      rw [JsonDict.getD, said, Option.getD_some]
    rw [there]
    cases value with
    | obj given =>
      rw [createdPolicy_obj said]
      exact isSome_modelValidate
    | _ =>
      constructor
      · intro taken
        by_contra truthy
        have refused : createdPolicy python body = none :=
          createdPolicy_refused (by rw [there]; exact eq_true_of_ne_false truthy) (by rw [there]; exact nofun)
        rw [refused] at taken
        cases taken
      · intro falsy
        rw [createdPolicy_falsy (by rw [there]; exact falsy)]
        rfl

theorem patchedPolicy_isSome_iff (body : PackBody) :
    (patchedPolicy python (.default python) body.entries).isSome ↔ PatchTaken python body.entries := by
  by_cases dict : ∃ given, JsonDict.get? body.entries "policy" = some (.obj given)
  · obtain ⟨given, said⟩ := dict
    obtain ⟨patch, rfl⟩ := body.patch given said
    have merge : patchedPolicy python (.default python) body.entries =
        (mergeProfilePolicy python (.default python) patch.entries).toOption := by
      unfold patchedPolicy
      rw [said]
    rw [merge]
    constructor
    · intro taken given' said'
      cases said.symm.trans said'
      obtain ⟨policy, made⟩ := Option.isSome_iff_exists.mp taken
      obtain ⟨data, merged, valid⟩ := mergeProfilePolicy_ok.mp (toOption_eq_some.mp made)
      refine ⟨(merged_default_iff patch).mp ⟨data, merged⟩, ?_⟩
      rw [← patched_isSome_iff merged, valid]
      rfl
    · intro taken
      obtain ⟨sort, valid⟩ := taken _ said
      obtain ⟨data, merged⟩ := (merged_default_iff patch).mpr sort
      rw [← patched_isSome_iff merged] at valid
      obtain ⟨held, valid⟩ := Option.isSome_iff_exists.mp valid
      obtain ⟨policy, rfl⟩ := payload_of_valid valid
      rw [mergeProfilePolicy_ok.mpr ⟨data, merged, valid⟩]
      rfl
  · rw [patchedPolicy_other fun given said => dict ⟨given, said⟩]
    exact ⟨fun _ given said => absurd ⟨given, said⟩ dict, fun _ => rfl⟩

theorem patchedPolicy_eq_iff (body : PackBody) (taken : PolicyTaken python body.entries) :
    patchedPolicy python (.default python) body.entries = createdPolicy python body.entries ↔
      ∀ given, JsonDict.get? body.entries "policy" = some (.obj given) → ModeListsSettled given := by
  by_cases dict : ∃ given, JsonDict.get? body.entries "policy" = some (.obj given)
  · obtain ⟨given, said⟩ := dict
    obtain ⟨patch, rfl⟩ := body.patch given said
    rw [← createdPolicy_isSome_iff, createdPolicy_obj said] at taken
    obtain ⟨policy, made⟩ := Option.isSome_iff_exists.mp taken
    have valid := modelValidate_ok.mp (toOption_eq_some.mp made)
    have agree : ∀ data, JsonDict.mergeWith policyStep (defaultsOf profilePolicyFields) patch.entries = .ok data → _ :=
      fun data merged => patched_eq_iff merged (null_refused python) valid
    have merge : patchedPolicy python (.default python) body.entries =
        (mergeProfilePolicy python (.default python) patch.entries).toOption := by
      unfold patchedPolicy
      rw [said]
    rw [createdPolicy_obj said, made, merge, toOption_eq_some, mergeProfilePolicy_ok]
    constructor
    · rintro ⟨data, merged, same⟩ given said' mode listed key items member
      cases said.symm.trans said'
      obtain ⟨union, sorted⟩ := (merged_default_iff patch).mp ⟨data, merged⟩ mode listed key items member
      refine ⟨union, sorted, fun known => ?_⟩
      have settled := (agree data merged).mp same mode listed key items member known
      cases sorted.symm.trans settled
      rfl
    · intro settled
      have each := settled _ said
      obtain ⟨data, merged⟩ := (merged_default_iff patch).mpr fun mode listed key items member => by
        obtain ⟨union, sorted, -⟩ := each mode listed key items member
        exact ⟨union, sorted⟩
      refine ⟨data, merged, (agree data merged).mpr fun mode listed key items member known => ?_⟩
      obtain ⟨union, sorted, same⟩ := each mode listed key items member
      rw [← same known]
      exact same known ▸ sorted
  · have falsy : (JsonDict.getD body.entries "policy" .null).truthy = false := by
      unfold PolicyTaken at taken
      cases said : JsonDict.get? body.entries "policy" with
      | none =>
        rw [JsonDict.getD, said]
        rfl
      | some value =>
        have there : JsonDict.getD body.entries "policy" .null = value := by
          rw [JsonDict.getD, said, Option.getD_some]
        rw [there] at taken ⊢
        cases value with
        | obj given => exact absurd ⟨given, said⟩ dict
        | _ => exact taken
    rw [patchedPolicy_other fun given said => dict ⟨given, said⟩, createdPolicy_falsy falsy]
    exact ⟨fun _ given said => absurd ⟨given, said⟩ dict, fun _ => rfl⟩

theorem created_iff {profileId : String} {body : JsonDict} {pack : ProfilePack python} :
    mergeProfilePack python none profileId body = some pack ↔
      field Json.asText body "name" profileId = some pack.name ∧
      field Json.asText body "description" "" = some pack.description ∧
      field textsOf body "default_personas" [] = some pack.defaultPersonas ∧
      field textsOf body "default_skills" [] = some pack.defaultSkills ∧
      createdPolicy python body = some pack.policy ∧ pack.id = profileId ∧
      pack.defaultPlan = "incident-triage" ∧ pack.globalRules = "" ∧ pack.hintsTemplate = "" := by
  unfold mergeProfilePack
  simp only [bind, Option.bind_eq_some_iff, pure, Option.some.injEq]
  constructor
  · rintro ⟨name, named, description, described, personas, first, skills, second, policy, created, rfl⟩
    exact ⟨named, described, first, second, created, rfl, rfl, rfl, rfl⟩
  · obtain ⟨id, name, description, personas, skills, plan, rules, hints, policy⟩ := pack
    rintro ⟨named, described, first, second, created, rfl, rfl, rfl, rfl⟩
    exact ⟨name, named, description, described, personas, first, skills, second, policy, created, rfl⟩

theorem patched_iff {profileId name : String} {body : JsonDict} {pack : ProfilePack python} :
    mergeProfilePack python (some { id := profileId, name }) profileId body = some pack ↔
      field Json.asText body "name" name = some pack.name ∧
      field Json.asText body "description" "" = some pack.description ∧
      field textsOf body "default_personas" [] = some pack.defaultPersonas ∧
      field textsOf body "default_skills" [] = some pack.defaultSkills ∧
      patchedPolicy python (.default python) body = some pack.policy ∧ pack.id = profileId ∧
      field Json.asText body "default_plan" "incident-triage" = some pack.defaultPlan ∧
      field Json.asText body "global_rules" "" = some pack.globalRules ∧
      field Json.asText body "hints_template" "" = some pack.hintsTemplate := by
  unfold mergeProfilePack
  simp only [bind, Option.bind_eq_some_iff, pure, Option.some.injEq]
  constructor
  · rintro ⟨policy, patched, name, named, description, described, personas, first, skills, second, plan, third, rules,
      fourth, hints, fifth, rfl⟩
    exact ⟨named, described, first, second, patched, rfl, third, fourth, fifth⟩
  · obtain ⟨id, name, description, personas, skills, plan, rules, hints, policy⟩ := pack
    rintro ⟨named, described, first, second, patched, rfl, third, fourth, fifth⟩
    exact ⟨policy, patched, name, named, description, described, personas, first, skills, second, plan, third, rules,
      fourth, hints, fifth, rfl⟩

theorem field_isSome {α : Type} {parse : Json → Option α} {body : JsonDict} (key : String) (default other : α) :
    (field parse body key default).isSome ↔ (field parse body key other).isSome := by
  unfold field
  cases JsonDict.get? body key <;> rfl

theorem created_isSome_iff {profileId : String} {body : JsonDict} :
    (mergeProfilePack python none profileId body).isSome ↔ SharedTaken body ∧ PolicyTaken python body := by
  unfold SharedTaken
  rw [← createdPolicy_isSome_iff, field_isSome "name" "" profileId]
  simp only [Option.isSome_iff_exists, created_iff]
  constructor
  · rintro ⟨pack, named, described, first, second, created, -⟩
    exact ⟨⟨⟨_, named⟩, ⟨_, described⟩, ⟨_, first⟩, ⟨_, second⟩⟩, ⟨_, created⟩⟩
  · rintro ⟨⟨⟨name, named⟩, ⟨description, described⟩, ⟨personas, first⟩, ⟨skills, second⟩⟩, ⟨policy, created⟩⟩
    exact ⟨{ id := profileId, name, description, defaultPersonas := personas, defaultSkills := skills, policy },
      named, described, first, second, created, rfl, rfl, rfl, rfl⟩

theorem patched_pack_isSome_iff {profileId name : String} (body : PackBody) :
    (mergeProfilePack python (some { id := profileId, name }) profileId body.entries).isSome ↔
      SharedTaken body.entries ∧ TextsTaken body.entries ∧ PatchTaken python body.entries := by
  unfold SharedTaken TextsTaken
  rw [← patchedPolicy_isSome_iff, field_isSome "name" "" name, field_isSome "default_plan" "" "incident-triage"]
  simp only [Option.isSome_iff_exists, patched_iff]
  constructor
  · rintro ⟨pack, named, described, first, second, patched, -, third, fourth, fifth⟩
    exact ⟨⟨⟨_, named⟩, ⟨_, described⟩, ⟨_, first⟩, ⟨_, second⟩⟩, ⟨⟨_, third⟩, ⟨_, fourth⟩, ⟨_, fifth⟩⟩, ⟨_, patched⟩⟩
  · rintro ⟨⟨⟨name, named⟩, ⟨description, described⟩, ⟨personas, first⟩, ⟨skills, second⟩⟩,
      ⟨⟨plan, third⟩, ⟨rules, fourth⟩, ⟨hints, fifth⟩⟩, ⟨policy, patched⟩⟩
    exact ⟨{ id := profileId, name, description, defaultPersonas := personas, defaultSkills := skills
             defaultPlan := plan, globalRules := rules, hintsTemplate := hints, policy },
      named, described, first, second, patched, rfl, third, fourth, fifth⟩

theorem name_eq_iff {profileId name : String} {body : JsonDict} :
    field Json.asText body "name" profileId = field Json.asText body "name" name ↔
      JsonDict.has body "name" = true ∨ name = profileId := by
  unfold field JsonDict.has
  cases said : JsonDict.get? body "name" with
  | none => simpa using eq_comm
  | some value => simp

end

/-- Creating a pack is patching a fresh one exactly when the body leaves alone what only a patch reads, names the pack
    or leaves it the id, and has the mode policy's lists settled; or is refused both times. -/
theorem create_eq_patch_iff (python : PolicyLibrary) (profileId name : String) (body : PackBody) :
    mergeProfilePack python none profileId body.entries =
        mergeProfilePack python (some { id := profileId, name }) profileId body.entries ↔
      CreatesAsPatched python profileId name body.entries := by
  have created : (mergeProfilePack python none profileId body.entries).isSome ↔ _ := created_isSome_iff
  have patched : (mergeProfilePack python (some { id := profileId, name }) profileId body.entries).isSome ↔ _ :=
    patched_pack_isSome_iff body
  constructor
  · intro same
    rw [same, patched] at created
    by_cases shared : SharedTaken body.entries
    · by_cases policy : PolicyTaken python body.entries
      · refine .inr (.inr ?_)
        have taken := patched.mpr (created.mpr ⟨shared, policy⟩)
        obtain ⟨pack, second⟩ := Option.isSome_iff_exists.mp taken
        have first := created_iff.mp (same.trans second)
        have later := patched_iff.mp second
        obtain ⟨named, -, -, -, made, -, plan, rules, hints⟩ := first
        obtain ⟨renamed, -, -, -, remade, -, replan, rerules, rehints⟩ := later
        rw [plan] at replan
        rw [rules] at rerules
        rw [hints] at rehints
        exact ⟨policy, ⟨replan, rerules, rehints⟩, name_eq_iff.mp (named.trans renamed.symm),
          (patchedPolicy_eq_iff body policy).mp (remade.trans made.symm)⟩
      · refine .inr (.inl ⟨policy, ?_⟩)
        by_contra both
        rw [not_or, not_not, not_not] at both
        exact policy (created.mp ⟨shared, both⟩).2
    · exact .inl shared
  · rintro (shared | ⟨policy, refused⟩ | ⟨policy, ⟨plan, rules, hints⟩, named, settled⟩)
    · have first := mt created.mp fun taken => shared taken.1
      have second := mt patched.mp fun taken => shared taken.1
      rw [Option.not_isSome_iff_eq_none.mp first, Option.not_isSome_iff_eq_none.mp second]
    · have first := mt created.mp fun taken => policy taken.2
      have second := mt patched.mp fun taken => refused.elim (fun texts => texts taken.2.1) fun patch => patch taken.2.2
      rw [Option.not_isSome_iff_eq_none.mp first, Option.not_isSome_iff_eq_none.mp second]
    · ext pack
      have policies := (patchedPolicy_eq_iff body policy).mpr settled
      rw [created_iff, patched_iff, name_eq_iff.mpr named, policies, plan, rules, hints]
      simp only [Option.some.injEq, eq_comm]

def rulesBody : PackBody where
  entries := [("name", .str "SOC"), ("global_rules", .str "Page nobody at night.")]
  patch given said := by
    rw [JsonDict.get?_cons, if_neg (by decide), JsonDict.get?_cons, if_neg (by decide)] at said
    cases said

/-- A pack created with rules has none. -/
theorem rules_forgotten :
    mergeProfilePack strictLibrary none "soc" rulesBody.entries ≠
      mergeProfilePack strictLibrary (some { id := "soc", name := "SOC" }) "soc" rulesBody.entries := by
  intro same
  have second : mergeProfilePack strictLibrary (some { id := "soc", name := "SOC" }) "soc" rulesBody.entries =
      some { id := "soc", name := "SOC", globalRules := "Page nobody at night." } := rfl
  obtain ⟨-, -, -, -, -, -, -, rules, -⟩ := created_iff.mp (same.trans second)
  revert rules
  decide

end CysAgi.Catalog
