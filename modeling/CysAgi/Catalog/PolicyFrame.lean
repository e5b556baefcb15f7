import CysAgi.Catalog.ModeTools

open Py

namespace CysAgi.Catalog

/-- A patch as a dict: each key is there once, and so in each dict inside. -/
structure PolicyPatch where
  entries : JsonDict
  distinct : (entries.map Prod.fst).Nodup
  inside : ∀ key given, JsonDict.get? entries key = some (.obj given) → (given.map Prod.fst).Nodup

def subField (data : JsonDict) (key subKey : String) : Option Json :=
  (JsonDict.get? data key).bind fun value => value.fieldOf subKey

/-- What the patch does not mention is as it was, and no tool is gone from the mode policy. -/
structure KeepsUnmentioned (existing merged patch : JsonDict) : Prop where
  fields : ∀ key, JsonDict.get? patch key = none ∨ JsonDict.get? patch key = some .null →
    JsonDict.get? merged key = JsonDict.get? existing key
  subFields : ∀ key given, JsonDict.get? patch key = some (.obj given) → ∀ subKey, JsonDict.get? given subKey = none →
    subField merged key subKey = subField existing key subKey
  modeTools : ∀ subKey, ∀ tool ∈ itemsAt (fieldsAt existing "mode_policy") subKey,
    tool ∈ itemsAt (fieldsAt merged "mode_policy") subKey

def ReplacesNothing (existing patch : JsonDict) : Prop :=
  ∀ key ∈ ["sgr", "bus_policy"], ∀ given, JsonDict.get? patch key = some (.obj given) →
    ∀ subKey, JsonDict.get? given subKey = none →
      subField existing key subKey = subField (defaultsOf profilePolicyFields) key subKey

def laidKeys : List String := ["tool_allowlist", "tool_risk", "trace_critic", "anomaly", "quality_signals"]

section

theorem policyStep_looks (data other : JsonDict) (key : String) (value : Json)
    (same : JsonDict.get? data key = JsonDict.get? other key) :
    policyStep data key value = policyStep other key value := by
  have fields : fieldsAt data key = fieldsAt other key := by
    unfold fieldsAt
    rw [same]
  cases value <;> simp only [policyStep, fields]

theorem policyStep_obj (data : JsonDict) (key : String) (given : JsonDict) :
    policyStep data key (.obj given) =
      if key ∈ laidKeys then .ok (some (.obj ((fieldsAt data key).update given)))
      else if key = "mode_policy" then
        (JsonDict.mergeWith modeStep (fieldsAt data key) given).map fun merged => some (.obj merged)
      else .ok (some (.obj given)) := by
  unfold policyStep laidKeys
  by_cases allowlist : key = "tool_allowlist"
  · simp [allowlist]
  · by_cases risk : key = "tool_risk"
    · simp [risk]
    · by_cases mode : key = "mode_policy"
      · simp [mode]
      · simp [allowlist, risk, mode]

theorem lookup_laid {key : String} (laid : key ∈ laidKeys) :
    ∃ schema default, profilePolicyFields.lookup key = some (schema, default) ∧ schema.nested = true := by
  simp only [laidKeys, List.mem_cons, List.not_mem_nil, or_false] at laid
  rcases laid with rfl | rfl | rfl | rfl | rfl <;> exact ⟨_, _, rfl, rfl⟩

theorem leaf_of_lookup {key : String} {schema : Schema} {default : Json}
    (found : profilePolicyFields.lookup key = some (schema, default)) (laid : key ∉ laidKeys)
    (mode : key ≠ "mode_policy") (replaced : key ∉ ["sgr", "bus_policy"]) : schema.leaf = true := by
  have every : (profilePolicyFields.all fun field =>
      decide (field.1 ∈ laidKeys ++ "mode_policy" :: ["sgr", "bus_policy"]) || field.2.1.leaf) = true := by decide
  have here := List.all_eq_true.mp every _ (mem_of_lookup found)
  rw [Bool.or_eq_true, decide_eq_true_eq, List.mem_append, List.mem_cons] at here
  rcases here with (inside | inside | inside) | leaf
  · exact absurd inside laid
  · exact absurd inside mode
  · exact absurd inside replaced
  · exact leaf

theorem fieldsAt_of_get? {data fields : JsonDict} {key : String} (found : JsonDict.get? data key = some (.obj fields)) :
    fieldsAt data key = fields := by
  unfold fieldsAt
  rw [found]

variable {python : Coercions} {table held : JsonDict}

theorem modePolicy_held (known : validateFields python profilePolicyFields table = some table) :
    ∃ mode, JsonDict.get? table "mode_policy" = some (.obj mode) ∧
      validateFields python modePolicyFields mode = some mode := by
  have found : profilePolicyFields.lookup "mode_policy" =
    some (.record modePolicyFields, .obj (defaultsOf modePolicyFields)) := rfl
  obtain ⟨value, holds, taken⟩ := held_of_lookup known found
  obtain ⟨mode, _, rfl, -⟩ := obj_of_nested rfl taken
  exact ⟨mode, holds, validate_record_iff.mp taken⟩

theorem policyStep_again (known : validateFields python profilePolicyFields table = some table)
    (kept : validateFields python profilePolicyFields held = some held) {key : String} {value : Json}
    (unique : ∀ given, value = .obj given → (given.map Prod.fst).Nodup) {outcome : Option Json}
    (stepped : policyStep table key value = .ok outcome)
    (read : JsonDict.get? held key =
      (Schema.record profilePolicyFields).heldAt python key (outcome.or (JsonDict.get? table key))) :
    ∃ next, policyStep held key value = .ok next ∧ (Schema.record profilePolicyFields).heldAt python key
      (next.or (JsonDict.get? held key)) = JsonDict.get? held key := by
  cases value with
  | null => exact ⟨none, rfl, (get?_held_of_mergeWith kept rfl).symm⟩
  | obj given =>
    have distinct := unique given rfl
    rw [policyStep_obj] at stepped ⊢
    by_cases laid : key ∈ laidKeys
    · rw [if_pos laid] at stepped ⊢
      cases stepped
      obtain ⟨schema, default, found, nested⟩ := lookup_laid laid
      obtain ⟨value, holds, -⟩ := held_of_lookup kept found
      have valid : validate python schema (.obj ((fieldsAt table key).update given)) = some value := by
        rw [← holds, read, Schema.heldAt, found]
        rfl
      obtain ⟨_, results, -, rfl⟩ := obj_of_nested nested valid
      have settled := (settled_of_mem (profilePolicy_settled python) (mem_of_lookup found)).1
      refine ⟨some (.obj ((fieldsAt held key).update given)), rfl, ?_⟩
      rw [holds, fieldsAt_of_get? holds, Schema.heldAt, found]
      exact validate_update_again settled distinct valid
    · rw [if_neg laid] at stepped ⊢
      by_cases mode : key = "mode_policy"
      · subst mode
        rw [if_pos rfl] at stepped ⊢
        obtain ⟨data, merged, rfl⟩ := except_map_ok.mp stepped
        obtain ⟨before, had, known⟩ := modePolicy_held known
        obtain ⟨mode, holds, kept⟩ := modePolicy_held kept
        rw [fieldsAt_of_get? had] at merged
        have taken : validate python (.record modePolicyFields) (.obj data) = some (.obj mode) := by
          rw [← holds, read]
          rfl
        obtain ⟨later, remerged, again⟩ := mergeWith_validate_again modeStep_looks (by decide)
          (modePolicy_settled python) distinct merged (validate_record_iff.mp taken)
          fun _ _ _ stepped _ read => modeStep_again known kept stepped read
        refine ⟨some (.obj later), ?_, ?_⟩
        · rw [fieldsAt_of_get? holds, remerged]
          rfl
        · have retaken := validate_record_iff.mpr again
          exact retaken.trans holds.symm
      · rw [if_neg mode] at stepped ⊢
        cases stepped
        exact ⟨_, rfl, read.symm⟩
  | _ =>
    cases stepped
    exact ⟨_, rfl, read.symm⟩

theorem modelValidate_ok {data : JsonDict} {python : PolicyLibrary} {payload : ProfilePolicyPayload python} :
    ProfilePolicyPayload.modelValidate python data = .ok payload ↔
      validateFields python.toCoercions profilePolicyFields data = some payload.modelDump := by
  unfold ProfilePolicyPayload.modelValidate
  split
  · next refused => simp [refused]
  · next held taken =>
    obtain ⟨dump, valid⟩ := payload
    simp [taken]

theorem mergeProfilePolicy_ok {python : PolicyLibrary} {existing merged : ProfilePolicyPayload python}
    {patch : JsonDict} :
    mergeProfilePolicy python existing patch = .ok merged ↔
      ∃ data, JsonDict.mergeWith policyStep existing.modelDump patch = .ok data ∧
        validateFields python.toCoercions profilePolicyFields data = some merged.modelDump := by
  unfold mergeProfilePolicy
  simp only [except_bind_ok, modelValidate_ok]

theorem merge_again {python : PolicyLibrary} {existing merged : ProfilePolicyPayload python} {patch : PolicyPatch}
    (done : mergeProfilePolicy python existing patch.entries = .ok merged) :
    mergeProfilePolicy python merged patch.entries = .ok merged := by
  obtain ⟨data, looped, valid⟩ := mergeProfilePolicy_ok.mp done
  apply mergeProfilePolicy_ok.mpr
  apply mergeWith_validate_again policyStep_looks profilePolicy_distinct (profilePolicy_settled _) patch.distinct looped
    valid
  intro key value outcome stepped said read
  refine policyStep_again existing.valid merged.valid ?_ stepped read
  rintro given rfl
  exact patch.inside key given said

theorem subField_given {data given : JsonDict} (valid : validateFields python profilePolicyFields data = some held)
    {key : String} {schema : Schema} {default : Json}
    (found : profilePolicyFields.lookup key = some (schema, default))
    (said : JsonDict.get? data key = some (.obj given)) (subKey : String) :
    subField held key subKey = schema.heldAt python subKey (JsonDict.get? given subKey) := by
  have kept := validateFields_held profilePolicy_distinct (profilePolicy_settled python) valid
  obtain ⟨value, holds, -⟩ := held_of_lookup kept found
  have read := get?_held_of_mergeWith valid said
  rw [holds, Schema.heldAt, found] at read
  rw [subField, holds]
  exact fieldOf_validate read.symm subKey

theorem subField_self (known : validateFields python profilePolicyFields table = some table) {key : String}
    {schema : Schema} {default : Json} (found : profilePolicyFields.lookup key = some (schema, default))
    (nested : schema.nested = true) (subKey : String) :
    JsonDict.get? table key = some (.obj (fieldsAt table key)) ∧
      subField table key subKey = schema.heldAt python subKey (JsonDict.get? (fieldsAt table key) subKey) := by
  obtain ⟨value, holds, taken⟩ := held_of_lookup known found
  obtain ⟨fields, _, rfl, -⟩ := obj_of_nested nested taken
  have same := fieldsAt_of_get? holds
  rw [same]
  exact ⟨holds, subField_given known found holds subKey⟩

theorem subField_leaf (known : validateFields python profilePolicyFields table = some table) {key : String}
    {schema : Schema} {default : Json} (found : profilePolicyFields.lookup key = some (schema, default))
    (leaf : schema.leaf = true) (subKey : String) : subField table key subKey = none := by
  cases holds : JsonDict.get? table key with
  | none => rw [subField, holds, Option.bind_none]
  | some value =>
    cases value with
    | obj fields => rw [subField_given known found holds, heldAt_of_leaf leaf]
    | _ =>
      rw [subField, holds]
      rfl

theorem subField_fresh (python : Coercions) {key : String} (replaced : key ∈ ["sgr", "bus_policy"]) :
    ∃ schema default, profilePolicyFields.lookup key = some (schema, default) ∧ schema.nested = true ∧
      ∀ subKey, schema.heldAt python subKey none = subField (defaultsOf profilePolicyFields) key subKey := by
  simp only [List.mem_cons, List.not_mem_nil, or_false] at replaced
  rcases replaced with rfl | rfl
  · refine ⟨.record sgrFields, .obj (defaultsOf sgrFields), rfl, rfl, fun subKey => ?_⟩
    exact (get?_validateFields (validateFields_nothing sgrFields) subKey).symm
  · exact ⟨.dict (.list .text), .obj [], rfl, rfl, fun subKey => rfl⟩

section

variable {python : PolicyLibrary} {existing merged : ProfilePolicyPayload python} {patch : PolicyPatch}
  {data : JsonDict} (looped : JsonDict.mergeWith policyStep existing.modelDump patch.entries = .ok data)
  (valid : validateFields python.toCoercions profilePolicyFields data = some merged.modelDump)

include looped

theorem given_of_merged {key : String} {given : JsonDict}
    (said : JsonDict.get? patch.entries key = some (.obj given)) :
    ∃ outcome, policyStep existing.modelDump key (.obj given) = .ok (some outcome) ∧
      JsonDict.get? data key = some outcome := by
  obtain ⟨outcome, stepped, read⟩ := JsonDict.get?_mergeWith_of_some policyStep_looks patch.distinct said looped
  cases outcome with
  | some value => exact ⟨value, stepped, read⟩
  | none =>
    rw [policyStep_obj] at stepped
    split at stepped
    · cases stepped
    · split at stepped
      · obtain ⟨_, _, other⟩ := except_map_ok.mp stepped
        cases other
      · cases stepped

include valid

theorem merged_fields {key : String}
    (unmentioned : JsonDict.get? patch.entries key = none ∨ JsonDict.get? patch.entries key = some .null) :
    JsonDict.get? merged.modelDump key = JsonDict.get? existing.modelDump key := by
  have same : JsonDict.get? data key = JsonDict.get? existing.modelDump key := by
    rcases unmentioned with absent | null
    · exact JsonDict.get?_mergeWith_of_none absent looped
    · obtain ⟨outcome, stepped, read⟩ := JsonDict.get?_mergeWith_of_some policyStep_looks patch.distinct null looped
      cases stepped
      exact read
  exact (get?_held_of_mergeWith valid same).trans (get?_held_of_mergeWith existing.valid rfl).symm

theorem merged_replaced {key : String} {given : JsonDict}
    (said : JsonDict.get? patch.entries key = some (.obj given)) (replaced : key ∈ ["sgr", "bus_policy"])
    {subKey : String} (absent : JsonDict.get? given subKey = none) :
    subField merged.modelDump key subKey = subField (defaultsOf profilePolicyFields) key subKey := by
  obtain ⟨outcome, stepped, read⟩ := given_of_merged looped said
  obtain ⟨schema, default, found, -, fresh⟩ := subField_fresh python.toCoercions replaced
  have whole : policyStep existing.modelDump key (.obj given) = .ok (some (.obj given)) := by
    simp only [List.mem_cons, List.not_mem_nil, or_false] at replaced
    rcases replaced with rfl | rfl <;> rfl
  cases whole.symm.trans stepped
  rw [subField_given valid found read, absent, fresh]

theorem merged_subFields {key : String} {given : JsonDict}
    (said : JsonDict.get? patch.entries key = some (.obj given)) (apart : key ∉ ["sgr", "bus_policy"])
    {subKey : String} (absent : JsonDict.get? given subKey = none) :
    subField merged.modelDump key subKey = subField existing.modelDump key subKey := by
  cases found : profilePolicyFields.lookup key with
  | none =>
    unfold subField
    rw [get?_unknown valid found, get?_unknown existing.valid found]
  | some field =>
    obtain ⟨schema, default⟩ := field
    obtain ⟨outcome, stepped, read⟩ := given_of_merged looped said
    rw [policyStep_obj] at stepped
    by_cases laid : key ∈ laidKeys
    · rw [if_pos laid] at stepped
      cases stepped
      obtain ⟨_, _, known, nested⟩ := lookup_laid laid
      cases found.symm.trans known
      rw [subField_given valid found read, (subField_self existing.valid found nested subKey).2,
        JsonDict.get?_update_of_none absent]
    · rw [if_neg laid] at stepped
      by_cases mode : key = "mode_policy"
      · rw [if_pos mode] at stepped
        obtain ⟨result, modes, same⟩ := except_map_ok.mp stepped
        cases same
        have nested : schema.nested = true := by
          subst mode
          cases found
          rfl
        rw [subField_given valid found read, (subField_self existing.valid found nested subKey).2,
          JsonDict.get?_mergeWith_of_none absent modes]
      · have leaf := leaf_of_lookup found laid mode apart
        rw [subField_leaf merged.valid found leaf, subField_leaf existing.valid found leaf]

theorem merged_modeTools {subKey : String} {tool : Json}
    (member : tool ∈ itemsAt (fieldsAt existing.modelDump "mode_policy") subKey) :
    tool ∈ itemsAt (fieldsAt merged.modelDump "mode_policy") subKey := by
  obtain ⟨before, had, known⟩ := modePolicy_held existing.valid
  obtain ⟨mode, holds, kept⟩ := modePolicy_held merged.valid
  rw [fieldsAt_of_get? had] at member
  rw [fieldsAt_of_get? holds]
  cases said : JsonDict.get? patch.entries "mode_policy" with
  | none =>
    have same := merged_fields looped valid (.inl said)
    rw [had, holds] at same
    cases same
    exact member
  | some value =>
    obtain ⟨outcome, stepped, read⟩ := JsonDict.get?_mergeWith_of_some policyStep_looks patch.distinct said looped
    have held := get?_held_of_mergeWith valid read
    cases value with
    | null =>
      have same := merged_fields looped valid (.inr said)
      rw [had, holds] at same
      cases same
      exact member
    | obj given =>
      obtain ⟨result, modes, rfl⟩ := except_map_ok.mp stepped
      rw [fieldsAt_of_get? had] at modes
      have taken : validate python.toCoercions (.record modePolicyFields) (.obj result) = some (.obj mode) := by
        rw [← holds, held]
        rfl
      exact mem_itemsAt_merged known (patch.inside _ _ said) modes (validate_record_iff.mp taken) member
    | _ =>
      cases stepped
      cases holds.symm.trans held

end

/-- A patch is framed and idempotent exactly when what it leaves out of `sgr` and of `bus_policy` was as in a fresh
    policy. -/
theorem mergeProfilePolicy_framed_iff (python : PolicyLibrary) (existing merged : ProfilePolicyPayload python)
    (patch : PolicyPatch) (done : mergeProfilePolicy python existing patch.entries = .ok merged) :
    KeepsUnmentioned existing.modelDump merged.modelDump patch.entries ∧
        mergeProfilePolicy python merged patch.entries = .ok merged ↔
      ReplacesNothing existing.modelDump patch.entries := by
  obtain ⟨data, looped, valid⟩ := mergeProfilePolicy_ok.mp done
  constructor
  · rintro ⟨keeps, -⟩ key replaced given said subKey absent
    rw [← keeps.subFields key given said subKey absent]
    exact merged_replaced looped valid said replaced absent
  · intro nothing
    refine ⟨⟨fun key => merged_fields looped valid, ?_, fun subKey tool => merged_modeTools looped valid⟩,
      merge_again done⟩
    intro key given said subKey absent
    by_cases replaced : key ∈ ["sgr", "bus_policy"]
    · rw [merged_replaced looped valid said replaced absent, nothing key replaced given said subKey absent]
    · exact merged_subFields looped valid said replaced absent

def strictLibrary : PolicyLibrary where
  bool | .bool value => some value | _ => none
  int | .int value => some value | _ => none
  float | .float value => some value | _ => none
  bool_self _ := rfl
  int_self _ := rfl
  float_self _ := rfl
  int_null := rfl
  float_null := rfl
  validationError _ := .exception "validation error"

def guidedPolicy : ProfilePolicyPayload strictLibrary where
  modelDump := (defaultsOf profilePolicyFields).set "sgr"
    (.obj [("enabled", .bool true), ("mode", .str "sgr_iron"), ("require_before_action", .bool true)])
  valid := rfl

def guidanceMode : PolicyPatch where
  entries := [("sgr", .obj [("mode", .str "sgr_hybrid")])]
  distinct := by decide
  inside key given said := by
    rw [JsonDict.get?_cons] at said
    split at said
    · cases said
      decide
    · cases said

def hybridPolicy : ProfilePolicyPayload strictLibrary where
  modelDump := (defaultsOf profilePolicyFields).set "sgr"
    (.obj [("enabled", .bool false), ("mode", .str "sgr_hybrid"), ("require_before_action", .bool true)])
  valid := rfl

theorem hybrid_of_default :
    KeepsUnmentioned (ProfilePolicyPayload.default strictLibrary).modelDump hybridPolicy.modelDump
        guidanceMode.entries ∧
      mergeProfilePolicy strictLibrary hybridPolicy guidanceMode.entries = .ok hybridPolicy :=
  (mergeProfilePolicy_framed_iff strictLibrary (.default strictLibrary) hybridPolicy guidanceMode
    (mergeProfilePolicy_ok.mpr ⟨_, rfl, rfl⟩)).mpr fun _ _ _ _ _ _ => rfl

/-- A patch of the mode alone turns guided reasoning off. -/
theorem guidance_turned_off :
    ¬ ∀ (existing merged : ProfilePolicyPayload strictLibrary) (patch : PolicyPatch),
      mergeProfilePolicy strictLibrary existing patch.entries = .ok merged →
        KeepsUnmentioned existing.modelDump merged.modelDump patch.entries ∧
          mergeProfilePolicy strictLibrary merged patch.entries = .ok merged := by
  intro framed
  have done : mergeProfilePolicy strictLibrary guidedPolicy guidanceMode.entries = .ok hybridPolicy :=
    mergeProfilePolicy_ok.mpr ⟨_, rfl, rfl⟩
  have same := (framed guidedPolicy hybridPolicy guidanceMode done).1.subFields "sgr" _ rfl "enabled" rfl
  cases same

end

end CysAgi.Catalog
