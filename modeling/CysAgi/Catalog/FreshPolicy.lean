import CysAgi.Catalog.PolicyFrame

open Py

namespace CysAgi.Catalog

def ModeListsSort (patch : JsonDict) : Prop :=
  ∀ given, JsonDict.get? patch "mode_policy" = some (.obj given) → ∀ key items,
    JsonDict.get? given key = some (.arr items) →
      ∃ union, sortedSet (itemsAt (defaultsOf modePolicyFields) key ++ items) = .ok union

def ModeListsSettled (patch : JsonDict) : Prop :=
  ∀ given, JsonDict.get? patch "mode_policy" = some (.obj given) → ∀ key items,
    JsonDict.get? given key = some (.arr items) →
      ∃ union, sortedSet (itemsAt (defaultsOf modePolicyFields) key ++ items) = .ok union ∧
        (key ∈ modePolicyFields.map Prod.fst → union = items)

def withoutNulls (patch : JsonDict) : JsonDict := patch.filter fun field => field.2 ≠ .null

section

variable {python : Coercions}

theorem get?_defaultsOf {fields : List (String × Schema × Json)} (distinct : (fields.map Prod.fst).Nodup)
    {field : String × Schema × Json} (member : field ∈ fields) :
    JsonDict.get? (defaultsOf fields) field.1 = some field.2.2 := by
  have names : (defaultsOf fields).map Prod.fst = fields.map Prod.fst := by
    rw [defaultsOf, List.map_map]
    rfl
  exact lookup_of_mem (names ▸ distinct) (List.mem_map.mpr ⟨field, member, rfl⟩)

theorem schema_of_mode {field : String × Schema × Json} (member : field ∈ modePolicyFields) :
    field.2.1 = .list .text :=
  lookup_modePolicy (lookup_of_mem (by decide) member)

theorem default_items (key : String) :
    ∃ olds : List String, itemsAt (defaultsOf modePolicyFields) key = olds.map .str := by
  let python := strictLibrary.toCoercions
  have valid := validateFields_defaults (by decide) (modePolicy_settled python)
  cases found : modePolicyFields.lookup key with
  | none =>
    refine ⟨[], ?_⟩
    unfold itemsAt
    rw [get?_unknown valid found]
    rfl
  | some field =>
    obtain ⟨schema, default⟩ := field
    cases lookup_modePolicy found
    obtain ⟨value, holds, taken⟩ := held_of_lookup valid found
    obtain ⟨-, texts, rfl⟩ := validate_texts taken
    exact ⟨texts, itemsAt_of_get? holds⟩

theorem isSome_union {key : String} {items union : List Json}
    (sorted : sortedSet (itemsAt (defaultsOf modePolicyFields) key ++ items) = .ok union) :
    (validate python (.list .text) (.arr union)).isSome ↔ (validate python (.list .text) (.arr items)).isSome := by
  constructor
  · intro taken
    obtain ⟨value, valid⟩ := Option.isSome_iff_exists.mp taken
    obtain ⟨-, -, more, -, rfl, -⟩ := texts_of_union sorted valid
    rw [validate_texts_self]
    rfl
  · intro taken
    obtain ⟨value, valid⟩ := Option.isSome_iff_exists.mp taken
    obtain ⟨-, texts, same⟩ := validate_texts valid
    obtain ⟨olds, before⟩ := default_items key
    rw [Json.arr.inj same, before, ← List.map_append, sortedSet_texts] at sorted
    rw [← Except.ok.inj sorted, validate_texts_self]
    rfl

section

variable {given result : JsonDict} (unique : (given.map Prod.fst).Nodup)
  (merged : JsonDict.mergeWith modeStep (defaultsOf modePolicyFields) given = .ok result)

include unique merged

variable (python) in
theorem mode_read {field : String × Schema × Json} (member : field ∈ modePolicyFields) :
    (checked python field.2.1 field.2.2 (JsonDict.get? result field.1) =
        checked python field.2.1 field.2.2 (JsonDict.get? given field.1) ∧
      ∀ items, JsonDict.get? given field.1 ≠ some (.arr items)) ∨
    ∃ items union, JsonDict.get? given field.1 = some (.arr items) ∧
      sortedSet (itemsAt (defaultsOf modePolicyFields) field.1 ++ items) = .ok union ∧
      JsonDict.get? result field.1 = some (.arr union) := by
  cases said : JsonDict.get? given field.1 with
  | none =>
    refine .inl ⟨?_, nofun⟩
    rw [JsonDict.get?_mergeWith_of_none said merged, get?_defaultsOf (by decide) member]
    exact (settled_of_mem (modePolicy_settled python) member).2
  | some value =>
    obtain ⟨outcome, stepped, read⟩ := JsonDict.get?_mergeWith_of_some modeStep_looks unique said merged
    cases value with
    | arr items =>
      obtain ⟨union, sorted, rfl⟩ := except_map_ok.mp stepped
      exact .inr ⟨items, union, rfl, sorted, read⟩
    | _ =>
      cases stepped
      exact .inl ⟨congrArg _ read, nofun⟩

variable (python) in
theorem mode_isSome_iff : (validateFields python modePolicyFields result).isSome ↔
    (validateFields python modePolicyFields given).isSome := by
  rw [validateFields_isSome_iff, validateFields_isSome_iff]
  refine forall₂_congr fun field member => ?_
  rcases mode_read python unique merged member with ⟨same, -⟩ | ⟨items, union, said, sorted, read⟩
  · rw [same]
  · rw [said, read, schema_of_mode member]
    exact isSome_union sorted

theorem mode_settled_iff {held : JsonDict} (valid : validateFields python modePolicyFields given = some held) :
    validateFields python modePolicyFields result = some held ↔
      ∀ key items, JsonDict.get? given key = some (.arr items) → key ∈ modePolicyFields.map Prod.fst →
        sortedSet (itemsAt (defaultsOf modePolicyFields) key ++ items) = .ok items := by
  rw [validateFields_eq_iff (by decide) valid]
  constructor
  · intro same key items said known
    obtain ⟨field, member, rfl⟩ := List.mem_map.mp known
    rcases mode_read python unique merged member with ⟨-, other⟩ | ⟨items', union, said', sorted, read⟩
    · exact absurd said (other items)
    · cases said.symm.trans said'
      have taken := validateFields_isSome_iff.mp (Option.isSome_iff_exists.mpr ⟨held, valid⟩) field member
      obtain ⟨value, first⟩ := Option.isSome_iff_exists.mp taken
      have second := (same field member).trans first
      rw [said, schema_of_mode member] at first
      rw [read, schema_of_mode member] at second
      have items_same := (validate_texts first).1
      have union_same := (validate_texts second).1
      cases items_same.symm.trans union_same
      exact sorted
  · intro settled field member
    rcases mode_read python unique merged member with ⟨same, -⟩ | ⟨items, union, said, sorted, read⟩
    · exact same
    · have again := settled field.1 items said (List.mem_map_of_mem member)
      cases sorted.symm.trans again
      rw [said, read]

end

theorem validateFields_defaults_update {fields : List (String × Schema × Json)}
    (distinct : (fields.map Prod.fst).Nodup) (settled : SettledFields python fields) {given : JsonDict}
    (unique : (given.map Prod.fst).Nodup) :
    validateFields python fields ((defaultsOf fields).update given) = validateFields python fields given := by
  apply validateFields_congr
  intro field member
  cases said : JsonDict.get? given field.1 with
  | none =>
    rw [JsonDict.get?_update_of_none said, get?_defaultsOf distinct member]
    exact (settled_of_mem settled member).2
  | some value => rw [JsonDict.get?_update_of_some unique said]

theorem validate_laid {key : String} (laid : key ∈ laidKeys) {schema : Schema} {default : Json}
    (found : profilePolicyFields.lookup key = some (schema, default)) {given : JsonDict}
    (unique : (given.map Prod.fst).Nodup) :
    validate python schema (.obj ((fieldsAt (defaultsOf profilePolicyFields) key).update given)) =
      validate python schema (.obj given) := by
  have table : JsonDict.update [] given = given := JsonDict.update_of_apart unique
  simp only [laidKeys, List.mem_cons, List.not_mem_nil, or_false] at laid
  rcases laid with rfl | rfl | rfl | rfl | rfl <;> cases found
  · exact congrArg (fun fields => validate python _ (.obj fields)) table
  · exact congrArg (fun fields => validate python _ (.obj fields)) table
  · exact congrArg (Option.map Json.obj)
      (validateFields_defaults_update (by decide) (traceCritic_settled python) unique)
  · exact congrArg (Option.map Json.obj) (validateFields_defaults_update (by decide) (anomaly_settled python) unique)
  · exact congrArg (Option.map Json.obj)
      (validateFields_defaults_update (by decide) (qualitySignals_settled python) unique)

theorem get?_withoutNulls (patch : PolicyPatch) (key : String) : JsonDict.get? (withoutNulls patch.entries) key =
    if JsonDict.get? patch.entries key = some .null then none else JsonDict.get? patch.entries key := by
  have read := JsonDict.get?_filter patch.distinct (fun value => decide (value ≠ .null)) key
  unfold withoutNulls
  rw [read]
  cases JsonDict.get? patch.entries key with
  | none => rfl
  | some value => by_cases null : value = .null <;> simp [null]

section

variable {patch : PolicyPatch} {data : JsonDict}
  (merged : JsonDict.mergeWith policyStep (defaultsOf profilePolicyFields) patch.entries = .ok data)

include merged

variable (python) in
theorem policy_read {key : String} {schema : Schema} {default : Json}
    (member : (key, schema, default) ∈ profilePolicyFields) :
    ((JsonDict.get? patch.entries key = none ∨ JsonDict.get? patch.entries key = some .null) ∧
      checked python schema default (JsonDict.get? data key) = some default) ∨
    (∃ value, JsonDict.get? patch.entries key = some value ∧ value ≠ .null ∧
      (key = "mode_policy" → ∀ given, value ≠ .obj given) ∧
      checked python schema default (JsonDict.get? data key) = validate python schema value) ∨
    (key = "mode_policy" ∧ schema = .record modePolicyFields ∧ ∃ given result,
      JsonDict.get? patch.entries key = some (.obj given) ∧
      JsonDict.mergeWith modeStep (defaultsOf modePolicyFields) given = .ok result ∧
      JsonDict.get? data key = some (.obj result)) := by
  have kept := (settled_of_mem (profilePolicy_settled python) member).2
  have fresh := get?_defaultsOf profilePolicy_distinct member
  have found := lookup_of_mem profilePolicy_distinct member
  dsimp only at kept fresh found
  cases said : JsonDict.get? patch.entries key with
  | none =>
    refine .inl ⟨.inl rfl, ?_⟩
    rw [JsonDict.get?_mergeWith_of_none said merged, fresh]
    exact kept
  | some value =>
    obtain ⟨outcome, stepped, read⟩ := JsonDict.get?_mergeWith_of_some policyStep_looks patch.distinct said merged
    cases value with
    | null =>
      cases stepped
      refine .inl ⟨.inr rfl, ?_⟩
      rw [read, Option.none_or, fresh]
      exact kept
    | obj given =>
      rw [policyStep_obj] at stepped
      by_cases laid : key ∈ laidKeys
      · rw [if_pos laid] at stepped
        cases stepped
        have apart : key ≠ "mode_policy" := by
          rintro rfl
          revert laid
          decide
        refine .inr (.inl ⟨.obj given, rfl, nofun, fun mode => absurd mode apart, ?_⟩)
        rw [read]
        exact validate_laid laid found (patch.inside _ _ said)
      · rw [if_neg laid] at stepped
        by_cases mode : key = "mode_policy"
        · subst mode
          rw [if_pos rfl] at stepped
          obtain ⟨result, modes, rfl⟩ := except_map_ok.mp stepped
          cases found
          exact .inr (.inr ⟨rfl, rfl, given, result, rfl, modes, read⟩)
        · rw [if_neg mode] at stepped
          cases stepped
          exact .inr (.inl ⟨.obj given, rfl, nofun, fun here => absurd here mode, congrArg _ read⟩)
    | _ =>
      cases stepped
      exact .inr (.inl ⟨_, rfl, nofun, fun _ => nofun, congrArg _ read⟩)

theorem patched_isSome_iff : (validateFields python profilePolicyFields data).isSome ↔
    (validateFields python profilePolicyFields (withoutNulls patch.entries)).isSome := by
  rw [validateFields_isSome_iff, validateFields_isSome_iff]
  refine forall₂_congr fun field member => ?_
  obtain ⟨key, schema, default⟩ := field
  dsimp only
  rw [get?_withoutNulls]
  rcases policy_read python merged member with ⟨unsaid, taken⟩ | ⟨value, said, present, -, taken⟩ |
    ⟨rfl, rfl, given, result, said, modes, read⟩
  · rw [taken]
    rcases unsaid with absent | null
    · rw [absent]
      rfl
    · rw [if_pos null]
      rfl
  · rw [taken, said, if_neg fun same => present (Option.some.inj same)]
    rfl
  · have same := mode_isSome_iff python (patch.inside _ _ said) modes
    rw [said, read, if_neg nofun]
    simp only [checked, validate, Option.isSome_map]
    exact same

theorem patched_eq_iff (refuses : ∀ field ∈ profilePolicyFields, validate python field.2.1 .null = none)
    {held : JsonDict} (valid : validateFields python profilePolicyFields patch.entries = some held) :
    validateFields python profilePolicyFields data = some held ↔
      ∀ given, JsonDict.get? patch.entries "mode_policy" = some (.obj given) → ∀ key items,
        JsonDict.get? given key = some (.arr items) → key ∈ modePolicyFields.map Prod.fst →
          sortedSet (itemsAt (defaultsOf modePolicyFields) key ++ items) = .ok items := by
  have every := validateFields_isSome_iff.mp (Option.isSome_iff_exists.mpr ⟨held, valid⟩)
  rw [validateFields_eq_iff profilePolicy_distinct valid]
  constructor
  · intro same given said
    have member : ("mode_policy", Schema.record modePolicyFields, Json.obj (defaultsOf modePolicyFields)) ∈
        profilePolicyFields := mem_of_lookup rfl
    rcases policy_read python merged member with ⟨unsaid, -⟩ | ⟨value, said', -, apart, -⟩ |
      ⟨-, -, given', result, said', modes, read⟩
    · rcases unsaid with absent | null
      · rw [said] at absent
        cases absent
      · rw [said] at null
        cases null
    · cases said.symm.trans said'
      exact absurd rfl (apart rfl given)
    · cases said.symm.trans said'
      have here := same _ member
      have taken := every _ member
      dsimp only at here taken
      rw [said, read] at here
      rw [said] at taken
      obtain ⟨mode, first⟩ := Option.isSome_iff_exists.mp taken
      obtain ⟨results, inside, rfl⟩ := Option.map_eq_some_iff.mp first
      obtain ⟨again, second, equal⟩ := Option.map_eq_some_iff.mp (here.trans first)
      cases equal
      exact (mode_settled_iff (patch.inside _ _ said) modes inside).mp second
  · intro settled field member
    have taken := every field member
    have refused := refuses field member
    obtain ⟨key, schema, default⟩ := field
    dsimp only at taken refused ⊢
    rcases policy_read python merged member with ⟨unsaid, made⟩ | ⟨value, said, -, -, made⟩ |
      ⟨rfl, rfl, given, result, said, modes, read⟩
    · rw [made]
      rcases unsaid with absent | null
      · rw [absent]
        rfl
      · rw [null, checked, refused] at taken
        cases taken
    · rw [made, said]
      rfl
    · rw [said] at taken
      obtain ⟨mode, first⟩ := Option.isSome_iff_exists.mp taken
      obtain ⟨results, inside, -⟩ := Option.map_eq_some_iff.mp first
      have second := (mode_settled_iff (patch.inside _ _ said) modes inside).mpr (settled given said)
      rw [said, read, checked, checked, validate, validate, inside, second]

end

theorem merged_default_iff (patch : PolicyPatch) :
    (∃ data, JsonDict.mergeWith policyStep (defaultsOf profilePolicyFields) patch.entries = .ok data) ↔
      ModeListsSort patch.entries := by
  rw [JsonDict.mergeWith_ok_iff policyStep_looks patch.distinct]
  constructor
  · intro through given said key items listed
    obtain ⟨outcome, stepped⟩ := through _ (mem_of_lookup said)
    obtain ⟨result, modes, -⟩ := except_map_ok.mp stepped
    have each := (JsonDict.mergeWith_ok_iff modeStep_looks (patch.inside _ _ said)).mp ⟨result, modes⟩
    obtain ⟨made, joined⟩ := each _ (mem_of_lookup listed)
    obtain ⟨union, sorted, -⟩ := except_map_ok.mp joined
    exact ⟨union, sorted⟩
  · rintro sort ⟨key, value⟩ member
    have said := lookup_of_mem patch.distinct member
    dsimp only at said ⊢
    cases value with
    | obj given =>
      rw [policyStep_obj]
      split
      · exact ⟨_, rfl⟩
      · split
        · next mode =>
          subst mode
          have unique := patch.inside _ _ said
          obtain ⟨result, modes⟩ := (JsonDict.mergeWith_ok_iff modeStep_looks unique).mpr
            (show ∀ field ∈ given, ∃ outcome,
              modeStep (defaultsOf modePolicyFields) field.1 field.2 = .ok outcome by
            rintro ⟨subKey, subVal⟩ inside
            have listed := lookup_of_mem unique inside
            cases subVal with
            | arr items =>
              obtain ⟨union, sorted⟩ := sort given said subKey items listed
              exact ⟨some (.arr union), except_map_ok.mpr ⟨union, sorted, rfl⟩⟩
            | _ => exact ⟨_, rfl⟩)
          exact ⟨some (.obj result), except_map_ok.mpr ⟨result, modes, rfl⟩⟩
        · exact ⟨_, rfl⟩
    | _ => exact ⟨_, rfl⟩

end

end CysAgi.Catalog
