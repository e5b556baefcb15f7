import CysAgi.Base.Effect
import CysAgi.Catalog.PolicyMerge

open Py

namespace CysAgi.Catalog

section

theorem mapM_textOf {items : List Json} {texts : List String} :
    items.mapM Json.asText = some texts ↔ items = texts.map .str := by
  rw [mapM_eq_some_iff]
  constructor
  · intro read
    induction read with
    | nil => rfl
    | @cons item text _ _ first _ ih =>
      cases item with
      | str _ =>
        cases first
        rw [List.map_cons, ih]
      | _ => cases first
  · rintro rfl
    induction texts with
    | nil => exact .nil
    | cons text rest ih => exact .cons rfl ih

theorem sortedSet_texts (texts : List String) :
    sortedSet (texts.map .str) = .ok (texts.toFinset.sort.map .str) := by
  have hashable : (texts.map Json.str).any Json.unhashable = false := by
    simp [Json.unhashable]
  unfold sortedSet
  rw [hashable, if_neg Bool.false_ne_true, mapM_textOf.mpr rfl]

theorem number_of_sorted {items : List Json} {numbers : List Rat} (counted : items.mapM numberOf = some numbers)
    (present : items ≠ []) : ∃ item ∈ numbers.toFinset.sort.filterMap
      (fun number => items.find? fun item => numberOf item = some number), (numberOf item).isSome := by
  rw [mapM_eq_some_iff] at counted
  cases counted with
  | nil => exact absurd rfl present
  | @cons first number rest others taken _ =>
    have member : number ∈ (number :: others).toFinset.sort := by
      simp
    cases found : (first :: rest).find? fun item => numberOf item = some number with
    | none =>
      have unlike := List.find?_eq_none.mp found first List.mem_cons_self
      exact absurd (decide_eq_true taken) unlike
    | some item =>
      have kept := List.find?_some found
      have counts := of_decide_eq_true kept
      exact ⟨item, List.mem_filterMap.mpr ⟨number, member, found⟩, by rw [counts]; rfl⟩

theorem texts_of_sortedSet {items : List Json} {texts : List String}
    (sorted : sortedSet items = .ok (texts.map .str)) :
    ∃ given : List String, items = given.map .str ∧ texts = given.toFinset.sort := by
  unfold sortedSet at sorted
  split at sorted
  · cases sorted
  · cases read : items.mapM Json.asText with
    | some given =>
      simp only [read] at sorted
      refine ⟨given, mapM_textOf.mp read, ?_⟩
      have same := Except.ok.inj sorted
      exact (List.map_injective_iff.mpr (fun _ _ => Json.str.inj) same).symm
    | none =>
      cases counted : items.mapM numberOf with
      | some numbers =>
        simp only [read, counted] at sorted
        have present : items ≠ [] := by
          rintro rfl
          cases read
        obtain ⟨item, member, number⟩ := number_of_sorted counted present
        rw [Except.ok.inj sorted] at member
        obtain ⟨text, -, rfl⟩ := List.mem_map.mp member
        cases number
      | none =>
        simp only [read, counted] at sorted
        split at sorted
        · have same := Except.ok.inj sorted
          cases texts <;> cases same
        · cases sorted

theorem validate_text {python : Coercions} {value held : Json} (valid : validate python .text value = some held) :
    held = value ∧ ∃ text, value = .str text := by
  cases value with
  | str text =>
    cases valid
    exact ⟨rfl, text, rfl⟩
  | _ => cases valid

theorem validate_texts {python : Coercions} {value held : Json}
    (valid : validate python (.list .text) value = some held) :
    held = value ∧ ∃ texts : List String, value = .arr (texts.map .str) := by
  cases value with
  | arr items =>
    obtain ⟨results, made, rfl⟩ := Option.map_eq_some_iff.mp valid
    rw [mapM_eq_some_iff] at made
    clear valid
    have strings : results = items ∧ ∃ texts : List String, items = texts.map .str := by
      induction made with
      | nil => exact ⟨rfl, [], rfl⟩
      | cons first _ ih =>
        obtain ⟨rfl, text, rfl⟩ := validate_text first
        obtain ⟨rfl, texts, rfl⟩ := ih
        exact ⟨rfl, text :: texts, rfl⟩
    obtain ⟨rfl, texts, rfl⟩ := strings
    exact ⟨rfl, texts, rfl⟩
  | _ => cases valid

theorem validate_texts_self (python : Coercions) (texts : List String) :
    validate python (.list .text) (.arr (texts.map .str)) = some (.arr (texts.map .str)) := by
  have made : (texts.map Json.str).mapM (validate python .text) = some (texts.map Json.str) := by
    rw [mapM_eq_some_iff, List.forall₂_same]
    intro value member
    obtain ⟨text, -, rfl⟩ := List.mem_map.mp member
    rfl
  rw [validate, made]
  rfl

theorem modeStep_looks (data other : JsonDict) (key : String) (value : Json)
    (same : JsonDict.get? data key = JsonDict.get? other key) : modeStep data key value = modeStep other key value := by
  have items : itemsAt data key = itemsAt other key := by
    unfold itemsAt
    rw [same]
  cases value <;> simp only [modeStep, items]

theorem lookup_modePolicy {key : String} {schema : Schema} {default : Json}
    (known : modePolicyFields.lookup key = some (schema, default)) : schema = .list .text := by
  unfold modePolicyFields at known
  rw [Assoc.lookup_cons, Assoc.lookup_cons, Assoc.lookup_cons] at known
  split at known
  · cases known
    rfl
  · split at known
    · cases known
      rfl
    · split at known
      · cases known
        rfl
      · cases known

variable {python : Coercions} {table held : JsonDict}

theorem texts_of_union {key : String} {subVal union : List Json} {value : Json}
    (sorted : sortedSet (itemsAt table key ++ subVal) = .ok union)
    (valid : validate python (.list .text) (.arr union) = some value) :
    value = .arr union ∧ ∃ olds more : List String, itemsAt table key = olds.map .str ∧ subVal = more.map .str ∧
      union = (olds ++ more).toFinset.sort.map .str := by
  obtain ⟨rfl, texts, same⟩ := validate_texts valid
  cases same
  obtain ⟨tools, both, rfl⟩ := texts_of_sortedSet sorted
  obtain ⟨olds, more, rfl, before, after⟩ := List.append_eq_map_iff.mp both
  exact ⟨rfl, olds, more, before.symm, after.symm, rfl⟩

theorem sortedSet_again (olds more : List String) :
    sortedSet ((olds ++ more).toFinset.sort.map .str ++ more.map .str) =
      .ok ((olds ++ more).toFinset.sort.map .str) := by
  have same : ((olds ++ more).toFinset.sort ++ more).toFinset = (olds ++ more).toFinset := by
    ext tool
    simp only [List.mem_toFinset, List.mem_append, Finset.mem_sort]
    tauto
  rw [← List.map_append, sortedSet_texts, same]

theorem itemsAt_of_get? {key : String} {items : List Json} (found : JsonDict.get? held key = some (.arr items)) :
    itemsAt held key = items := by
  unfold itemsAt
  rw [found]

theorem get?_unknown {fields : List (String × Schema × Json)} {given : JsonDict}
    (valid : validateFields python fields given = some held) {key : String} (unknown : fields.lookup key = none) :
    JsonDict.get? held key = none := by
  rw [get?_validateFields valid key, unknown]
  rfl

theorem modeStep_again (known : validateFields python modePolicyFields table = some table)
    (kept : validateFields python modePolicyFields held = some held) {key : String} {value : Json}
    {outcome : Option Json} (stepped : modeStep table key value = .ok outcome)
    (read : JsonDict.get? held key =
      (Schema.record modePolicyFields).heldAt python key (outcome.or (JsonDict.get? table key))) :
    ∃ next, modeStep held key value = .ok next ∧ (Schema.record modePolicyFields).heldAt python key
      (next.or (JsonDict.get? held key)) = JsonDict.get? held key := by
  cases value with
  | arr subVal =>
    obtain ⟨union, sorted, rfl⟩ := except_map_ok.mp stepped
    cases found : modePolicyFields.lookup key with
    | none =>
      have same : JsonDict.get? held key = JsonDict.get? table key := by
        rw [get?_unknown kept found, get?_unknown known found]
      exact ⟨some (.arr union), (modeStep_looks held table key _ same).trans stepped, read.symm⟩
    | some field =>
      obtain ⟨schema, default⟩ := field
      cases lookup_modePolicy found
      obtain ⟨tools, holds, -⟩ := held_of_lookup kept found
      have valid : validate python (.list .text) (.arr union) = some tools := by
        rw [← holds, read, Schema.heldAt, found]
        rfl
      obtain ⟨rfl, olds, more, -, rfl, rfl⟩ := texts_of_union sorted valid
      rw [Option.some_or] at read
      refine ⟨some (.arr ((olds ++ more).toFinset.sort.map .str)), ?_, ?_⟩
      · rw [modeStep, itemsAt_of_get? holds, sortedSet_again]
        rfl
      · rw [Option.some_or]
        exact read.symm
  | _ =>
    cases stepped
    exact ⟨_, rfl, read.symm⟩

theorem mem_itemsAt_merged (known : validateFields python modePolicyFields table = some table)
    {given data : JsonDict} (unique : (given.map Prod.fst).Nodup)
    (merged : JsonDict.mergeWith modeStep table given = .ok data)
    (valid : validateFields python modePolicyFields data = some held) {key : String} {tool : Json}
    (member : tool ∈ itemsAt table key) : tool ∈ itemsAt held key := by
  cases said : JsonDict.get? given key with
  | none =>
    have read := get?_held_of_mergeWith valid (JsonDict.get?_mergeWith_of_none said merged)
    have same : JsonDict.get? held key = JsonDict.get? table key := read.trans (get?_held_of_mergeWith known rfl).symm
    unfold itemsAt at member ⊢
    rw [same]
    exact member
  | some value =>
    obtain ⟨outcome, stepped, taken⟩ := JsonDict.get?_mergeWith_of_some modeStep_looks unique said merged
    have read := get?_held_of_mergeWith valid taken
    cases found : modePolicyFields.lookup key with
    | none =>
      unfold itemsAt at member
      rw [get?_unknown known found] at member
      cases member
    | some field =>
      obtain ⟨schema, default⟩ := field
      cases lookup_modePolicy found
      have kept := validateFields_held (by decide) (modePolicy_settled python) valid
      obtain ⟨tools, holds, -⟩ := held_of_lookup kept found
      rw [holds, Schema.heldAt, found] at read
      cases value with
      | arr subVal =>
        obtain ⟨union, sorted, rfl⟩ := except_map_ok.mp stepped
        obtain ⟨rfl, olds, more, before, -, rfl⟩ := texts_of_union sorted read.symm
        rw [before] at member
        obtain ⟨name, old, rfl⟩ := List.mem_map.mp member
        rw [itemsAt_of_get? holds]
        simp only [List.mem_map, Finset.mem_sort, List.mem_toFinset, List.mem_append]
        exact ⟨name, .inl old, rfl⟩
      | _ =>
        cases stepped
        cases read

end

end CysAgi.Catalog
