import Mathlib.Data.List.Forall2
import CysAgi.Base.Json

namespace Py

section

variable {α β : Type}

theorem mapM_eq_some_iff {f : α → Option β} {items : List α} {results : List β} :
    items.mapM f = some results ↔ List.Forall₂ (fun item result => f item = some result) items results := by
  induction items generalizing results with
  | nil =>
    rw [List.mapM_nil, List.forall₂_nil_left_iff]
    exact ⟨fun same => (Option.some.inj same).symm, fun same => by rw [same]; rfl⟩
  | cons item rest ih =>
    rw [List.mapM_cons, List.forall₂_cons_left_iff]
    constructor
    · intro made
      obtain ⟨result, first, others⟩ := Option.bind_eq_some_iff.mp made
      obtain ⟨results, rest_made, same⟩ := Option.bind_eq_some_iff.mp others
      cases same
      exact ⟨result, results, first, ih.mp rest_made, rfl⟩
    · rintro ⟨result, results, first, others, rfl⟩
      rw [first, ih.mpr others]
      rfl

theorem mapM_again {f : α → Option α} (again : ∀ item result, f item = some result → f result = some result)
    {items results : List α} (made : items.mapM f = some results) : results.mapM f = some results := by
  rw [mapM_eq_some_iff] at made ⊢
  induction made with
  | nil => exact .nil
  | cons first _ ih => exact .cons (again _ _ first) ih

theorem lookup_of_mem {entries : List (String × β)} (distinct : (entries.map Prod.fst).Nodup) {entry : String × β}
    (member : entry ∈ entries) : entries.lookup entry.1 = some entry.2 := by
  induction entries with
  | nil => cases member
  | cons head rest ih =>
    rw [List.map_cons, List.nodup_cons] at distinct
    rw [Assoc.lookup_cons head.1 entry.1 head.2 rest]
    rcases List.mem_cons.mp member with rfl | inside
    · exact if_pos rfl
    · have other : entry.1 ≠ head.1 := by
        intro same
        exact distinct.1 (List.mem_map.mpr ⟨entry, inside, same⟩)
      rw [if_neg other]
      exact ih distinct.2 inside

theorem mem_of_lookup {entries : List (String × β)} {key : String} {value : β}
    (found : entries.lookup key = some value) : (key, value) ∈ entries := by
  obtain ⟨before, after, rfl, -⟩ := List.lookup_eq_some_iff.mp found
  exact List.mem_append_right before List.mem_cons_self

end

structure Coercions where
  bool : Json → Option Bool
  int : Json → Option Int
  float : Json → Option Rat
  bool_self (value : Bool) : bool (.bool value) = some value
  int_self (value : Int) : int (.int value) = some value
  float_self (value : Rat) : float (.float value) = some value

inductive Schema where
  | bool
  | int
  | float
  | text
  | literal (values : List String)
  | list (item : Schema)
  | dict (item : Schema)
  | optional (item : Schema)
  | record (fields : List (String × Schema × Json))

section

variable (python : Coercions)

mutual

def validate : Schema → Json → Option Json
  | .bool, value => (python.bool value).map .bool
  | .int, value => (python.int value).map .int
  | .float, value => (python.float value).map .float
  | .text, .str text => some (.str text)
  | .literal values, .str text => if text ∈ values then some (.str text) else none
  | .list item, .arr items => (items.mapM (validate item)).map .arr
  | .dict item, .obj entries =>
    (entries.mapM fun entry => (validate item entry.2).map fun value => (entry.1, value)).map .obj
  | .optional item, value => if value = .null then some .null else validate item value
  | .record fields, .obj given => (validateFields fields given).map .obj
  | _, _ => none

def validateFields : List (String × Schema × Json) → JsonDict → Option JsonDict
  | [], _ => some []
  | (name, schema, default) :: rest, given =>
    match JsonDict.get? given name with
    | none => (validateFields rest given).map fun others => (name, default) :: others
    | some value =>
      (validate schema value).bind fun value => (validateFields rest given).map fun others => (name, value) :: others

end

def checked (schema : Schema) (default : Json) : Option Json → Option Json
  | none => some default
  | some value => validate python schema value

theorem validateFields_cons (name : String) (schema : Schema) (default : Json) (rest : List (String × Schema × Json))
    (given : JsonDict) :
    validateFields python ((name, schema, default) :: rest) given =
      (checked python schema default (JsonDict.get? given name)).bind fun value =>
        (validateFields python rest given).map fun others => (name, value) :: others := by
  rw [validateFields]
  cases JsonDict.get? given name <;> rfl

mutual

def Schema.Settled : Schema → Prop
  | .list item => item.Settled
  | .dict item => item.Settled
  | .optional item => item.Settled
  | .record fields => (fields.map Prod.fst).Nodup ∧ SettledFields fields
  | _ => True

def SettledFields : List (String × Schema × Json) → Prop
  | [] => True
  | (_, schema, default) :: rest => schema.Settled ∧ validate python schema default = some default ∧ SettledFields rest

end

theorem validateFields_congr {fields : List (String × Schema × Json)} {given other : JsonDict}
    (same : ∀ field ∈ fields, checked python field.2.1 field.2.2 (JsonDict.get? given field.1) =
      checked python field.2.1 field.2.2 (JsonDict.get? other field.1)) :
    validateFields python fields given = validateFields python fields other := by
  induction fields with
  | nil => rfl
  | cons field rest ih =>
    obtain ⟨name, schema, default⟩ := field
    rw [validateFields_cons, validateFields_cons, same _ List.mem_cons_self,
      ih fun field member => same field (List.mem_cons_of_mem _ member)]

variable {python}

theorem keys_validateFields {fields : List (String × Schema × Json)} {given held : JsonDict}
    (valid : validateFields python fields given = some held) : held.map Prod.fst = fields.map Prod.fst := by
  induction fields generalizing held with
  | nil =>
    cases valid
    rfl
  | cons field rest ih =>
    obtain ⟨name, schema, default⟩ := field
    rw [validateFields_cons] at valid
    obtain ⟨value, -, others⟩ := Option.bind_eq_some_iff.mp valid
    obtain ⟨more, rest_valid, rfl⟩ := Option.map_eq_some_iff.mp others
    rw [List.map_cons, List.map_cons, ih rest_valid]

theorem get?_validateFields {fields : List (String × Schema × Json)} {given held : JsonDict}
    (valid : validateFields python fields given = some held) (name : String) :
    JsonDict.get? held name = (fields.lookup name).bind fun field =>
      checked python field.1 field.2 (JsonDict.get? given name) := by
  induction fields generalizing held with
  | nil =>
    cases valid
    rfl
  | cons head rest ih =>
    obtain ⟨first, schema, default⟩ := head
    rw [validateFields_cons] at valid
    obtain ⟨value, taken, others⟩ := Option.bind_eq_some_iff.mp valid
    obtain ⟨more, rest_valid, rfl⟩ := Option.map_eq_some_iff.mp others
    unfold JsonDict.get? at ih taken ⊢
    rw [Assoc.lookup_cons, Assoc.lookup_cons]
    by_cases here : name = first
    · rw [if_pos here, if_pos here, here]
      exact taken.symm
    · rw [if_neg here, if_neg here, ih rest_valid]

theorem validate_record_iff {fields : List (String × Schema × Json)} {given held : JsonDict} :
    validate python (.record fields) (.obj given) = some (.obj held) ↔
      validateFields python fields given = some held := by
  rw [validate, Option.map_eq_some_iff]
  constructor
  · rintro ⟨_, made, same⟩
    cases same
    exact made
  · intro made
    exact ⟨held, made, rfl⟩

theorem validateFields_isSome_iff {fields : List (String × Schema × Json)} {given : JsonDict} :
    (validateFields python fields given).isSome ↔
      ∀ field ∈ fields, (checked python field.2.1 field.2.2 (JsonDict.get? given field.1)).isSome := by
  induction fields with
  | nil => exact ⟨fun _ _ member => (List.not_mem_nil member).elim, fun _ => rfl⟩
  | cons field rest ih =>
    obtain ⟨name, schema, default⟩ := field
    rw [validateFields_cons, List.forall_mem_cons, ← ih]
    cases checked python schema default (JsonDict.get? given name) <;> simp

mutual

theorem validate_held : ∀ {schema : Schema}, schema.Settled python → ∀ {value held : Json},
    validate python schema value = some held → validate python schema held = some held
  | .bool, _, value, held, valid => by
    obtain ⟨b, -, rfl⟩ := Option.map_eq_some_iff.mp valid
    simp only [validate, python.bool_self, Option.map_some]
  | .int, _, value, held, valid => by
    obtain ⟨n, -, rfl⟩ := Option.map_eq_some_iff.mp valid
    simp only [validate, python.int_self, Option.map_some]
  | .float, _, value, held, valid => by
    obtain ⟨q, -, rfl⟩ := Option.map_eq_some_iff.mp valid
    simp only [validate, python.float_self, Option.map_some]
  | .text, _, value, held, valid => by
    cases value <;> cases valid
    rfl
  | .literal values, _, value, held, valid => by
    cases value with
    | str text =>
      simp only [validate] at valid
      split at valid
      · cases valid
        rename_i known
        exact if_pos known
      · cases valid
    | _ => cases valid
  | .list item, settled, value, held, valid => by
    cases value with
    | arr items =>
      obtain ⟨results, made, rfl⟩ := Option.map_eq_some_iff.mp valid
      have settled : item.Settled python := settled
      have again := mapM_again (fun _ _ taken => validate_held settled taken) made
      simp only [validate, again, Option.map_some]
    | _ => cases valid
  | .dict item, settled, value, held, valid => by
    cases value with
    | obj entries =>
      obtain ⟨results, made, rfl⟩ := Option.map_eq_some_iff.mp valid
      have settled : item.Settled python := settled
      have again := mapM_again (fun entry result taken => by
        obtain ⟨value, inside, rfl⟩ := Option.map_eq_some_iff.mp taken
        simp only [validate_held settled inside, Option.map_some]) made
      simp only [validate, again, Option.map_some]
    | _ => cases valid
  | .optional item, settled, value, held, valid => by
    simp only [validate] at valid ⊢
    by_cases none : held = .null
    · rw [if_pos none, none]
    · rw [if_neg none]
      by_cases given : value = .null
      · rw [if_pos given] at valid
        exact absurd (Option.some.inj valid).symm none
      · rw [if_neg given] at valid
        have settled : item.Settled python := settled
        exact validate_held settled valid
  | .record fields, settled, value, held, valid => by
    cases value with
    | obj given =>
      obtain ⟨results, made, rfl⟩ := Option.map_eq_some_iff.mp valid
      simp only [validate, validateFields_held settled.1 settled.2 made, Option.map_some]
    | _ => cases valid

theorem validateFields_held : ∀ {fields : List (String × Schema × Json)}, (fields.map Prod.fst).Nodup →
    SettledFields python fields → ∀ {given held : JsonDict}, validateFields python fields given = some held →
    validateFields python fields held = some held
  | [], _, _, given, held, valid => by
    cases valid
    rfl
  | (name, schema, default) :: rest, distinct, settled, given, held, valid => by
    rw [List.map_cons, List.nodup_cons] at distinct
    rw [validateFields_cons] at valid
    obtain ⟨value, first, others⟩ := Option.bind_eq_some_iff.mp valid
    obtain ⟨more, rest_valid, rfl⟩ := Option.map_eq_some_iff.mp others
    have kept : validate python schema value = some value := by
      cases said : JsonDict.get? given name with
      | none =>
        rw [said] at first
        cases first
        exact settled.2.1
      | some original =>
        rw [said] at first
        exact validate_held settled.1 first
    have rest_kept : validateFields python rest ((name, value) :: more) = some more := by
      rw [← validateFields_held distinct.2 settled.2.2 rest_valid]
      apply validateFields_congr
      intro field member
      have other : field.1 ≠ name := by
        intro same
        exact distinct.1 (List.mem_map.mpr ⟨field, member, same⟩)
      exact congrArg _ ((Assoc.lookup_cons name field.1 value more).trans (if_neg other))
    have found : JsonDict.get? ((name, value) :: more) name = some value := List.lookup_cons_self
    rw [validateFields_cons, found, checked, kept, rest_kept]
    rfl

end

theorem get?_entries {item : Schema} {entries results : JsonDict}
    (made : (entries.mapM fun entry => (validate python item entry.2).map fun value => (entry.1, value)) = some results)
    (key : String) : JsonDict.get? results key = (JsonDict.get? entries key).bind (validate python item) := by
  rw [mapM_eq_some_iff] at made
  induction made with
  | nil => rfl
  | @cons entry result entries results first _ ih =>
    obtain ⟨name, original⟩ := entry
    obtain ⟨value, taken, rfl⟩ := Option.map_eq_some_iff.mp first
    unfold JsonDict.get? at ih ⊢
    rw [Assoc.lookup_cons, Assoc.lookup_cons]
    by_cases here : key = name
    · rw [if_pos here, if_pos here]
      exact taken.symm
    · rw [if_neg here, if_neg here, ih]

end

namespace JsonDict

theorem get?_set (d : JsonDict) (key other : String) (value : Json) :
    get? (set d key value) other = if other = key then some value else get? d other :=
  Assoc.lookup_set d key other value

theorem get?_cons (name key : String) (value : Json) (rest : JsonDict) :
    get? ((name, value) :: rest) key = if key = name then some value else get? rest key :=
  Assoc.lookup_cons name key value rest

theorem get?_eq_none_iff {d : JsonDict} {key : String} : get? d key = none ↔ key ∉ d.map Prod.fst := by
  induction d with
  | nil => simp [get?]
  | cons field rest ih =>
    rw [get?_cons field.1 key field.2 rest, List.map_cons, List.mem_cons, not_or, ← ih]
    by_cases here : key = field.1
    · simp [here]
    · simp [here]

theorem get?_cons_eq_none {field : String × Json} {rest : JsonDict} {key : String}
    (absent : get? (field :: rest) key = none) : key ≠ field.1 ∧ get? rest key = none := by
  rw [get?_cons field.1 key field.2 rest] at absent
  by_cases here : key = field.1
  · rw [if_pos here] at absent
    cases absent
  · rw [if_neg here] at absent
    exact ⟨here, absent⟩

theorem get?_update_of_none {d other : JsonDict} {key : String} (absent : get? other key = none) :
    get? (update d other) key = get? d key := by
  induction other generalizing d with
  | nil => rfl
  | cons field rest ih =>
    obtain ⟨other, absent⟩ := get?_cons_eq_none absent
    have later : get? (update (set d field.1 field.2) rest) key = _ := ih absent
    rw [get?_set, if_neg other] at later
    exact later

theorem get?_update_of_some {d other : JsonDict} (distinct : (other.map Prod.fst).Nodup) {key : String} {value : Json}
    (given : get? other key = some value) : get? (update d other) key = some value := by
  induction other generalizing d with
  | nil => cases given
  | cons field rest ih =>
    rw [List.map_cons, List.nodup_cons] at distinct
    rw [get?_cons field.1 key field.2 rest] at given
    by_cases here : key = field.1
    · rw [if_pos here] at given
      have later : get? rest key = none := by
        rw [get?_eq_none_iff, here]
        exact distinct.1
      have first : get? (update (set d field.1 field.2) rest) key = _ := get?_update_of_none later
      rw [get?_set, if_pos here, given] at first
      exact first
    · rw [if_neg here] at given
      exact ih distinct.2 given

theorem update_of_apart {d other : JsonDict} (distinct : (d.map Prod.fst ++ other.map Prod.fst).Nodup) :
    update d other = d ++ other := by
  induction other generalizing d with
  | nil => exact (List.append_nil d).symm
  | cons field rest ih =>
    have absent : field.1 ∉ d.map Prod.fst := fun member =>
      (List.nodup_append.mp distinct).2.2 field.1 member field.1 List.mem_cons_self rfl
    have grown : set d field.1 field.2 = d ++ [field] := Assoc.set_absent absent field.2
    have more : update (set d field.1 field.2) rest = set d field.1 field.2 ++ rest := by
      apply ih
      rw [grown, List.map_append, List.append_assoc]
      exact distinct
    have first : update d (field :: rest) = update (set d field.1 field.2) rest := rfl
    rw [first, more, grown, List.append_assoc]
    rfl

theorem get?_filter {d : JsonDict} (distinct : (d.map Prod.fst).Nodup) (kept : Json → Bool) (key : String) :
    get? (d.filter fun field => kept field.2) key = (get? d key).filter kept := by
  induction d with
  | nil => rfl
  | cons field rest ih =>
    rw [List.map_cons, List.nodup_cons] at distinct
    rw [get?_cons field.1 key field.2 rest, List.filter_cons]
    by_cases here : key = field.1
    · have later : get? rest key = none := by
        rw [get?_eq_none_iff, here]
        exact distinct.1
      rw [if_pos here, Option.filter_some]
      split
      · rw [get?_cons field.1 key field.2 _, if_pos here]
      · rw [ih distinct.2, later]
        rfl
    · rw [if_neg here, ← ih distinct.2]
      split
      · rw [get?_cons field.1 key field.2 _, if_neg here]
      · rfl

end JsonDict

section

variable {f : String × Json → Option (String × Json)}

def TakenOr (f : String × Json → Option (String × Json)) (entry result : String × Json) : Prop :=
  result = entry ∨ f entry = some result

theorem takenOr_set (named : ∀ entry result, f entry = some result → result.1 = entry.1) {entries held : JsonDict}
    (related : List.Forall₂ (TakenOr f) entries held) {key : String} {value : Json}
    (found : JsonDict.get? entries key = some value) :
    List.Forall₂ (TakenOr f) entries (held.set key value) := by
  unfold JsonDict.set
  induction related with
  | nil => cases found
  | @cons entry result entries held first rest ih =>
    have name : result.1 = entry.1 := by
      rcases first with rfl | taken
      · rfl
      · exact named _ _ taken
    rw [JsonDict.get?_cons entry.1 key entry.2 entries] at found
    rw [Assoc.set]
    by_cases here : result.1 = key
    · rw [if_pos (here.symm.trans name)] at found
      rw [if_pos here]
      have same : (result.1, value) = entry := Prod.ext name (Option.some.inj found).symm
      exact .cons (.inl same) rest
    · rw [if_neg fun same => here (name.trans same.symm)] at found
      rw [if_neg here]
      exact .cons first (ih found)

theorem takenOr_update (named : ∀ entry result, f entry = some result → result.1 = entry.1) {entries held : JsonDict}
    (related : List.Forall₂ (TakenOr f) entries held) {given : JsonDict}
    (found : ∀ field ∈ given, JsonDict.get? entries field.1 = some field.2) :
    List.Forall₂ (TakenOr f) entries (held.update given) := by
  unfold JsonDict.update
  induction given generalizing held with
  | nil => exact related
  | cons field rest ih =>
    have stored := takenOr_set named related (found field List.mem_cons_self)
    exact ih stored fun other member => found other (List.mem_cons_of_mem field member)

theorem taken_of_takenOr (again : ∀ entry result, f entry = some result → f result = some result)
    {entries middle held : JsonDict} (related : List.Forall₂ (TakenOr f) entries middle)
    (taken : List.Forall₂ (fun entry result => f entry = some result) entries held) :
    List.Forall₂ (fun entry result => f entry = some result) middle held := by
  induction related generalizing held with
  | nil => exact taken
  | cons first _ ih =>
    cases taken with
    | cons here rest =>
      refine .cons ?_ (ih rest)
      rcases first with rfl | early
      · exact here
      · cases early.symm.trans here
        exact again _ _ here

theorem mapM_update_again (named : ∀ entry result, f entry = some result → result.1 = entry.1)
    (again : ∀ entry result, f entry = some result → f result = some result) {table given held : JsonDict}
    (distinct : (given.map Prod.fst).Nodup) (made : (table.update given).mapM f = some held) :
    (held.update given).mapM f = some held := by
  rw [mapM_eq_some_iff] at made
  have related : List.Forall₂ (TakenOr f) (table.update given) held := made.imp fun _ _ taken => .inr taken
  have found : ∀ field ∈ given, JsonDict.get? (table.update given) field.1 = some field.2 := fun field member =>
    JsonDict.get?_update_of_some distinct (lookup_of_mem distinct member)
  rw [mapM_eq_some_iff]
  exact taken_of_takenOr again (takenOr_update named related found) made

end

def Json.fieldOf (value : Json) (key : String) : Option Json :=
  match value with
  | .obj fields => JsonDict.get? fields key
  | _ => none

section

variable (python : Coercions)

def Schema.heldAt : Schema → String → Option Json → Option Json
  | .dict item, _, said => said.bind (validate python item)
  | .optional item, key, said => item.heldAt key said
  | .record fields, key, said => (fields.lookup key).bind fun field => checked python field.1 field.2 said
  | _, _, _ => none

variable {python}

theorem fieldOf_validate : ∀ {schema : Schema} {given : JsonDict} {held : Json},
    validate python schema (.obj given) = some held → ∀ key,
      held.fieldOf key = schema.heldAt python key (JsonDict.get? given key)
  | .dict item, given, held, valid, key => by
    obtain ⟨results, made, rfl⟩ := Option.map_eq_some_iff.mp valid
    exact get?_entries made key
  | .record fields, given, held, valid, key => by
    obtain ⟨results, made, rfl⟩ := Option.map_eq_some_iff.mp valid
    exact get?_validateFields made key
  | .optional item, given, held, valid, key => by
    rw [validate, if_neg nofun] at valid
    have inside := fieldOf_validate valid key
    exact inside
  | .bool, given, held, valid, key => by
    obtain ⟨value, -, rfl⟩ := Option.map_eq_some_iff.mp valid
    rfl
  | .int, given, held, valid, key => by
    obtain ⟨value, -, rfl⟩ := Option.map_eq_some_iff.mp valid
    rfl
  | .float, given, held, valid, key => by
    obtain ⟨value, -, rfl⟩ := Option.map_eq_some_iff.mp valid
    rfl
  | .text, given, held, valid, key => nomatch valid
  | .literal values, given, held, valid, key => nomatch valid
  | .list item, given, held, valid, key => nomatch valid

theorem settled_of_mem {fields : List (String × Schema × Json)} (settled : SettledFields python fields)
    {field : String × Schema × Json} (member : field ∈ fields) :
    field.2.1.Settled python ∧ validate python field.2.1 field.2.2 = some field.2.2 := by
  induction fields with
  | nil => cases member
  | cons head rest ih =>
    rcases List.mem_cons.mp member with rfl | inside
    · exact ⟨settled.1, settled.2.1⟩
    · exact ih settled.2.2 inside

theorem checked_held {schema : Schema} {default value : Json} {said : Option Json} (settled : schema.Settled python)
    (kept : validate python schema default = some default) (taken : checked python schema default said = some value) :
    validate python schema value = some value := by
  cases said with
  | none =>
    cases taken
    exact kept
  | some original => exact validate_held settled taken

theorem checked_of_valid {fields : List (String × Schema × Json)} (distinct : (fields.map Prod.fst).Nodup)
    {given held : JsonDict} (valid : validateFields python fields given = some held)
    {field : String × Schema × Json} (member : field ∈ fields) :
    ∃ value, checked python field.2.1 field.2.2 (JsonDict.get? given field.1) = some value ∧
      JsonDict.get? held field.1 = some value := by
  have read := get?_validateFields valid field.1
  rw [lookup_of_mem distinct member] at read
  cases found : JsonDict.get? held field.1 with
  | none =>
    rw [JsonDict.get?_eq_none_iff, keys_validateFields valid] at found
    exact absurd (List.mem_map_of_mem member) found
  | some value => exact ⟨value, (read.symm.trans found), rfl⟩

theorem validateFields_eq_iff {fields : List (String × Schema × Json)} (distinct : (fields.map Prod.fst).Nodup)
    {given other held : JsonDict} (valid : validateFields python fields given = some held) :
    validateFields python fields other = some held ↔
      ∀ field ∈ fields, checked python field.2.1 field.2.2 (JsonDict.get? other field.1) =
        checked python field.2.1 field.2.2 (JsonDict.get? given field.1) := by
  constructor
  · intro same field member
    have read := get?_validateFields valid field.1
    rw [get?_validateFields same field.1, lookup_of_mem distinct member] at read
    exact read
  · intro same
    exact (validateFields_congr python same).trans valid

theorem validateFields_update_again {fields : List (String × Schema × Json)} (distinct : (fields.map Prod.fst).Nodup)
    (settled : SettledFields python fields) {table given held : JsonDict} (unique : (given.map Prod.fst).Nodup)
    (valid : validateFields python fields (table.update given) = some held) :
    validateFields python fields (held.update given) = some held := by
  rw [← valid]
  apply validateFields_congr
  intro field member
  cases said : JsonDict.get? given field.1 with
  | some value => rw [JsonDict.get?_update_of_some unique said, JsonDict.get?_update_of_some unique said]
  | none =>
    obtain ⟨value, taken, found⟩ := checked_of_valid distinct valid member
    have own := settled_of_mem settled member
    rw [JsonDict.get?_update_of_none said, found, taken]
    exact checked_held own.1 own.2 taken

theorem validate_update_again : ∀ {schema : Schema}, schema.Settled python → ∀ {table given held : JsonDict},
    (given.map Prod.fst).Nodup → validate python schema (.obj (table.update given)) = some (.obj held) →
    validate python schema (.obj (held.update given)) = some (.obj held)
  | .dict item, settled, table, given, held, unique, valid => by
    have settled : item.Settled python := settled
    obtain ⟨results, made, same⟩ := Option.map_eq_some_iff.mp valid
    cases same
    have again := mapM_update_again (fun entry result taken => by
      obtain ⟨value, -, rfl⟩ := Option.map_eq_some_iff.mp taken
      rfl) (fun entry result taken => by
      obtain ⟨value, inside, rfl⟩ := Option.map_eq_some_iff.mp taken
      simp only [validate_held settled inside, Option.map_some]) unique made
    rw [validate, again]
    rfl
  | .record fields, settled, table, given, held, unique, valid => by
    have made := validate_record_iff.mp valid
    exact validate_record_iff.mpr (validateFields_update_again settled.1 settled.2 unique made)
  | .optional item, settled, table, given, held, unique, valid => by
    have settled : item.Settled python := settled
    rw [validate, if_neg nofun] at valid ⊢
    exact validate_update_again settled unique valid
  | .bool, _, _, _, _, _, valid => by
    obtain ⟨value, -, other⟩ := Option.map_eq_some_iff.mp valid
    cases other
  | .int, _, _, _, _, _, valid => by
    obtain ⟨value, -, other⟩ := Option.map_eq_some_iff.mp valid
    cases other
  | .float, _, _, _, _, _, valid => by
    obtain ⟨value, -, other⟩ := Option.map_eq_some_iff.mp valid
    cases other
  | .text, _, _, _, _, _, valid => nomatch valid
  | .literal _, _, _, _, _, _, valid => nomatch valid
  | .list _, _, _, _, _, _, valid => nomatch valid

end

def JsonDict.mergeWith {ε : Type} (step : JsonDict → String → Json → Except ε (Option Json)) :
    JsonDict → JsonDict → Except ε JsonDict
  | data, [] => .ok data
  | data, (key, value) :: rest =>
    match step data key value with
    | .error raised => .error raised
    | .ok none => mergeWith step data rest
    | .ok (some merged) => mergeWith step (data.set key merged) rest

namespace JsonDict

variable {ε : Type} {step : JsonDict → String → Json → Except ε (Option Json)}

theorem mergeWith_cons {data rest result : JsonDict} {key : String} {value : Json}
    (merged : mergeWith step data ((key, value) :: rest) = .ok result) :
    ∃ outcome, step data key value = .ok outcome ∧
      mergeWith step (outcome.elim data (data.set key)) rest = .ok result := by
  rw [mergeWith] at merged
  cases stepped : step data key value with
  | error raised =>
    rw [stepped] at merged
    cases merged
  | ok outcome =>
    rw [stepped] at merged
    refine ⟨outcome, rfl, ?_⟩
    cases outcome <;> exact merged

theorem get?_elim_set (data : JsonDict) (outcome : Option Json) (key other : String) :
    get? (outcome.elim data (data.set key)) other =
      if other = key then outcome.or (get? data key) else get? data other := by
  cases outcome with
  | none =>
    by_cases here : other = key
    · rw [if_pos here, here]
      rfl
    · rw [if_neg here]
      rfl
  | some merged => exact get?_set data key other merged

variable (looks : ∀ data other key value, get? data key = get? other key → step data key value = step other key value)

theorem get?_mergeWith_of_none {data given result : JsonDict} {key : String} (absent : get? given key = none)
    (merged : mergeWith step data given = .ok result) : get? result key = get? data key := by
  induction given generalizing data with
  | nil =>
    cases merged
    rfl
  | cons field rest ih =>
    obtain ⟨other, absent⟩ := get?_cons_eq_none absent
    obtain ⟨outcome, -, others⟩ := mergeWith_cons merged
    rw [ih absent others, get?_elim_set, if_neg other]

include looks in
theorem get?_mergeWith_of_some {data given result : JsonDict} (distinct : (given.map Prod.fst).Nodup) {key : String}
    {value : Json} (said : get? given key = some value) (merged : mergeWith step data given = .ok result) :
    ∃ outcome, step data key value = .ok outcome ∧ get? result key = outcome.or (get? data key) := by
  induction given generalizing data with
  | nil => cases said
  | cons field rest ih =>
    rw [List.map_cons, List.nodup_cons] at distinct
    rw [get?_cons field.1 key field.2 rest] at said
    obtain ⟨outcome, stepped, others⟩ := mergeWith_cons merged
    by_cases here : key = field.1
    · rw [if_pos here] at said
      cases said
      have later : get? rest key = none := by
        rw [get?_eq_none_iff, here]
        exact distinct.1
      refine ⟨outcome, by rw [here]; exact stepped, ?_⟩
      rw [get?_mergeWith_of_none later others, get?_elim_set, if_pos here, here]
    · rw [if_neg here] at said
      obtain ⟨next, taken, read⟩ := ih distinct.2 said others
      have kept : get? (outcome.elim data (data.set field.1)) key = get? data key := by
        rw [get?_elim_set, if_neg here]
      exact ⟨next, (looks _ _ key value kept).symm.trans taken, by rw [read, kept]⟩

include looks in
theorem mergeWith_ok_iff {data given : JsonDict} (distinct : (given.map Prod.fst).Nodup) :
    (∃ result, mergeWith step data given = .ok result) ↔
      ∀ field ∈ given, ∃ outcome, step data field.1 field.2 = .ok outcome := by
  induction given generalizing data with
  | nil => exact ⟨fun _ field member => (List.not_mem_nil member).elim, fun _ => ⟨data, rfl⟩⟩
  | cons field rest ih =>
    rw [List.map_cons, List.nodup_cons] at distinct
    have others : ∀ outcome : Option Json, ∀ other ∈ rest,
        step (outcome.elim data (data.set field.1)) other.1 other.2 = step data other.1 other.2 := by
      intro outcome other member
      apply looks
      rw [get?_elim_set, if_neg]
      intro same
      exact distinct.1 (List.mem_map.mpr ⟨other, member, same⟩)
    constructor
    · rintro ⟨result, merged⟩
      obtain ⟨outcome, stepped, more⟩ := mergeWith_cons merged
      have through := (ih distinct.2).mp ⟨result, more⟩
      intro other member
      rcases List.mem_cons.mp member with rfl | inside
      · exact ⟨outcome, stepped⟩
      · rw [← others outcome other inside]
        exact through other inside
    · intro through
      obtain ⟨outcome, stepped⟩ := through field List.mem_cons_self
      have more : ∀ other ∈ rest, ∃ next,
          step (outcome.elim data (data.set field.1)) other.1 other.2 = .ok next := by
        intro other member
        rw [others outcome other member]
        exact through other (List.mem_cons_of_mem field member)
      obtain ⟨result, merged⟩ := (ih distinct.2).mpr more
      refine ⟨result, ?_⟩
      rw [mergeWith, stepped]
      cases outcome <;> exact merged

end JsonDict

section

def Schema.nested : Schema → Bool
  | .dict _ => true
  | .record _ => true
  | _ => false

def Schema.leaf : Schema → Bool
  | .dict _ => false
  | .optional _ => false
  | .record _ => false
  | _ => true

variable {python : Coercions}

theorem obj_of_nested {schema : Schema} (nested : schema.nested = true) {value held : Json}
    (valid : validate python schema value = some held) : ∃ given results, value = .obj given ∧ held = .obj results := by
  cases schema with
  | dict item =>
    cases value with
    | obj given =>
      obtain ⟨results, -, rfl⟩ := Option.map_eq_some_iff.mp valid
      exact ⟨given, results, rfl, rfl⟩
    | _ => cases valid
  | record fields =>
    cases value with
    | obj given =>
      obtain ⟨results, -, rfl⟩ := Option.map_eq_some_iff.mp valid
      exact ⟨given, results, rfl, rfl⟩
    | _ => cases valid
  | _ => cases nested

theorem heldAt_of_leaf {schema : Schema} (leaf : schema.leaf = true) (key : String) (said : Option Json) :
    schema.heldAt python key said = none := by
  cases schema with
  | dict _ => cases leaf
  | optional _ => cases leaf
  | record _ => cases leaf
  | _ => rfl

theorem held_of_lookup {fields : List (String × Schema × Json)} {held : JsonDict}
    (valid : validateFields python fields held = some held) {key : String} {schema : Schema} {default : Json}
    (known : fields.lookup key = some (schema, default)) :
    ∃ value, JsonDict.get? held key = some value ∧ validate python schema value = some value := by
  have read := get?_validateFields valid key
  rw [known, Option.bind_some] at read
  cases found : JsonDict.get? held key with
  | none =>
    rw [found] at read
    cases read
  | some value =>
    rw [found] at read
    exact ⟨value, rfl, read.symm⟩

variable {ε : Type} {step : JsonDict → String → Json → Except ε (Option Json)}
  (looks : ∀ data other key value, JsonDict.get? data key = JsonDict.get? other key →
    step data key value = step other key value)
  {fields : List (String × Schema × Json)} {table given data held : JsonDict}

theorem get?_held_of_mergeWith {key : String} (valid : validateFields python fields data = some held)
    {said : Option Json} (read : JsonDict.get? data key = said) :
    JsonDict.get? held key = (Schema.record fields).heldAt python key said := by
  rw [← read]
  exact get?_validateFields valid key

include looks in
/-- Where each step of a merge changes nothing the second time, neither does the merge. -/
theorem mergeWith_validate_again (distinct : (fields.map Prod.fst).Nodup) (settled : SettledFields python fields)
    (unique : (given.map Prod.fst).Nodup) (merged : JsonDict.mergeWith step table given = .ok data)
    (valid : validateFields python fields data = some held)
    (again : ∀ key value outcome, step table key value = .ok outcome → JsonDict.get? given key = some value →
      JsonDict.get? held key =
        (Schema.record fields).heldAt python key (outcome.or (JsonDict.get? table key)) →
      ∃ next, step held key value = .ok next ∧ (Schema.record fields).heldAt python key
        (next.or (JsonDict.get? held key)) = JsonDict.get? held key) :
    ∃ later, JsonDict.mergeWith step held given = .ok later ∧ validateFields python fields later = some held := by
  have kept := validateFields_held distinct settled valid
  have every : ∀ key value, JsonDict.get? given key = some value → ∃ next, step held key value = .ok next ∧
      (Schema.record fields).heldAt python key (next.or (JsonDict.get? held key)) = JsonDict.get? held key := by
    intro key value said
    obtain ⟨outcome, stepped, read⟩ := JsonDict.get?_mergeWith_of_some looks unique said merged
    exact again key value outcome stepped said (get?_held_of_mergeWith valid read)
  obtain ⟨later, remerged⟩ := (JsonDict.mergeWith_ok_iff looks unique).mpr fun field member => by
    obtain ⟨next, stepped, -⟩ := every field.1 field.2 (lookup_of_mem unique member)
    exact ⟨next, stepped⟩
  refine ⟨later, remerged, ?_⟩
  rw [← kept]
  apply validateFields_congr
  intro field member
  have known := lookup_of_mem distinct member
  have same : (Schema.record fields).heldAt python field.1 (JsonDict.get? later field.1) =
      (Schema.record fields).heldAt python field.1 (JsonDict.get? held field.1) := by
    rw [← get?_held_of_mergeWith kept rfl]
    cases said : JsonDict.get? given field.1 with
    | none =>
      rw [JsonDict.get?_mergeWith_of_none said remerged]
      exact (get?_held_of_mergeWith kept rfl).symm
    | some value =>
      obtain ⟨next, stepped, settles⟩ := every field.1 value said
      obtain ⟨outcome, taken, read⟩ := JsonDict.get?_mergeWith_of_some looks unique said remerged
      cases stepped.symm.trans taken
      rw [read, settles]
  simp only [Schema.heldAt, known, Option.bind_some] at same
  exact same

end

end Py
