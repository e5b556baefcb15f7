import Mathlib.Data.List.TakeWhile
import CysAgi.Base.JsonRoundTrip
import CysAgi.Base.Schema

namespace Py

theorem Json.keyedFields_iff (fields : JsonDict) : Json.KeyedFields fields ↔ ∀ field ∈ fields, field.2.Keyed := by
  induction fields with
  | nil => exact iff_of_true trivial (List.forall_mem_nil _)
  | cons field fields ih => rw [Json.KeyedFields, ih, List.forall_mem_cons]

theorem Json.keyedItems_iff (items : List Json) : Json.KeyedItems items ↔ ∀ item ∈ items, item.Keyed := by
  induction items with
  | nil => exact iff_of_true trivial (List.forall_mem_nil _)
  | cons item items ih => rw [Json.KeyedItems, ih, List.forall_mem_cons]

theorem Json.keyed_set {dict : JsonDict} (keyed : (Json.obj dict).Keyed) (key : String) {value : Json}
    (valued : value.Keyed) : (Json.obj (JsonDict.set dict key value)).Keyed := by
  refine ⟨Assoc.set_nodup keyed.1 key value, (Json.keyedFields_iff _).mpr fun field member => ?_⟩
  rcases Assoc.mem_set member with rfl | old
  · exact valued
  · exact (Json.keyedFields_iff _).mp keyed.2 field old

theorem Json.keyed_get? {dict : JsonDict} (keyed : (Json.obj dict).Keyed) {key : String} {value : Json}
    (found : JsonDict.get? dict key = some value) : value.Keyed :=
  (Json.keyedFields_iff _).mp keyed.2 _ (mem_of_lookup found)

theorem keyed_dictOf {fields : JsonDict} (keyed : Json.KeyedFields fields) : (Json.obj (dictOf fields)).Keyed := by
  have each : ∀ (rest first : JsonDict), Json.KeyedFields rest → (Json.obj first).Keyed →
      (Json.obj (rest.foldl (fun dict field => JsonDict.set dict field.1 field.2) first)).Keyed := by
    intro rest
    induction rest with
    | nil => exact fun _ _ kept => kept
    | cons field rest ih =>
      intro first valued kept
      exact ih _ valued.2 (Json.keyed_set kept field.1 valued.1)
  exact each fields [] keyed ⟨List.nodup_nil, trivial⟩

variable {floats : FloatCodec}

theorem keyed_readNumber {text rest : List Char} {value : Json}
    (read : readNumber floats text = some (some value, rest)) : value.Keyed := by
  simp only [readNumber] at read
  split at read
  · cases read
    trivial
  · split at read
    · next number _ =>
      cases number with
      | none => cases read
      | some _ =>
        cases read
        trivial
    · obtain ⟨name, -, same⟩ := Option.map_eq_some_iff.mp read
      cases same

mutual

theorem keyed_readValue : (fuel : Nat) → ∀ {text rest : List Char} {value : Json},
    readValue floats fuel text = some (some value, rest) → value.Keyed
  | 0, _, _, _, read => by cases read
  | fuel + 1, text, rest, value, read => by
    unfold readValue at read
    split at read
    · next zero => cases zero
    · obtain ⟨⟨literal, left⟩, -, same⟩ := Option.map_eq_some_iff.mp read
      obtain ⟨held, rfl⟩ := Prod.mk.inj same
      obtain ⟨cs, -, rfl⟩ := Option.map_eq_some_iff.mp held
      trivial
    · next same =>
      cases same
      split at read
      · cases read
        trivial
      · obtain ⟨⟨items, left⟩, items_read, same⟩ := Option.map_eq_some_iff.mp read
        obtain ⟨held, rfl⟩ := Prod.mk.inj same
        obtain ⟨items, rfl, rfl⟩ := Option.map_eq_some_iff.mp held
        exact keyed_readItems fuel items_read
    · next same =>
      cases same
      split at read
      · cases read
        exact ⟨List.nodup_nil, trivial⟩
      · obtain ⟨⟨fields, left⟩, fields_read, same⟩ := Option.map_eq_some_iff.mp read
        obtain ⟨held, rfl⟩ := Prod.mk.inj same
        obtain ⟨fields, rfl, rfl⟩ := Option.map_eq_some_iff.mp held
        exact keyed_dictOf (keyed_readFields fuel fields_read)
    · cases read
      trivial
    · cases read
      trivial
    · cases read
      trivial
    · exact keyed_readNumber read

theorem keyed_readItems : (fuel : Nat) → ∀ {text rest : List Char} {items : List Json},
    readItems floats fuel text = some (some items, rest) → Json.KeyedItems items
  | 0, _, _, _, read => by cases read
  | fuel + 1, text, rest, items, read => by
    unfold readItems at read
    obtain ⟨⟨item, left⟩, item_read, read⟩ := Option.bind_eq_some_iff.mp read
    dsimp only at read
    split at read
    · obtain ⟨held, rfl⟩ := Prod.mk.inj (Option.some.inj read)
      obtain ⟨item, rfl, rfl⟩ := Option.map_eq_some_iff.mp held
      exact ⟨keyed_readValue fuel item_read, trivial⟩
    · obtain ⟨⟨others, left⟩, others_read, same⟩ := Option.map_eq_some_iff.mp read
      obtain ⟨held, rfl⟩ := Prod.mk.inj same
      obtain ⟨item, others, rfl, rfl, rfl⟩ := Option.map₂_eq_some_iff.mp held
      exact ⟨keyed_readValue fuel item_read, keyed_readItems fuel others_read⟩
    · cases read

theorem keyed_readFields : (fuel : Nat) → ∀ {text rest : List Char} {fields : JsonDict},
    readFields floats fuel text = some (some fields, rest) → Json.KeyedFields fields
  | 0, _, _, _, read => by cases read
  | fuel + 1, text, rest, fields, read => by
    unfold readFields at read
    split at read
    · next zero => cases zero
    · next same =>
      cases same
      obtain ⟨⟨key, left⟩, -, read⟩ := Option.bind_eq_some_iff.mp read
      dsimp only at read
      split at read
      · obtain ⟨⟨value, left⟩, value_read, read⟩ := Option.bind_eq_some_iff.mp read
        dsimp only at read
        split at read
        · obtain ⟨held, rfl⟩ := Prod.mk.inj (Option.some.inj read)
          obtain ⟨field, made, rfl⟩ := Option.map_eq_some_iff.mp held
          obtain ⟨key, value, rfl, rfl, rfl⟩ := Option.map₂_eq_some_iff.mp made
          exact ⟨keyed_readValue fuel value_read, trivial⟩
        · obtain ⟨⟨others, left⟩, others_read, same⟩ := Option.map_eq_some_iff.mp read
          obtain ⟨held, rfl⟩ := Prod.mk.inj same
          obtain ⟨field, others, made, rfl, rfl⟩ := Option.map₂_eq_some_iff.mp held
          obtain ⟨key, value, rfl, rfl, rfl⟩ := Option.map₂_eq_some_iff.mp made
          exact ⟨keyed_readValue fuel value_read, keyed_readFields fuel others_read⟩
        · cases read
      · cases read
    · cases read

end

theorem keyed_of_readWhole {text : String} {value : Json} (whole : readWhole floats text = some (some value)) :
    value.Keyed := by
  obtain ⟨⟨read, rest⟩, value_read, ends⟩ := Option.bind_eq_some_iff.mp whole
  dsimp only at ends
  split at ends
  · cases ends
    exact keyed_readValue _ value_read
  · cases ends

theorem mem_dropWhile_of_mem {p : Char → Bool} {c : Char} {text : List Char} (member : c ∈ text)
    (stops : p c = false) : c ∈ text.dropWhile p := by
  rw [← List.takeWhile_append_dropWhile (p := p) (l := text), List.mem_append] at member
  rcases member with passed | left
  · have passes := List.mem_takeWhile_imp passed
    rw [stops] at passes
    cases passes
  · exact left

theorem rest_readNumber {text rest : List Char} {value : Option Json}
    (read : readNumber floats text = some (value, rest)) :
    rest = text.dropWhile numeralChar ∨ ∃ name ∈ nonfinite, text = name ++ rest := by
  simp only [readNumber] at read
  split at read
  · cases read
    exact Or.inl rfl
  · split at read
    · cases read
      exact Or.inl rfl
    · obtain ⟨name, found, same⟩ := Option.map_eq_some_iff.mp read
      cases same
      refine Or.inr ⟨name, List.mem_of_find?_eq_some found, ?_⟩
      have begins : name.isPrefixOf text = true :=
        List.find?_some (p := fun name : List Char => name.isPrefixOf text) found
      exact (List.prefix_iff_eq_append.mp (List.isPrefixOf_iff_prefix.mp begins)).symm

theorem nonfinite_braceless : ∀ name ∈ nonfinite, '{' ∉ name := by decide

theorem mem_rest_readValue {fuel : Nat} {c : Char} {text rest : List Char} {value : Option Json} (string : c ≠ '"')
    (list : c ≠ '[') (dict : c ≠ '{') (read : readValue floats fuel (c :: text) = some (value, rest))
    (brace : '{' ∈ text) : '{' ∈ rest := by
  unfold readValue at read
  split at read
  · cases read
  · next same => exact absurd (List.cons.inj same).1 string
  · next same => exact absurd (List.cons.inj same).1 list
  · next same => exact absurd (List.cons.inj same).1 dict
  · next same =>
    cases same
    cases read
    simpa using brace
  · next same =>
    cases same
    cases read
    simpa using brace
  · next same =>
    cases same
    cases read
    simpa using brace
  · have member : '{' ∈ c :: text := List.mem_cons_of_mem c brace
    rcases rest_readNumber read with rfl | ⟨name, named, same⟩
    · exact mem_dropWhile_of_mem member (by decide)
    · rw [same, List.mem_append] at member
      exact member.resolve_left (nonfinite_braceless name named)

def valueSigns : List Char := ['"', '[', '{', 'n', 't', 'f', 'N', 'I']

theorem nonfinite_begins : ∀ name ∈ nonfinite, ∃ c ∈ name.head?, c ∈ valueSigns ∨ numeralChar c = true := by
  simp [nonfinite, valueSigns, numeralChar, numberChar]

theorem rest_readValue {fuel : Nat} {c : Char} {text rest : List Char} {value : Option Json}
    (begins : c ∉ valueSigns) (number : numeralChar c = false)
    (read : readValue floats fuel (c :: text) = some (value, rest)) : rest = c :: text := by
  have other : ∀ {d : Char} {more : List Char}, d ∈ valueSigns → c :: text ≠ d :: more := by
    intro d more member same
    rw [← (List.cons.inj same).1] at member
    exact begins member
  unfold readValue at read
  split at read
  · cases read
  · next same => exact absurd same (other (by decide))
  · next same => exact absurd same (other (by decide))
  · next same => exact absurd same (other (by decide))
  · next same => exact absurd same (other (by decide))
  · next same => exact absurd same (other (by decide))
  · next same => exact absurd same (other (by decide))
  · rcases rest_readNumber read with rfl | ⟨name, named, same⟩
    · apply List.dropWhile_cons_of_neg
      rw [number]
      exact Bool.false_ne_true
    · obtain ⟨d, first, opens⟩ := nonfinite_begins name named
      obtain ⟨more, rfl⟩ := List.head?_eq_some_iff.mp first
      rw [← (List.cons.inj same).1] at opens
      rcases opens with sign | numeral
      · exact absurd sign begins
      · rw [number] at numeral
        cases numeral

theorem skipSpace_append (before rest : List Char) :
    skipSpace (before ++ rest) = if skipSpace before = [] then skipSpace rest else skipSpace before ++ rest := by
  unfold skipSpace
  rw [List.dropWhile_append]
  cases List.dropWhile isJsonSpace before <;> rfl

theorem mem_of_mem_skipSpace {c : Char} {text : List Char} (member : c ∈ skipSpace text) : c ∈ text :=
  (List.dropWhile_sublist isJsonSpace).mem member

theorem skipSpace_stops {c : Char} {text rest : List Char} (start : skipSpace text = c :: rest) :
    isJsonSpace c = false := by
  have head : (skipSpace text).head? = some c := by rw [start, List.head?_cons]
  have stops := List.head?_dropWhile_not isJsonSpace text
  rw [skipSpace] at head
  rw [head] at stops
  exact stops

theorem readWhole_sign {text rest : List Char} {c : Char} (start : skipSpace text = c :: rest)
    (begins : c ∉ valueSigns) (number : numeralChar c = false) :
    readWhole floats (String.ofList text) = none := by
  rw [readWhole, String.toList_ofList, start]
  apply Option.bind_eq_none_iff.mpr
  rintro ⟨value, left⟩ read
  have stays : skipSpace (c :: rest) = c :: rest := by
    apply List.dropWhile_cons_of_neg
    rw [skipSpace_stops start]
    exact Bool.false_ne_true
  rw [rest_readValue begins number read]
  apply if_neg
  rw [stays]
  exact List.cons_ne_nil c rest

variable {escaping : Escaping}

theorem readValue_dict {fields : JsonDict} (keyed : (Json.obj fields).Keyed) {fuel : Nat} (rest : List Char)
    (enough : (Json.obj fields).levels ≤ fuel + 1) :
    readValue floats (fuel + 1) (escaping.text floats.toFloatRepr (.obj fields) ++ rest) =
      some (some (.obj fields), rest) := by
  cases fields with
  | nil => rfl
  | cons field fields =>
    have fits : Json.levelsFields (field :: fields) ≤ fuel := by
      simp only [Json.levels] at enough
      omega
    exact readValue_of_fields keyed.1 (readFields_text field fields keyed.2.1 keyed.2.2 fits)

theorem textFields_closes (escaping : Escaping) (floats : FloatRepr) (fields : JsonDict) :
    ∃ middle, escaping.textFields floats fields = middle ++ ['}'] := by
  induction fields with
  | nil => exact ⟨[], rfl⟩
  | cons field fields ih =>
    obtain ⟨middle, same⟩ := ih
    refine ⟨',' :: ' ' :: (escaping.textField floats field ++ middle), ?_⟩
    rw [escaping.textFields_cons, same]
    simp only [List.append_assoc, List.cons_append]

theorem text_braces (escaping : Escaping) (floats : FloatRepr) (fields : JsonDict) :
    ∃ middle, escaping.text floats (.obj fields) = '{' :: middle ++ ['}'] := by
  cases fields with
  | nil => exact ⟨[], rfl⟩
  | cons field fields =>
    obtain ⟨middle, same⟩ := textFields_closes escaping floats fields
    refine ⟨escaping.textField floats field ++ middle, ?_⟩
    rw [escaping.text_obj_cons, same]
    simp only [List.append_assoc, List.cons_append]

end Py
