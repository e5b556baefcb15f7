import CysAgi.Base.JsonDecode

namespace Py

structure Escaping where
  escape : Char → List Char
  reads : ∀ c rest, readChar (escape c ++ rest) = some (some c, rest)

/-- `ensure_ascii`. -/
def asciiEscaping : Escaping where
  escape := escape
  reads := readChar_escape

/-- `ESCAPE` of json.encoder: what is escaped in any case. -/
def escapeControl (c : Char) : List Char :=
  if c = '"' then ['\\', '"']
  else if c = '\\' then ['\\', '\\']
  else if c = '\n' then ['\\', 'n']
  else if c = '\r' then ['\\', 'r']
  else if c = '\t' then ['\\', 't']
  else if c = '\x0c' then ['\\', 'f']
  else if c = '\x08' then ['\\', 'b']
  else if c.toNat < 32 then unicodeEscape c.toNat
  else [c]

/-- `ensure_ascii=False`. -/
def controlEscaping : Escaping where
  escape := escapeControl
  reads c rest := by
    unfold escapeControl
    split
    · next quote =>
      rw [quote]
      rfl
    · next quote =>
      split
      · next backslash =>
        rw [backslash]
        rfl
      · next backslash =>
        iterate 5
          split
          · next same =>
            rw [same]
            rfl
        split
        · rw [readChar_unicode (by omega) (by omega), Char.ofNat_toNat]
        · next visible => exact readChar_plain quote backslash visible rest

theorem hex4_visible (n : Nat) : ∀ d ∈ hex4 n, 32 ≤ d.toNat := by
  have each : ∀ d : Fin 16, 32 ≤ (Nat.digitChar d.val).toNat := by decide
  have digit : ∀ k, 32 ≤ (Nat.digitChar (k % 16)).toNat := fun k => each ⟨k % 16, Nat.mod_lt k (by decide)⟩
  simp only [hex4, List.forall_mem_cons]
  exact ⟨digit _, digit _, digit _, digit _, List.forall_mem_nil _⟩

theorem unicodeEscape_visible (n : Nat) : ∀ d ∈ unicodeEscape n, 32 ≤ d.toNat := by
  rw [unicodeEscape, List.forall_mem_cons, List.forall_mem_cons]
  exact ⟨by decide, by decide, hex4_visible n⟩

theorem escapeControl_visible (c : Char) : ∀ d ∈ escapeControl c, 32 ≤ d.toNat := by
  unfold escapeControl
  iterate 7
    split
    · simp
  split
  · exact unicodeEscape_visible _
  · next visible =>
    rw [List.forall_mem_singleton]
    exact not_lt.mp visible

theorem escape_visible (c : Char) : ∀ d ∈ escape c, 32 ≤ d.toNat := by
  unfold escape
  iterate 7
    split
    · simp
  split
  · next visible =>
    rw [List.forall_mem_singleton]
    exact visible.1
  · split
    · exact unicodeEscape_visible _
    · exact List.forall_mem_append.mpr ⟨unicodeEscape_visible _, unicodeEscape_visible _⟩

namespace Escaping

variable (escaping : Escaping)

theorem escape_ne_nil (c : Char) : escaping.escape c ≠ [] := by
  intro none
  have read := escaping.reads c []
  rw [none] at read
  cases read

def literal (text : String) : List Char := '"' :: (text.toList.flatMap escaping.escape ++ ['"'])

def chunk : Chunk → List Char
  | .signs text => text
  | .string text => escaping.literal text

def text (floats : FloatRepr) (value : Json) : List Char := (chunks floats value).flatMap escaping.chunk

def dumps (floats : FloatRepr) (value : Json) : String := String.ofList (escaping.text floats value)

theorem readLiteral_escaped (cs rest : List Char) {fuel : Nat} (enough : cs.length ≤ fuel) :
    readLiteral fuel (cs.flatMap escaping.escape ++ '"' :: rest) = some (some cs, rest) := by
  induction cs generalizing fuel with
  | nil => cases fuel <;> rfl
  | cons c cs ih =>
    cases fuel with
    | zero => cases enough
    | succ fuel =>
      have read := escaping.reads c (cs.flatMap escaping.escape ++ '"' :: rest)
      rw [← List.append_assoc, ← List.flatMap_cons] at read
      unfold readLiteral
      split
      · next same =>
        rw [same] at read
        cases read
      · next same _ => cases same
      · next same _ =>
        cases same
        rw [read, Option.bind_some]
        dsimp only
        rw [ih (Nat.le_of_succ_le_succ enough), Option.map_some]
        rfl

theorem length_le_escaped (cs rest : List Char) : cs.length ≤ (cs.flatMap escaping.escape ++ '"' :: rest).length := by
  induction cs with
  | nil => exact Nat.zero_le _
  | cons c cs ih =>
    have one := List.length_pos_iff.mpr (escaping.escape_ne_nil c)
    rw [List.flatMap_cons, List.append_assoc, List.length_append, List.length_cons]
    omega

theorem readLiteral_literal (key : String) (rest : List Char) :
    readLiteral (key.toList.flatMap escaping.escape ++ '"' :: rest).length
      (key.toList.flatMap escaping.escape ++ '"' :: rest) = some (some key.toList, rest) :=
  escaping.readLiteral_escaped _ _ (escaping.length_le_escaped _ _)

theorem text_atom {floats : FloatRepr} {value : Json} {text : List Char} (atom : chunks floats value = [.signs text]) :
    escaping.text floats value = text := by
  rw [Escaping.text, atom, List.flatMap_singleton]
  rfl

theorem text_str (floats : FloatRepr) (text : String) :
    escaping.text floats (.str text) = escaping.literal text := by
  rw [Escaping.text, chunks, List.flatMap_singleton]
  rfl

def textItems (floats : FloatRepr) (items : List Json) : List Char :=
  (chunksItems floats items).flatMap escaping.chunk

def textFields (floats : FloatRepr) (fields : JsonDict) : List Char :=
  (chunksFields floats fields).flatMap escaping.chunk

theorem text_arr_cons (floats : FloatRepr) (item : Json) (items : List Json) :
    escaping.text floats (.arr (item :: items)) = '[' :: (escaping.text floats item ++ escaping.textItems floats items) := by
  rw [Escaping.text, chunks, List.flatMap_cons, List.flatMap_append]
  rfl

theorem textItems_cons (floats : FloatRepr) (item : Json) (items : List Json) :
    escaping.textItems floats (item :: items) =
      ',' :: ' ' :: (escaping.text floats item ++ escaping.textItems floats items) := by
  rw [textItems, chunksItems, List.flatMap_cons, List.flatMap_append]
  rfl

def textField (floats : FloatRepr) (field : String × Json) : List Char :=
  escaping.literal field.1 ++ ':' :: ' ' :: escaping.text floats field.2

theorem text_obj_cons (floats : FloatRepr) (field : String × Json) (fields : JsonDict) :
    escaping.text floats (.obj (field :: fields)) =
      '{' :: (escaping.textField floats field ++ escaping.textFields floats fields) := by
  rw [Escaping.text, chunks, List.flatMap_cons, List.flatMap_cons, List.flatMap_cons, List.flatMap_append,
    textField, List.append_assoc]
  rfl

theorem textFields_cons (floats : FloatRepr) (field : String × Json) (fields : JsonDict) :
    escaping.textFields floats (field :: fields) =
      ',' :: ' ' :: (escaping.textField floats field ++ escaping.textFields floats fields) := by
  rw [textFields, chunksFields, List.flatMap_cons, List.flatMap_cons, List.flatMap_cons, List.flatMap_append,
    textField, List.append_assoc]
  rfl

end Escaping

def Opens (c : Char) : Prop := isJsonSpace c = false ∧ c ≠ ']' ∧ c ≠ '}'

theorem opens_numeral {c : Char} (numeral : numeralChar c = true) : Opens c := by
  have apart : ∀ d ∈ [' ', '\t', '\n', '\r', ']', '}'], numeralChar d = false := by simp [numeralChar, numberChar]
  have other : ∀ d ∈ [' ', '\t', '\n', '\r', ']', '}'], c ≠ d := by
    rintro d member rfl
    rw [apart c member] at numeral
    cases numeral
  simp only [List.forall_mem_cons] at other
  simp [Opens, isJsonSpace, other]

theorem opens_text (escaping : Escaping) (floats : FloatRepr) (value : Json) :
    ∃ c rest, escaping.text floats value = c :: rest ∧ Opens c := by
  have number : ∀ text : List Char, text ≠ [] → (∀ c ∈ text, numberChar c = true) →
      chunks floats value = [.signs text] → ∃ c rest, escaping.text floats value = c :: rest ∧ Opens c := by
    intro text nonempty chars atom
    rw [escaping.text_atom atom]
    obtain ⟨c, rest, rfl⟩ := List.exists_cons_of_ne_nil nonempty
    have numeral : numeralChar c = true := by
      rw [numeralChar, chars c List.mem_cons_self]
      rfl
    exact ⟨c, rest, rfl, opens_numeral numeral⟩
  cases value with
  | null => exact ⟨_, _, rfl, by decide, by decide, by decide⟩
  | bool value => cases value <;> exact ⟨_, _, rfl, by decide, by decide, by decide⟩
  | int n => exact number _ (intText_ne_nil n) (intText_chars n) rfl
  | float value => exact number _ (floats.nonempty value) (floats.chars value) rfl
  | str text => exact ⟨_, _, escaping.text_str floats text, by decide, by decide, by decide⟩
  | arr items =>
    cases items with
    | nil => exact ⟨_, _, rfl, by decide, by decide, by decide⟩
    | cons item items => exact ⟨_, _, escaping.text_arr_cons floats item items, by decide, by decide, by decide⟩
  | obj fields =>
    cases fields with
    | nil => exact ⟨_, _, rfl, by decide, by decide, by decide⟩
    | cons field fields => exact ⟨_, _, escaping.text_obj_cons floats field fields, by decide, by decide, by decide⟩

theorem skipSpace_opens {c : Char} (opens : Opens c) (rest : List Char) : skipSpace (c :: rest) = c :: rest :=
  List.dropWhile_cons_of_neg (by rw [opens.1]; exact Bool.false_ne_true)

theorem skipSpace_text (escaping : Escaping) (floats : FloatRepr) (value : Json) (rest : List Char) :
    skipSpace (escaping.text floats value ++ rest) = escaping.text floats value ++ rest := by
  obtain ⟨c, more, same, opens⟩ := opens_text escaping floats value
  rw [same, List.cons_append, skipSpace_opens opens]

mutual

/-- No dict of the value has a key twice. -/
def Json.Keyed : Json → Prop
  | .arr items => Json.KeyedItems items
  | .obj fields => (fields.map Prod.fst).Nodup ∧ Json.KeyedFields fields
  | _ => True

def Json.KeyedItems : List Json → Prop
  | [] => True
  | item :: items => item.Keyed ∧ Json.KeyedItems items

def Json.KeyedFields : JsonDict → Prop
  | [] => True
  | (_, value) :: fields => value.Keyed ∧ Json.KeyedFields fields

end

mutual

def Json.levels : Json → Nat
  | .arr items => 1 + Json.levelsItems items
  | .obj fields => 1 + Json.levelsFields fields
  | _ => 1

def Json.levelsItems : List Json → Nat
  | [] => 0
  | item :: items => 1 + item.levels + Json.levelsItems items

def Json.levelsFields : JsonDict → Nat
  | [] => 0
  | (_, value) :: fields => 1 + value.levels + Json.levelsFields fields

end

theorem dictOf_nodup {fields : JsonDict} (nodup : (fields.map Prod.fst).Nodup) : dictOf fields = fields := by
  have each : ∀ (rest first : JsonDict), ((first ++ rest).map Prod.fst).Nodup →
      rest.foldl (fun dict field => JsonDict.set dict field.1 field.2) first = first ++ rest := by
    intro rest
    induction rest with
    | nil => intro first _; exact (List.append_nil first).symm
    | cons field rest ih =>
      intro first distinct
      have absent : field.1 ∉ first.map Prod.fst := by
        rw [List.map_append, List.map_cons, List.nodup_append] at distinct
        exact fun member => distinct.2.2 _ member _ List.mem_cons_self rfl
      rw [List.foldl_cons, JsonDict.set, Assoc.set_absent absent, ih]
      · rw [List.append_assoc, List.singleton_append]
      · rwa [List.append_assoc, List.singleton_append]
  exact each fields [] nodup

variable {floats : FloatCodec} {escaping : Escaping}

def Stops (rest : List Char) : Prop := ∀ c ∈ rest.head?, numeralChar c = false

theorem stops_cons {c : Char} (stops : numeralChar c = false) (rest : List Char) : Stops (c :: rest) := by
  intro d first
  cases first
  exact stops

theorem span_numeral {word rest : List Char} (numerals : ∀ c ∈ word, numberChar c = true) (stops : Stops rest) :
    (word ++ rest).takeWhile numeralChar = word ∧ (word ++ rest).dropWhile numeralChar = rest := by
  have all : ∀ c ∈ word, numeralChar c = true := by
    intro c member
    rw [numeralChar, numerals c member]
    rfl
  rw [List.takeWhile_append_of_pos all, List.dropWhile_append_of_pos all]
  cases rest with
  | nil => exact ⟨List.append_nil word, rfl⟩
  | cons c rest =>
    have ends : ¬ numeralChar c = true := by
      rw [stops c rfl]
      exact Bool.false_ne_true
    rw [List.takeWhile_cons_of_neg ends, List.dropWhile_cons_of_neg ends, List.append_nil]
    exact ⟨rfl, rfl⟩

theorem readNumber_int (n : Int) {rest : List Char} (stops : Stops rest) :
    readNumber floats (intText n ++ rest) = some (some (.int n), rest) := by
  have parts := span_numeral (intText_chars n) stops
  simp only [readNumber, parts.1, parts.2, readInteger_intText]

theorem readNumber_float (value : Rat) {rest : List Char} (stops : Stops rest) :
    readNumber floats (floats.text value ++ rest) = some (some (.float value), rest) := by
  have parts := span_numeral (floats.chars value) stops
  simp only [readNumber, parts.1, parts.2, floats.not_integer, floats.read_text, Option.map_some]

theorem readValue_numeral {c : Char} (numeral : numeralChar c = true) (fuel : Nat) (text : List Char) :
    readValue floats (fuel + 1) (c :: text) = readNumber floats (c :: text) := by
  have other : ∀ {d : Char} {rest : List Char}, numeralChar d = false → c :: text = d :: rest → False := by
    intro d rest apart same
    rw [(List.cons.inj same).1, apart] at numeral
    cases numeral
  unfold readValue
  split
  · next zero => cases zero
  · next same => exact (other (by decide) same).elim
  · next same => exact (other (by decide) same).elim
  · next same => exact (other (by decide) same).elim
  · next same => exact (other (by decide) same).elim
  · next same => exact (other (by decide) same).elim
  · next same => exact (other (by decide) same).elim
  · rfl

theorem readValue_number {word rest : List Char} {value : Json} (nonempty : word ≠ [])
    (numerals : ∀ c ∈ word, numberChar c = true) (fuel : Nat)
    (read : readNumber floats (word ++ rest) = some (some value, rest)) :
    readValue floats (fuel + 1) (word ++ rest) = some (some value, rest) := by
  obtain ⟨c, word, rfl⟩ := List.exists_cons_of_ne_nil nonempty
  have numeral : numeralChar c = true := by
    rw [numeralChar, numerals c List.mem_cons_self]
    rfl
  rw [List.cons_append] at read ⊢
  rw [readValue_numeral numeral, read]

theorem readValue_str (text : String) (rest : List Char) (fuel : Nat) :
    readValue floats (fuel + 1) (escaping.literal text ++ rest) = some (some (.str text), rest) := by
  rw [Escaping.literal, List.cons_append, List.append_assoc, List.singleton_append, readValue,
    escaping.readLiteral_literal]
  simp only [Option.map_some, String.ofList_toList]

theorem readValue_arr {c : Char} (opens : Opens c) (fuel : Nat) (text : List Char) :
    readValue floats (fuel + 1) ('[' :: c :: text) =
      (readItems floats fuel (c :: text)).map fun read => (read.1.map .arr, read.2) := by
  rw [readValue, skipSpace_opens opens]
  split
  · next same => exact absurd (List.cons.inj same).1 opens.2.1
  · rfl

theorem readValue_obj {c : Char} (opens : Opens c) (fuel : Nat) (text : List Char) :
    readValue floats (fuel + 1) ('{' :: c :: text) =
      (readFields floats fuel (c :: text)).map fun read => (read.1.map fun fields => .obj (dictOf fields), read.2) := by
  rw [readValue, skipSpace_opens opens]
  split
  · next same => exact absurd (List.cons.inj same).1 opens.2.2
  · rfl

theorem readItems_last {text rest : List Char} {item : Json} {fuel : Nat}
    (read : readValue floats fuel text = some (some item, ']' :: rest)) :
    readItems floats (fuel + 1) text = some (some [item], rest) := by
  rw [readItems, read]
  rfl

theorem readItems_more {text more rest : List Char} {item : Json} {items : List Json} {fuel : Nat}
    (read : readValue floats fuel text = some (some item, ',' :: ' ' :: more)) (opens : skipSpace more = more)
    (others : readItems floats fuel more = some (some items, rest)) :
    readItems floats (fuel + 1) text = some (some (item :: items), rest) := by
  have next : skipSpace (' ' :: more) = more := opens
  have comma : skipSpace (',' :: ' ' :: more) = ',' :: ' ' :: more := rfl
  rw [readItems, read]
  simp only [Option.bind_some, comma, next, others, Option.map_some]
  rfl

theorem field_read (key : String) (value : Json) :
    Option.map₂ (fun key value => (String.ofList key, value)) (some key.toList) (some value) = some (key, value) :=
  congrArg (fun key => some (key, value)) String.ofList_toList

theorem readFields_last (key : String) {text rest : List Char} {value : Json} {fuel : Nat}
    (opens : skipSpace text = text) (read : readValue floats fuel text = some (some value, '}' :: rest)) :
    readFields floats (fuel + 1) (escaping.literal key ++ ':' :: ' ' :: text) = some (some [(key, value)], rest) := by
  have next : skipSpace (' ' :: text) = text := opens
  have colon : skipSpace (':' :: ' ' :: text) = ':' :: ' ' :: text := rfl
  have brace : skipSpace ('}' :: rest) = '}' :: rest := rfl
  rw [Escaping.literal, List.cons_append, List.append_assoc, List.singleton_append, readFields,
    escaping.readLiteral_literal]
  simp only [Option.bind_some, colon, next, read, brace, field_read, Option.map_some]

theorem readFields_more (key : String) {text more rest : List Char} {value : Json} {fields : JsonDict} {fuel : Nat}
    (opens : skipSpace text = text) (read : readValue floats fuel text = some (some value, ',' :: ' ' :: more))
    (opensMore : skipSpace more = more) (others : readFields floats fuel more = some (some fields, rest)) :
    readFields floats (fuel + 1) (escaping.literal key ++ ':' :: ' ' :: text) =
      some (some ((key, value) :: fields), rest) := by
  have next : skipSpace (' ' :: text) = text := opens
  have colon : skipSpace (':' :: ' ' :: text) = ':' :: ' ' :: text := rfl
  have comma : skipSpace (',' :: ' ' :: more) = ',' :: ' ' :: more := rfl
  have again : skipSpace (' ' :: more) = more := opensMore
  rw [Escaping.literal, List.cons_append, List.append_assoc, List.singleton_append, readFields,
    escaping.readLiteral_literal]
  simp only [Option.bind_some, colon, next, read, comma, again, others, Option.map_some, field_read]
  rfl

theorem stops_items (items : List Json) (rest : List Char) :
    Stops (escaping.textItems floats.toFloatRepr items ++ rest) := by
  cases items with
  | nil => exact stops_cons (by decide) _
  | cons item items =>
    rw [escaping.textItems_cons, List.cons_append]
    exact stops_cons (by decide) _

theorem stops_fields (fields : JsonDict) (rest : List Char) :
    Stops (escaping.textFields floats.toFloatRepr fields ++ rest) := by
  cases fields with
  | nil => exact stops_cons (by decide) _
  | cons field fields =>
    rw [escaping.textFields_cons, List.cons_append]
    exact stops_cons (by decide) _

theorem readValue_of_fields {field : String × Json} {fields : JsonDict} {fuel : Nat} {rest : List Char}
    (nodup : ((field :: fields).map Prod.fst).Nodup)
    (read : readFields floats fuel (escaping.textField floats.toFloatRepr field ++
      escaping.textFields floats.toFloatRepr fields ++ rest) = some (some (field :: fields), rest)) :
    readValue floats (fuel + 1) (escaping.text floats.toFloatRepr (.obj (field :: fields)) ++ rest) =
      some (some (.obj (field :: fields)), rest) := by
  have opens : Opens '"' := ⟨by decide, by decide, by decide⟩
  rw [escaping.text_obj_cons, List.cons_append]
  rw [Escaping.textField, Escaping.literal] at read ⊢
  simp only [List.cons_append] at read ⊢
  rw [readValue_obj opens, read, Option.map_some]
  dsimp only [Option.map_some]
  rw [dictOf_nodup nodup]

mutual

theorem readValue_text : (value : Json) → value.Keyed → ∀ {fuel : Nat} {rest : List Char}, value.levels ≤ fuel →
    Stops rest → readValue floats fuel (escaping.text floats.toFloatRepr value ++ rest) = some (some value, rest)
  | .null, _, fuel + 1, rest, _, _ => rfl
  | .bool true, _, fuel + 1, rest, _, _ => rfl
  | .bool false, _, fuel + 1, rest, _, _ => rfl
  | .int n, _, fuel + 1, rest, _, stops => by
    rw [escaping.text_atom rfl]
    exact readValue_number (intText_ne_nil n) (intText_chars n) fuel (readNumber_int n stops)
  | .float value, _, fuel + 1, rest, _, stops => by
    rw [escaping.text_atom rfl]
    exact readValue_number (floats.nonempty value) (floats.chars value) fuel (readNumber_float value stops)
  | .str text, _, fuel + 1, rest, _, _ => by
    rw [escaping.text_str]
    exact readValue_str text rest fuel
  | .arr [], _, fuel + 1, rest, _, _ => rfl
  | .arr (_ :: _), _, 0, _, enough, _ => absurd enough (by simp [Json.levels])
  | .arr (item :: items), keyed, fuel + 1, rest, enough, _ => by
    have fits : Json.levelsItems (item :: items) ≤ fuel := by
      simp only [Json.levels] at enough
      omega
    have read : readItems floats fuel (escaping.text floats.toFloatRepr item ++
        escaping.textItems floats.toFloatRepr items ++ rest) = some (some (item :: items), rest) :=
      readItems_text item items keyed.1 keyed.2 fits
    obtain ⟨c, more, same, opens⟩ := opens_text escaping floats.toFloatRepr item
    rw [escaping.text_arr_cons]
    rw [same] at read ⊢
    simp only [List.cons_append] at read ⊢
    rw [readValue_arr opens, read, Option.map_some]
    rfl
  | .obj [], _, fuel + 1, rest, _, _ => rfl
  | .obj (_ :: _), _, 0, _, enough, _ => absurd enough (by simp [Json.levels])
  | .obj (field :: fields), keyed, fuel + 1, rest, enough, _ => by
    have fits : Json.levelsFields (field :: fields) ≤ fuel := by
      simp only [Json.levels] at enough
      omega
    have read : readFields floats fuel (escaping.textField floats.toFloatRepr field ++
        escaping.textFields floats.toFloatRepr fields ++ rest) = some (some (field :: fields), rest) :=
      readFields_text field fields keyed.2.1 keyed.2.2 fits
    exact readValue_of_fields keyed.1 read

theorem readItems_text : (item : Json) → (items : List Json) → item.Keyed → Json.KeyedItems items →
    ∀ {fuel : Nat} {rest : List Char}, Json.levelsItems (item :: items) ≤ fuel →
      readItems floats fuel (escaping.text floats.toFloatRepr item ++
        escaping.textItems floats.toFloatRepr items ++ rest) = some (some (item :: items), rest)
  | _, _, _, _, 0, _, enough => absurd enough (by simp [Json.levelsItems])
  | item, [], keyed, _, fuel + 1, rest, enough => by
    rw [List.append_assoc]
    apply readItems_last
    exact readValue_text item keyed (by simp only [Json.levelsItems] at enough; omega) (stops_cons (by decide) _)
  | item, other :: items, keyed, others, fuel + 1, rest, enough => by
    have stops : Stops (escaping.textItems floats.toFloatRepr (other :: items) ++ rest) := stops_items _ _
    simp only [Json.levelsItems] at enough
    have read : readValue floats fuel (escaping.text floats.toFloatRepr item ++
        (escaping.textItems floats.toFloatRepr (other :: items) ++ rest)) = some (some item, _) :=
      readValue_text item keyed (by omega) stops
    have more : readItems floats fuel (escaping.text floats.toFloatRepr other ++
        escaping.textItems floats.toFloatRepr items ++ rest) = some (some (other :: items), rest) :=
      readItems_text other items others.1 others.2 (by simp only [Json.levelsItems]; omega)
    rw [List.append_assoc]
    rw [escaping.textItems_cons] at read ⊢
    have opens := skipSpace_text escaping floats.toFloatRepr other
      (escaping.textItems floats.toFloatRepr items ++ rest)
    rw [← List.append_assoc] at opens
    exact readItems_more read opens more

theorem readFields_text : (field : String × Json) → (fields : JsonDict) → field.2.Keyed → Json.KeyedFields fields →
    ∀ {fuel : Nat} {rest : List Char}, Json.levelsFields (field :: fields) ≤ fuel →
      readFields floats fuel (escaping.textField floats.toFloatRepr field ++
        escaping.textFields floats.toFloatRepr fields ++ rest) = some (some (field :: fields), rest)
  | (_, _), _, _, _, 0, _, enough => absurd enough (by simp [Json.levelsFields])
  | (key, value), [], keyed, _, fuel + 1, rest, enough => by
    rw [Escaping.textField, List.append_assoc, List.append_assoc, List.cons_append, List.cons_append]
    apply readFields_last key (skipSpace_text _ _ _ _)
    exact readValue_text value keyed (by simp only [Json.levelsFields] at enough; omega) (stops_cons (by decide) _)
  | (key, value), other :: fields, keyed, others, fuel + 1, rest, enough => by
    have stops : Stops (escaping.textFields floats.toFloatRepr (other :: fields) ++ rest) := stops_fields _ _
    simp only [Json.levelsFields] at enough
    have read : readValue floats fuel (escaping.text floats.toFloatRepr value ++
        (escaping.textFields floats.toFloatRepr (other :: fields) ++ rest)) = some (some value, _) :=
      readValue_text value keyed (by omega) stops
    have more : readFields floats fuel (escaping.textField floats.toFloatRepr other ++
        escaping.textFields floats.toFloatRepr fields ++ rest) = some (some (other :: fields), rest) :=
      readFields_text other fields others.1 others.2 (by simp only [Json.levelsFields]; omega)
    rw [Escaping.textField, List.append_assoc, List.append_assoc, List.cons_append, List.cons_append]
    rw [escaping.textFields_cons] at read ⊢
    exact readFields_more key (skipSpace_text _ _ _ _) read rfl more

end

theorem length_text_pos (escaping : Escaping) (floats : FloatRepr) (value : Json) :
    1 ≤ (escaping.text floats value).length := by
  obtain ⟨c, rest, same, -⟩ := opens_text escaping floats value
  rw [same, List.length_cons]
  exact Nat.le_add_left _ _

mutual

theorem levels_le_text (escaping : Escaping) (floats : FloatRepr) :
    (value : Json) → value.levels ≤ (escaping.text floats value).length
  | .null => length_text_pos escaping floats _
  | .bool _ => length_text_pos escaping floats _
  | .int _ => length_text_pos escaping floats _
  | .float _ => length_text_pos escaping floats _
  | .str _ => length_text_pos escaping floats _
  | .arr [] => length_text_pos escaping floats _
  | .arr (item :: items) => by
    have first := levels_le_text escaping floats item
    have others := levelsItems_le_text escaping floats items
    rw [escaping.text_arr_cons]
    simp only [Json.levels, Json.levelsItems, List.length_cons, List.length_append]
    omega
  | .obj [] => length_text_pos escaping floats _
  | .obj ((key, value) :: fields) => by
    have first := levels_le_text escaping floats value
    have others := levelsFields_le_text escaping floats fields
    rw [escaping.text_obj_cons, Escaping.textField]
    simp only [Json.levels, Json.levelsFields, List.length_cons, List.length_append]
    omega

theorem levelsItems_le_text (escaping : Escaping) (floats : FloatRepr) :
    (items : List Json) → Json.levelsItems items + 1 ≤ (escaping.textItems floats items).length
  | [] => Nat.le_refl 1
  | item :: items => by
    have first := levels_le_text escaping floats item
    have others := levelsItems_le_text escaping floats items
    rw [escaping.textItems_cons]
    simp only [Json.levelsItems, List.length_cons, List.length_append]
    omega

theorem levelsFields_le_text (escaping : Escaping) (floats : FloatRepr) :
    (fields : JsonDict) → Json.levelsFields fields + 1 ≤ (escaping.textFields floats fields).length
  | [] => Nat.le_refl 1
  | (key, value) :: fields => by
    have first := levels_le_text escaping floats value
    have others := levelsFields_le_text escaping floats fields
    rw [escaping.textFields_cons, Escaping.textField]
    simp only [Json.levelsFields, List.length_cons, List.length_append]
    omega

end

theorem readWhole_dumps (floats : FloatCodec) (escaping : Escaping) {value : Json} (keyed : value.Keyed) :
    readWhole floats (escaping.dumps floats.toFloatRepr value) = some (some value) := by
  have enough := (levels_le_text escaping floats.toFloatRepr value).trans (Nat.le_succ _)
  have stops : Stops [] := nofun
  have read : readValue floats _ (escaping.text floats.toFloatRepr value ++ []) = some (some value, []) :=
    readValue_text value keyed enough stops
  have start := skipSpace_text escaping floats.toFloatRepr value []
  rw [List.append_nil] at read start
  rw [readWhole, Escaping.dumps, String.toList_ofList, start, read]
  rfl

/-- `json.loads(json.dumps(value)) == value`. -/
theorem loads_dumps (floats : FloatCodec) (escaping : Escaping) {value : Json} (keyed : value.Keyed) :
    loads floats (escaping.dumps floats.toFloatRepr value) = some value := by
  rw [loads, readWhole_dumps floats escaping keyed]
  rfl

theorem text_visible (escaping : Escaping) (visible : ∀ c, ∀ d ∈ escaping.escape c, 32 ≤ d.toNat) (floats : FloatRepr)
    (value : Json) : ∀ d ∈ escaping.text floats value, 32 ≤ d.toNat := by
  intro d member
  obtain ⟨chunk, written, member⟩ := List.mem_flatMap.mp member
  cases chunk with
  | signs text =>
    have sign := plain_chunks floats value _ written d member
    have number : ∀ {c : Char}, numberChar c = true → 32 ≤ c.toNat := by
      intro c number
      simp only [numberChar, Bool.or_eq_true, decide_eq_true_eq] at number
      rcases number with (((digit | rfl) | rfl) | rfl) | rfl
      · rw [Char.isDigit_iff_toNat] at digit
        have zero : ('0'.toNat) = 48 := rfl
        omega
      all_goals simp
    simp only [signChar, Bool.or_eq_true, decide_eq_true_eq] at sign
    rcases sign with numeral | sign
    · exact number numeral
    · have each : ∀ c ∈ ['n', 'u', 'l', 't', 'r', 'f', 'a', 's', '[', ']', '{', '}', ':', ',', ' '], 32 ≤ c.toNat := by
        simp
      exact each d sign
  | string text =>
    have literal : d ∈ escaping.literal text := member
    rw [Escaping.literal, List.mem_cons, List.mem_append, List.mem_singleton, List.mem_flatMap] at literal
    rcases literal with rfl | ⟨c, -, escaped⟩ | rfl
    · decide
    · exact visible c d escaped
    · decide

end Py
