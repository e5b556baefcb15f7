import CysAgi.Runtime.ScopeCoercion

namespace Py

mutual

def Json.texts : Json → List String
  | .str text => [text]
  | .arr items => Json.textsItems items
  | .obj fields => Json.textsFields fields
  | _ => []

def Json.textsItems : List Json → List String
  | [] => []
  | item :: rest => item.texts ++ Json.textsItems rest

def Json.textsFields : JsonDict → List String
  | [] => []
  | (_, value) :: rest => value.texts ++ Json.textsFields rest

end

end Py

namespace CysAgi

open Py

namespace TextReader

variable (reader : TextReader)

def Opens (text : String) : Prop := startsWith (strip text) "[" = true ∨ startsWith (strip text) "\x7b" = true

def Truth (text : String) : Prop := reader.lower (strip text) = "true" ∨ reader.lower (strip text) = "false"

/-- The text is left as it is, and nothing is raised on the way. -/
def Inert (text : String) : Prop := ¬reader.Word text ∧ (Opens text → reader.loads (strip text) = .ok none)

/-- The text is a truth value, a number that `int` reads, a text that is left as it is, or the JSON text of a value
    whose own strings are all left as they are. -/
inductive Settles (text : String) : Prop where
  | truth (truth : reader.Truth text)
  | number (digits : reader.isDigit (strip text) = true) (n : Int) (read : reader.int (strip text) = .ok n)
  | inert (inert : reader.Inert text)
  | decoded (json : Json) (decodes : reader.Decodes text json) (inert : ∀ leaf ∈ json.texts, reader.Inert leaf)

/-- `json.loads` of a text that opens a list or a dict gives no string. -/
def DecodesNested : Prop :=
  ∀ text json, Opens text → reader.loads (strip text) = .ok (some json) → ∀ inner, json ≠ .str inner

variable {reader} {text : String}

theorem coerceText_truth (truth : reader.Truth text) :
    reader.coerceText text = .ok (.bool (reader.lower (strip text) = "true")) := by
  unfold coerceText
  exact if_pos truth

theorem coerceText_digits (other : ¬reader.Truth text) (digits : reader.isDigit (strip text) = true) :
    reader.coerceText text = .int <$> reader.int (strip text) := by
  unfold coerceText
  exact (if_neg other).trans (if_pos digits)

theorem coerceText_opens (other : ¬reader.Word text) (opens : Opens text) :
    reader.coerceText text = (fun decoded => decoded.getD (.str text)) <$> reader.loads (strip text) := by
  unfold coerceText
  exact (if_neg fun truth => other (.inl truth)).trans ((if_neg fun digits => other (.inr digits)).trans (if_pos opens))

theorem coerceText_plain (other : ¬reader.Word text) (closed : ¬Opens text) :
    reader.coerceText text = .ok (.str text) := by
  unfold coerceText
  exact (if_neg fun truth => other (.inl truth)).trans
    ((if_neg fun digits => other (.inr digits)).trans (if_neg closed))

theorem coerceText_inert (inert : reader.Inert text) : reader.coerceText text = .ok (.str text) := by
  obtain ⟨other, undecoded⟩ := inert
  by_cases opens : Opens text
  · rw [coerceText_opens other opens, undecoded opens]
    rfl
  · exact coerceText_plain other opens

theorem coerceText_fixed_iff (nested : reader.DecodesNested) :
    reader.coerceText text = .ok (.str text) ↔ reader.Inert text := by
  constructor
  · intro fixed
    by_cases truth : reader.Truth text
    · rw [coerceText_truth truth] at fixed
      cases fixed
    · by_cases digits : reader.isDigit (strip text) = true
      · rw [coerceText_digits truth digits] at fixed
        obtain ⟨n, -, other⟩ := except_map_ok.mp fixed
        cases other
      · have other : ¬reader.Word text := fun word => word.elim truth digits
        refine ⟨other, fun opens => ?_⟩
        rw [coerceText_opens other opens] at fixed
        obtain ⟨decoded, loaded, same⟩ := except_map_ok.mp fixed
        cases decoded with
        | none => exact loaded
        | some json => exact absurd same (nested text json opens loaded text)
  · exact coerceText_inert

mutual

theorem coerceValue_fixed_iff (nested : reader.DecodesNested) : ∀ value : Json,
    reader.coerceValue value = .ok value ↔ ∀ leaf ∈ value.texts, reader.Inert leaf
  | .null | .bool _ | .int _ | .float _ => by simp [coerceValue, Json.texts]
  | .str text => by simp [coerceValue, Json.texts, coerceText_fixed_iff nested]
  | .arr items => by
    rw [coerceValue, Json.texts, ← coerceItems_fixed_iff nested items, except_map_ok]
    simp
  | .obj fields => by
    rw [coerceValue, Json.texts, ← coerceToolArgs_fixed_iff nested fields, except_map_ok]
    simp

theorem coerceItems_fixed_iff (nested : reader.DecodesNested) : ∀ items : List Json,
    reader.coerceItems items = .ok items ↔ ∀ leaf ∈ Json.textsItems items, reader.Inert leaf
  | [] => by simp [coerceItems, Json.textsItems]
  | item :: rest => by
    rw [coerceItems_cons_ok, Json.textsItems, List.forall_mem_append, ← coerceValue_fixed_iff nested item,
      ← coerceItems_fixed_iff nested rest]
    constructor
    · rintro ⟨made, others, head, tail, same⟩
      obtain ⟨rfl, rfl⟩ := List.cons.inj same
      exact ⟨head, tail⟩
    · rintro ⟨head, tail⟩
      exact ⟨item, rest, head, tail, rfl⟩

theorem coerceToolArgs_fixed_iff (nested : reader.DecodesNested) : ∀ fields : JsonDict,
    reader.coerceToolArgs fields = .ok fields ↔ ∀ leaf ∈ Json.textsFields fields, reader.Inert leaf
  | [] => by simp [coerceToolArgs, Json.textsFields]
  | (key, value) :: rest => by
    rw [coerceToolArgs_cons_ok, Json.textsFields, List.forall_mem_append, ← coerceValue_fixed_iff nested value,
      ← coerceToolArgs_fixed_iff nested rest]
    constructor
    · rintro ⟨made, others, head, tail, same⟩
      obtain ⟨field, rfl⟩ := List.cons.inj same
      obtain ⟨-, rfl⟩ := Prod.mk.inj field
      exact ⟨head, tail⟩
    · rintro ⟨head, tail⟩
      exact ⟨value, rest, head, tail, rfl⟩

end

theorem settles_iff (nested : reader.DecodesNested) (text : String) :
    (∃ made, reader.coerceText text = .ok made ∧ reader.coerceValue made = .ok made) ↔ reader.Settles text := by
  constructor
  · rintro ⟨made, first, second⟩
    by_cases truth : reader.Truth text
    · exact .truth truth
    · by_cases digits : reader.isDigit (strip text) = true
      · rw [coerceText_digits truth digits] at first
        obtain ⟨n, read, -⟩ := except_map_ok.mp first
        exact .number digits n read
      · have other : ¬reader.Word text := fun word => word.elim truth digits
        by_cases opens : Opens text
        · rw [coerceText_opens other opens] at first
          obtain ⟨decoded, loaded, rfl⟩ := except_map_ok.mp first
          cases decoded with
          | none => exact .inert ⟨other, fun _ => loaded⟩
          | some json => exact .decoded json ⟨other, opens, loaded⟩ ((coerceValue_fixed_iff nested json).mp second)
        · exact .inert ⟨other, fun opened => absurd opened opens⟩
  · intro settles
    by_cases truth : reader.Truth text
    · exact ⟨_, coerceText_truth truth, rfl⟩
    · cases settles with
      | truth words => exact absurd words truth
      | number digits n read =>
        refine ⟨.int n, ?_, rfl⟩
        rw [coerceText_digits truth digits, read]
        rfl
      | inert inert => exact ⟨.str text, coerceText_inert inert, coerceText_inert inert⟩
      | decoded json decodes inert =>
        exact ⟨json, coerceText_decodes decodes, (coerceValue_fixed_iff nested json).mpr inert⟩

theorem stays_map_iff {α : Type} {f : α → Except PyExc α} {wrap : α → Json} (one : Function.Injective wrap)
    (into : ∀ a, reader.coerceValue (wrap a) = wrap <$> f a) (a : α) :
    (∃ out, reader.coerceValue (wrap a) = .ok out ∧ reader.coerceValue out = .ok out) ↔
      ∃ made, f a = .ok made ∧ f made = .ok made := by
  constructor
  · rintro ⟨out, first, second⟩
    rw [into] at first
    obtain ⟨made, coerced, rfl⟩ := except_map_ok.mp first
    rw [into] at second
    obtain ⟨again, kept, same⟩ := except_map_ok.mp second
    rw [one same] at kept
    exact ⟨made, coerced, kept⟩
  · rintro ⟨made, first, second⟩
    refine ⟨wrap made, ?_, ?_⟩
    · rw [into]
      exact except_map_ok.mpr ⟨made, first, rfl⟩
    · rw [into]
      exact except_map_ok.mpr ⟨made, second, rfl⟩

mutual

theorem coerceValue_stable_iff (nested : reader.DecodesNested) : ∀ value : Json,
    (∃ out, reader.coerceValue value = .ok out ∧ reader.coerceValue out = .ok out) ↔
      ∀ text ∈ value.texts, reader.Settles text
  | .null | .bool _ | .int _ | .float _ => by simp [coerceValue, Json.texts]
  | .str text => by
    rw [Json.texts, List.forall_mem_singleton, ← settles_iff nested]
    rfl
  | .arr items => by
    rw [Json.texts, ← coerceItems_stable_iff nested items]
    exact stays_map_iff (fun _ _ => Json.arr.inj) (fun _ => rfl) items
  | .obj fields => by
    rw [Json.texts, ← coerceFields_stable_iff nested fields]
    exact stays_map_iff (fun _ _ => Json.obj.inj) (fun _ => rfl) fields

theorem coerceItems_stable_iff (nested : reader.DecodesNested) : ∀ items : List Json,
    (∃ out, reader.coerceItems items = .ok out ∧ reader.coerceItems out = .ok out) ↔
      ∀ text ∈ Json.textsItems items, reader.Settles text
  | [] => by simp [coerceItems, Json.textsItems]
  | item :: rest => by
    rw [Json.textsItems, List.forall_mem_append, ← coerceValue_stable_iff nested item,
      ← coerceItems_stable_iff nested rest]
    constructor
    · rintro ⟨out, first, second⟩
      obtain ⟨made, others, head, tail, rfl⟩ := coerceItems_cons_ok.mp first
      obtain ⟨again, more, stays, stay, same⟩ := coerceItems_cons_ok.mp second
      obtain ⟨rfl, rfl⟩ := List.cons.inj same
      exact ⟨⟨made, head, stays⟩, others, tail, stay⟩
    · rintro ⟨⟨made, head, stays⟩, others, tail, stay⟩
      exact ⟨made :: others, coerceItems_cons_ok.mpr ⟨made, others, head, tail, rfl⟩,
        coerceItems_cons_ok.mpr ⟨made, others, stays, stay, rfl⟩⟩

theorem coerceFields_stable_iff (nested : reader.DecodesNested) : ∀ args : JsonDict,
    (∃ out, reader.coerceToolArgs args = .ok out ∧ reader.coerceToolArgs out = .ok out) ↔
      ∀ text ∈ Json.textsFields args, reader.Settles text
  | [] => by simp [coerceToolArgs, Json.textsFields]
  | (key, value) :: rest => by
    rw [Json.textsFields, List.forall_mem_append, ← coerceValue_stable_iff nested value,
      ← coerceFields_stable_iff nested rest]
    constructor
    · rintro ⟨out, first, second⟩
      obtain ⟨made, others, head, tail, rfl⟩ := coerceToolArgs_cons_ok.mp first
      obtain ⟨again, more, stays, stay, same⟩ := coerceToolArgs_cons_ok.mp second
      obtain ⟨field, rfl⟩ := List.cons.inj same
      obtain ⟨-, rfl⟩ := Prod.mk.inj field
      exact ⟨⟨made, head, stays⟩, others, tail, stay⟩
    · rintro ⟨⟨made, head, stays⟩, others, tail, stay⟩
      exact ⟨(key, made) :: others, coerceToolArgs_cons_ok.mpr ⟨made, others, head, tail, rfl⟩,
        coerceToolArgs_cons_ok.mpr ⟨made, others, stays, stay, rfl⟩⟩

end

/-- `coerce_tool_args` returns, and leaves what it returned as it is. -/
def Stable (reader : TextReader) (args : JsonDict) : Prop :=
  ∃ out, reader.coerceToolArgs args = .ok out ∧ reader.coerceToolArgs out = .ok out

/-- No text of digits may be one that `int` refuses, no JSON text one for which `loads` raises what is not caught, and
    none may hold a string that is coerced in turn. -/
theorem coercion_stable_iff (reader : TextReader) (nested : reader.DecodesNested) (args : JsonDict) :
    reader.Stable args ↔ ∀ text ∈ Json.textsFields args, reader.Settles text := coerceFields_stable_iff nested args

/-- ASCII digits and the superscripts of Latin-1, which `str.isdigit` accepts and `int` does not. -/
def latinReader : TextReader where
  lower text := String.ofList (text.toList.map Char.toLower)
  isDigit text := text ≠ "" && text.toList.all fun c => c.isDigit || c ∈ ['²', '³', '¹']
  int text :=
    if text.toList.all Char.isDigit then .ok (text.toList.foldl (fun n c => 10 * n + (c.toNat - 48)) 0 : Nat)
    else .error (.exception ("invalid literal for int() with base 10: \x27" ++ text ++ "\x27"))
  loads text := .ok (
    if text = "[\"5\"]" then some (.arr [.str "5"])
    else if text = "[22, 80]" then some (.arr [.int 22, .int 80])
    else none)

theorem latinReader_nested : latinReader.DecodesNested := by
  intro text json _ loaded inner
  unfold latinReader at loaded
  rintro rfl
  have decoded := Except.ok.inj loaded
  split_ifs at decoded <;> cases decoded

theorem port_args_stable : latinReader.DecodesNested ∧
    latinReader.Stable [("limit", .str " 5 "), ("ports", .str "[22, 80]"), ("host", .str "web-1")] := by
  refine ⟨latinReader_nested, (coercion_stable_iff latinReader latinReader_nested _).mpr ?_⟩
  intro text member
  have cases : text = " 5 " ∨ text = "[22, 80]" ∨ text = "web-1" := by
    simpa [Json.textsFields, Json.texts] using member
  rcases cases with rfl | rfl | rfl
  · exact .number (by decide +kernel) 5 (by decide +kernel)
  · refine .decoded (.arr [.int 22, .int 80]) ⟨?_, .inl (by decide +kernel), by decide +kernel⟩ nofun
    unfold Word
    decide +kernel
  · refine .inert ⟨?_, fun opens => absurd opens ?_⟩
    · unfold Word
      decide +kernel
    · unfold Opens
      decide +kernel

/-- A superscript is no integer, and a string inside a JSON text is coerced by the second pass only. -/
theorem coercion_raises_or_moves :
    latinReader.coerceToolArgs [("limit", .str "²")] =
      .error (.exception "invalid literal for int() with base 10: \x27²\x27") ∧
    latinReader.coerceToolArgs [("ports", .str "[\"5\"]")] = .ok [("ports", .arr [.str "5"])] ∧
    latinReader.coerceToolArgs [("ports", .arr [.str "5"])] = .ok [("ports", .arr [.int 5])] ∧
    ¬ (∀ args, latinReader.Stable args) := by
  have raised : latinReader.coerceToolArgs [("limit", .str "²")] =
      .error (.exception "invalid literal for int() with base 10: \x27²\x27") := by decide +kernel
  refine ⟨raised, by decide +kernel, by decide +kernel, fun claimed => ?_⟩
  obtain ⟨out, coerced, -⟩ := claimed [("limit", .str "²")]
  rw [raised] at coerced
  cases coerced

end TextReader

end CysAgi
