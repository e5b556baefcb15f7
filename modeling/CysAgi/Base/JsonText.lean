import Mathlib.Data.List.Sort
import Mathlib.Data.String.Basic
import CysAgi.Base.Json
import CysAgi.Base.JsonEscape
import CysAgi.Base.Readable

namespace Py

open Readable

def literal : List Char → List Char
  | [] => ['"']
  | c :: rest => escape c ++ literal rest

def quote (text : String) : List Char := '"' :: literal text.toList

theorem reads_literal (cs : List Char) : Reads (fun _ => True) literal cs := by
  induction cs with
  | nil =>
    intro ds r s _ _ same
    cases ds with
    | nil => exact ⟨rfl, (List.cons.inj same).2⟩
    | cons d ds =>
      have read := readChar_escape d (literal ds ++ s)
      rw [← List.append_assoc] at read
      change readChar (literal (d :: ds) ++ s) = _ at read
      rw [← same] at read
      cases read
  | cons c cs ih =>
    intro ds r s _ _ same
    cases ds with
    | nil =>
      have read := readChar_escape c (literal cs ++ r)
      rw [← List.append_assoc] at read
      change readChar (literal (c :: cs) ++ r) = _ at read
      rw [same] at read
      cases read
    | cons d ds =>
      simp only [literal, List.append_assoc] at same
      have first : Reads (fun _ => True) escape c := reads_of_decoder (Option.some_injective Char) readChar_escape c
      obtain ⟨rfl, rest⟩ := first d _ _ trivial trivial same
      obtain ⟨rfl, rfl⟩ := ih ds r s trivial trivial rest
      exact ⟨rfl, rfl⟩

theorem reads_quote (text : String) : Reads (fun _ => True) quote text := by
  intro other r s _ _ same
  obtain ⟨letters, rest⟩ := reads_literal text.toList other.toList r s trivial trivial (List.cons.inj same).2
  exact ⟨String.toList_inj.mp letters, rest⟩

def intText (n : Int) : List Char :=
  if n < 0 then '-' :: Nat.toDigits 10 n.natAbs else Nat.toDigits 10 n.natAbs

def numberChar (c : Char) : Bool := c.isDigit || c = '-' || c = '+' || c = '.' || c = 'e'

def integralChar (c : Char) : Bool := c.isDigit || c = '-'

theorem intText_integral (n : Int) : ∀ c ∈ intText n, integralChar c = true := by
  have digits : ∀ c ∈ Nat.toDigits 10 n.natAbs, integralChar c = true := by
    intro c member
    have digit := Nat.isDigit_of_mem_toDigits (by decide) (by decide) member
    simp [integralChar, digit]
  unfold intText
  split_ifs
  · intro c member
    rcases List.mem_cons.mp member with rfl | member
    · rfl
    · exact digits c member
  · exact digits

theorem intText_chars (n : Int) : ∀ c ∈ intText n, numberChar c = true := by
  intro c member
  have integral := intText_integral n c member
  unfold integralChar at integral
  unfold numberChar
  rw [integral]
  rfl

theorem intText_ne_nil (n : Int) : intText n ≠ [] := by
  unfold intText
  split_ifs
  · exact List.cons_ne_nil _ _
  · exact Nat.toDigits_ne_nil

theorem toDigits_inj {m n : Nat} (same : Nat.toDigits 10 m = Nat.toDigits 10 n) : m = n := by
  have value := congrArg (fun digits => Nat.ofDigitChars 10 digits 0) same
  simpa only [Nat.ofDigitChars_ten_toDigits] using value

theorem intText_inj {m n : Int} (same : intText m = intText n) : m = n := by
  have minus : ∀ k, '-' ∉ Nat.toDigits 10 k := by
    intro k member
    have digit := Nat.isDigit_of_mem_toDigits (by decide) (by decide) member
    exact absurd digit (by decide)
  unfold intText at same
  split_ifs at same with first second second
  · have size := toDigits_inj (List.cons.inj same).2
    omega
  · exact absurd (by rw [← same]; exact List.mem_cons_self) (minus n.natAbs)
  · exact absurd (by rw [same]; exact List.mem_cons_self) (minus m.natAbs)
  · have size := toDigits_inj same
    omega

/-- `float.__repr__` on finite floats: the text of a number that is not one of an integer, and a
    float's own. -/
structure FloatRepr where
  text : Rat → List Char
  chars : ∀ value, ∀ c ∈ text value, numberChar c = true
  nonempty : ∀ value, text value ≠ []
  notInt : ∀ value n, text value ≠ intText n
  injective : ∀ {a b}, text a = text b → a = b

theorem digits_chars (n : Nat) : ∀ c ∈ Nat.toDigits 10 n, numberChar c = true := by
  intro c member
  have digit := Nat.isDigit_of_mem_toDigits (by decide) (by decide) member
  simp [numberChar, digit]

/-- A `FloatRepr`: the exact value with its denominator as the exponent. -/
def fractions : FloatRepr where
  text value := intText value.num ++ 'e' :: Nat.toDigits 10 value.den
  chars value c member := by
    rcases List.mem_append.mp member with member | member
    · exact intText_chars _ c member
    · rcases List.mem_cons.mp member with rfl | member
      · rfl
      · exact digits_chars _ c member
  nonempty value := List.append_ne_nil_of_left_ne_nil (intText_ne_nil _) _
  notInt value n same := by
    have exponent : 'e' ∈ intText n := by
      rw [← same]
      exact List.mem_append_right _ List.mem_cons_self
    exact absurd (intText_integral n 'e' exponent) (by decide)
  injective {a b} same := by
    have exponent : ∀ (digits : List Char), ∀ c ∈ ('e' :: digits).head?, integralChar c = false := by
      intro digits c first
      cases first
      rfl
    obtain ⟨num, den⟩ := span_unique (intText_integral a.num) (intText_integral b.num) (exponent _) (exponent _) same
    exact Rat.ext (intText_inj num) (toDigits_inj (List.cons.inj den).2)

mutual

def render (floats : FloatRepr) : Json → List Char
  | .null => ['n', 'u', 'l', 'l']
  | .bool true => ['t', 'r', 'u', 'e']
  | .bool false => ['f', 'a', 'l', 's', 'e']
  | .int n => intText n
  | .float value => floats.text value
  | .str text => quote text
  | .arr [] => ['[', ']']
  | .arr (item :: items) => '[' :: (render floats item ++ renderItems floats items)
  | .obj [] => ['{', '}']
  | .obj ((key, value) :: fields) => '{' :: (quote key ++ (':' :: render floats value) ++ renderFields floats fields)

def renderItems (floats : FloatRepr) : List Json → List Char
  | [] => [']']
  | item :: items => ',' :: (render floats item ++ renderItems floats items)

def renderFields (floats : FloatRepr) : JsonDict → List Char
  | [] => ['}']
  | (key, value) :: fields => ',' :: (quote key ++ (':' :: render floats value) ++ renderFields floats fields)

end

def renderField (floats : FloatRepr) (field : String × Json) : List Char :=
  quote field.1 ++ (':' :: render floats field.2)

theorem renderItems_eq (floats : FloatRepr) (items : List Json) :
    renderItems floats items = closed ',' ']' (render floats) items := by
  induction items with
  | nil => rw [renderItems, closed]
  | cons item items ih => rw [renderItems, closed, ih]

theorem renderFields_eq (floats : FloatRepr) (fields : JsonDict) :
    renderFields floats fields = closed ',' '}' (renderField floats) fields := by
  induction fields with
  | nil => rw [renderFields, closed]
  | cons field fields ih => rw [renderFields, closed, ih, renderField]

def Ended (rest : List Char) : Prop := ∀ c ∈ rest.head?, c = ',' ∨ c = ']' ∨ c = '}'

inductive Kind where
  | null
  | yes
  | no
  | number
  | text
  | list
  | dict
  | other
  deriving DecidableEq

def Json.kind : Json → Kind
  | .null => .null
  | .bool true => .yes
  | .bool false => .no
  | .int _ => .number
  | .float _ => .number
  | .str _ => .text
  | .arr _ => .list
  | .obj _ => .dict

theorem Json.number_of_kind {a : Json} (kind : a.kind = .number) : (∃ n, a = .int n) ∨ ∃ value, a = .float value := by
  cases a with
  | int n => exact .inl ⟨n, rfl⟩
  | float value => exact .inr ⟨value, rfl⟩
  | bool value => cases value <;> cases kind
  | _ => cases kind

theorem Json.str_of_kind {a : Json} (kind : a.kind = .text) : ∃ text, a = .str text := by
  cases a with
  | str text => exact ⟨text, rfl⟩
  | bool value => cases value <;> cases kind
  | _ => cases kind

theorem Json.arr_of_kind {a : Json} (kind : a.kind = .list) : ∃ items, a = .arr items := by
  cases a with
  | arr items => exact ⟨items, rfl⟩
  | bool value => cases value <;> cases kind
  | _ => cases kind

theorem Json.obj_of_kind {a : Json} (kind : a.kind = .dict) : ∃ fields, a = .obj fields := by
  cases a with
  | obj fields => exact ⟨fields, rfl⟩
  | bool value => cases value <;> cases kind
  | _ => cases kind

def kindOf (c : Char) : Kind :=
  if c = 'n' then .null
  else if c = 't' then .yes
  else if c = 'f' then .no
  else if c = '"' then .text
  else if c = '[' then .list
  else if c = '{' then .dict
  else if numberChar c then .number
  else .other

section

variable {floats : FloatRepr}

theorem kindOf_number {c : Char} (number : numberChar c = true) : kindOf c = .number := by
  have apart : ∀ d, numberChar d = false → c ≠ d := by
    rintro d other rfl
    rw [number] at other
    cases other
  rw [kindOf, if_neg (apart _ (by decide)), if_neg (apart _ (by decide)), if_neg (apart _ (by decide)),
    if_neg (apart _ (by decide)), if_neg (apart _ (by decide)), if_neg (apart _ (by decide)), if_pos number]

theorem number_chars {a : Json} (number : a.kind = .number) : ∀ c ∈ render floats a, numberChar c = true := by
  rcases Json.number_of_kind number with ⟨n, rfl⟩ | ⟨value, rfl⟩
  · rw [render]
    exact intText_chars n
  · rw [render]
    exact floats.chars value

theorem number_ne_nil {a : Json} (number : a.kind = .number) : render floats a ≠ [] := by
  rcases Json.number_of_kind number with ⟨n, rfl⟩ | ⟨value, rfl⟩
  · rw [render]
    exact intText_ne_nil n
  · rw [render]
    exact floats.nonempty value

theorem number_inj {a b : Json} (numberA : a.kind = .number) (numberB : b.kind = .number)
    (same : render floats a = render floats b) : a = b := by
  rcases Json.number_of_kind numberA with ⟨m, rfl⟩ | ⟨value, rfl⟩
  · rcases Json.number_of_kind numberB with ⟨n, rfl⟩ | ⟨other, rfl⟩
    · rw [render, render] at same
      rw [intText_inj same]
    · rw [render, render] at same
      exact absurd same.symm (floats.notInt other m)
  · rcases Json.number_of_kind numberB with ⟨n, rfl⟩ | ⟨other, rfl⟩
    · rw [render, render] at same
      exact absurd same (floats.notInt value n)
    · rw [render, render] at same
      rw [floats.injective same]

theorem render_kind (floats : FloatRepr) (a : Json) : ∃ c rest, render floats a = c :: rest ∧ kindOf c = a.kind := by
  by_cases number : a.kind = .number
  · obtain ⟨c, rest, text⟩ : ∃ c rest, render floats a = c :: rest := List.exists_cons_of_ne_nil (number_ne_nil number)
    refine ⟨c, rest, text, ?_⟩
    rw [number]
    exact kindOf_number (number_chars number c (by rw [text]; exact List.mem_cons_self))
  · cases a with
    | null => exact ⟨_, _, by rw [render], rfl⟩
    | bool value => cases value <;> exact ⟨_, _, by rw [render], rfl⟩
    | int n => exact absurd rfl number
    | float value => exact absurd rfl number
    | str text => exact ⟨_, _, by rw [render, quote], rfl⟩
    | arr items => cases items <;> exact ⟨_, _, by rw [render], rfl⟩
    | obj fields => cases fields <;> exact ⟨_, _, by rw [render], rfl⟩

theorem same_kind {a b : Json} {r s : List Char} (same : render floats a ++ r = render floats b ++ s) :
    a.kind = b.kind := by
  obtain ⟨c, rest, textA, kindA⟩ := render_kind floats a
  obtain ⟨d, rest', textB, kindB⟩ := render_kind floats b
  rw [textA, textB] at same
  rw [← kindA, ← kindB, (List.cons.inj same).1]

theorem ended_not_number {rest : List Char} (ended : Ended rest) : ∀ c ∈ rest.head?, numberChar c = false := by
  intro c first
  rcases ended c first with rfl | rfl | rfl <;> decide

theorem reads_number {a : Json} (number : a.kind = .number) : Reads Ended (render floats) a := by
  intro b r s endR endS same
  have numberB : b.kind = .number := (same_kind same).symm.trans number
  obtain ⟨text, rest⟩ := span_unique (number_chars number) (number_chars numberB) (ended_not_number endR)
    (ended_not_number endS) same
  exact ⟨number_inj number numberB text, rest⟩

theorem ended_comma (rest : List Char) : Ended (',' :: rest) := by
  intro c first
  exact .inl (Option.some.inj first).symm

theorem ended_bracket (rest : List Char) : Ended (']' :: rest) := by
  intro c first
  exact .inr (.inl (Option.some.inj first).symm)

theorem ended_brace (rest : List Char) : Ended ('}' :: rest) := by
  intro c first
  exact .inr (.inr (Option.some.inj first).symm)

theorem render_ne_bracket (a : Json) (r s : List Char) : render floats a ++ r ≠ ']' :: s := by
  intro same
  obtain ⟨c, rest, text, kind⟩ := render_kind floats a
  rw [text] at same
  rw [(List.cons.inj same).1] at kind
  cases a with
  | bool value => cases value <;> cases kind
  | _ => cases kind

theorem reads_list {items : List Json} (each : ∀ item ∈ items, Reads Ended (render floats) item) :
    Reads Ended (render floats) (.arr items) := by
  intro b r s _ _ same
  obtain ⟨others, rfl⟩ := Json.arr_of_kind (same_kind same).symm
  cases items with
  | nil =>
    cases others with
    | nil =>
      simp only [render, List.cons_append, List.nil_append, List.cons.injEq, true_and] at same
      exact ⟨rfl, same⟩
    | cons other others =>
      simp only [render, List.cons_append, List.nil_append, List.cons.injEq, true_and, List.append_assoc] at same
      exact absurd same.symm (render_ne_bracket other _ _)
  | cons item items =>
    cases others with
    | nil =>
      simp only [render, List.cons_append, List.nil_append, List.cons.injEq, true_and, List.append_assoc] at same
      exact absurd same (render_ne_bracket item _ _)
    | cons other others =>
      simp only [render, renderItems_eq, List.cons_append, List.cons.injEq, true_and] at same
      have whole : closed ',' ']' (render floats) (item :: items) ++ r =
          closed ',' ']' (render floats) (other :: others) ++ s := by
        simp only [closed, List.cons_append, List.cons.injEq, true_and]
        exact same
      obtain ⟨equal, rest⟩ := reads_closed (by decide) ended_comma ended_bracket each _ _ _ trivial trivial whole
      rw [equal]
      exact ⟨rfl, rest⟩

theorem reads_dict {fields : JsonDict} (each : ∀ field ∈ fields, Reads Ended (renderField floats) field) :
    Reads Ended (render floats) (.obj fields) := by
  intro b r s _ _ same
  obtain ⟨others, rfl⟩ := Json.obj_of_kind (same_kind same).symm
  cases fields with
  | nil =>
    cases others with
    | nil =>
      simp only [render, List.cons_append, List.nil_append, List.cons.injEq, true_and] at same
      exact ⟨rfl, same⟩
    | cons other others =>
      simp only [render, quote, List.cons_append, List.nil_append, List.cons.injEq, true_and] at same
      exact absurd same.1 (by decide)
  | cons field fields =>
    cases others with
    | nil =>
      simp only [render, quote, List.cons_append, List.nil_append, List.cons.injEq, true_and] at same
      exact absurd same.1 (by decide)
    | cons other others =>
      simp only [render, renderFields_eq, List.cons_append, List.cons.injEq, true_and] at same
      have whole : closed ',' '}' (renderField floats) (field :: fields) ++ r =
          closed ',' '}' (renderField floats) (other :: others) ++ s := by
        simp only [closed, renderField, List.cons_append, List.cons.injEq, true_and]
        exact same
      obtain ⟨equal, rest⟩ := reads_closed (by decide) ended_comma ended_brace each _ _ _ trivial trivial whole
      rw [equal]
      exact ⟨rfl, rest⟩

theorem reads_atom {a : Json} (atom : a.kind = .null ∨ a.kind = .yes ∨ a.kind = .no) :
    Reads Ended (render floats) a := by
  intro b r s _ _ same
  have kind := same_kind same
  have equal : a = b := by
    cases a with
    | null =>
      cases b with
      | null => rfl
      | bool value => cases value <;> cases kind
      | _ => cases kind
    | bool value =>
      cases b with
      | bool other => cases value <;> cases other <;> first | rfl | cases kind
      | _ => cases value <;> cases kind
    | _ => rcases atom with atom | atom | atom <;> cases atom
  rw [equal] at same ⊢
  exact ⟨rfl, List.append_cancel_left same⟩

theorem reads_text (text : String) : Reads Ended (render floats) (.str text) := by
  intro b r s _ _ same
  obtain ⟨other, rfl⟩ := Json.str_of_kind (same_kind same).symm
  rw [render, render] at same
  obtain ⟨rfl, rest⟩ := reads_quote text other r s trivial trivial same
  exact ⟨rfl, rest⟩

theorem reads_field {field : String × Json} (value : Reads Ended (render floats) field.2) :
    Reads Ended (renderField floats) field := by
  have colon : Reads Ended (fun v => ':' :: render floats v) field.2 := by
    intro b r s endR endS same
    exact value b r s endR endS (List.cons.inj same).2
  exact (reads_quote field.1).pair colon

end

mutual

theorem reads_render (floats : FloatRepr) : (a : Json) → Reads Ended (render floats) a
  | .null => reads_atom (.inl rfl)
  | .bool true => reads_atom (.inr (.inl rfl))
  | .bool false => reads_atom (.inr (.inr rfl))
  | .int _ => reads_number rfl
  | .float _ => reads_number rfl
  | .str text => reads_text text
  | .arr items => reads_list (reads_items floats items)
  | .obj fields => reads_dict (reads_fields floats fields)

theorem reads_items (floats : FloatRepr) : (items : List Json) → ∀ item ∈ items, Reads Ended (render floats) item
  | [], _, member => by cases member
  | item :: items, other, member => by
    have here := reads_render floats item
    have later := reads_items floats items
    rcases List.mem_cons.mp member with same | member
    · rw [same]
      exact here
    · exact later other member

theorem reads_fields (floats : FloatRepr) : (fields : JsonDict) →
    ∀ field ∈ fields, Reads Ended (renderField floats) field
  | [], _, member => by cases member
  | (key, value) :: fields, other, member => by
    have here := reads_render floats value
    have later := reads_fields floats fields
    rcases List.mem_cons.mp member with same | member
    · rw [same]
      exact reads_field here
    · exact later other member

end

theorem render_inj {floats : FloatRepr} {a b : Json} (same : render floats a = render floats b) : a = b :=
  (reads_render floats a).inj (fun c first => by cases first) same

mutual

def Json.sorted : Json → Json
  | .arr items => .arr (Json.sortedItems items)
  | .obj fields => .obj ((Json.sortedFields fields).insertionSort fun a b => a.1 ≤ b.1)
  | value => value

def Json.sortedItems : List Json → List Json
  | [] => []
  | item :: items => item.sorted :: Json.sortedItems items

def Json.sortedFields : JsonDict → JsonDict
  | [] => []
  | (key, value) :: fields => (key, value.sorted) :: Json.sortedFields fields

end

/-- `json.dumps(value, sort_keys=True, separators=(",", ":"))`. -/
def dumps (floats : FloatRepr) (value : Json) : String := String.ofList (render floats value.sorted)

theorem dumps_eq_iff {floats : FloatRepr} {a b : Json} : dumps floats a = dumps floats b ↔ a.sorted = b.sorted := by
  constructor
  · intro same
    exact render_inj (String.ofList_inj.mp same)
  · intro same
    rw [dumps, dumps, same]

theorem Json.sortedFields_eq (fields : JsonDict) :
    Json.sortedFields fields = fields.map fun field => (field.1, field.2.sorted) := by
  induction fields with
  | nil => rfl
  | cons field fields ih => rw [Json.sortedFields, ih, List.map_cons]

theorem Json.sorted_obj_perm {a b : JsonDict} (same : (Json.obj a).sorted = (Json.obj b).sorted) :
    (a.map fun field => (field.1, field.2.sorted)).Perm (b.map fun field => (field.1, field.2.sorted)) := by
  rw [Json.sorted, Json.sorted, Json.obj.injEq, Json.sortedFields_eq, Json.sortedFields_eq] at same
  have sortedA := List.perm_insertionSort (fun x y : String × Json => x.1 ≤ y.1)
    (a.map fun field => (field.1, field.2.sorted))
  have sortedB := List.perm_insertionSort (fun x y : String × Json => x.1 ≤ y.1)
    (b.map fun field => (field.1, field.2.sorted))
  rw [same] at sortedA
  exact sortedA.symm.trans sortedB

theorem Json.sorted_eq_str {value : Json} {text : String} (same : value.sorted = .str text) : value = .str text := by
  cases value with
  | str other => exact same
  | arr items => cases same
  | obj fields => cases same
  | _ => cases same

end Py
