import CysAgi.Base.JsonText
import CysAgi.Base.Occurrences

namespace Py

inductive Chunk where
  | signs (text : List Char)
  | string (text : String)

def Chunk.text : Chunk → List Char
  | .signs text => text
  | .string text => quote text

mutual

/-- `iterencode`, with the separators it has of its own. -/
def chunks (floats : FloatRepr) : Json → List Chunk
  | .null => [.signs ['n', 'u', 'l', 'l']]
  | .bool true => [.signs ['t', 'r', 'u', 'e']]
  | .bool false => [.signs ['f', 'a', 'l', 's', 'e']]
  | .int n => [.signs (intText n)]
  | .float value => [.signs (floats.text value)]
  | .str text => [.string text]
  | .arr [] => [.signs ['[', ']']]
  | .arr (item :: items) => .signs ['['] :: (chunks floats item ++ chunksItems floats items)
  | .obj [] => [.signs ['{', '}']]
  | .obj ((key, value) :: fields) =>
    .signs ['{'] :: .string key :: .signs [':', ' '] :: (chunks floats value ++ chunksFields floats fields)

def chunksItems (floats : FloatRepr) : List Json → List Chunk
  | [] => [.signs [']']]
  | item :: items => .signs [',', ' '] :: (chunks floats item ++ chunksItems floats items)

def chunksFields (floats : FloatRepr) : JsonDict → List Chunk
  | [] => [.signs ['}']]
  | (key, value) :: fields =>
    .signs [',', ' '] :: .string key :: .signs [':', ' '] :: (chunks floats value ++ chunksFields floats fields)

end

def jsonDumps (floats : FloatRepr) (value : Json) : String := String.ofList ((chunks floats value).flatMap Chunk.text)

mutual

def Json.strings : Json → List String
  | .str text => [text]
  | .arr items => Json.stringsItems items
  | .obj fields => Json.stringsFields fields
  | _ => []

def Json.stringsItems : List Json → List String
  | [] => []
  | item :: items => item.strings ++ Json.stringsItems items

def Json.stringsFields : JsonDict → List String
  | [] => []
  | (key, value) :: fields => key :: (value.strings ++ Json.stringsFields fields)

end

def escaped (text : String) : String := String.ofList (text.toList.flatMap escape)

theorem quote_eq (text : String) : quote text = '"' :: ((escaped text).toList ++ ['"']) := by
  have closed : ∀ cs, literal cs = cs.flatMap escape ++ ['"'] := by
    intro cs
    induction cs with
    | nil => rfl
    | cons c rest ih => rw [literal, ih, List.flatMap_cons, List.append_assoc]
  rw [quote, closed, escaped, String.toList_ofList]

def signChar (c : Char) : Bool :=
  numberChar c || c ∈ ['n', 'u', 'l', 't', 'r', 'f', 'a', 's', '[', ']', '{', '}', ':', ',', ' ']

def Chunk.Plain : Chunk → Prop
  | .signs text => ∀ c ∈ text, signChar c = true
  | .string _ => True

theorem plain_number {text : List Char} (number : ∀ c ∈ text, numberChar c = true) : (Chunk.signs text).Plain := by
  intro c member
  rw [signChar, number c member]
  rfl

theorem plain_signs {text : List Char} (signs : text.all signChar = true) : (Chunk.signs text).Plain :=
  List.all_eq_true.mp signs

mutual

theorem plain_chunks (floats : FloatRepr) : ∀ value : Json, ∀ chunk ∈ chunks floats value, chunk.Plain
  | .null => List.forall_mem_singleton.mpr (plain_signs (by decide))
  | .bool true => List.forall_mem_singleton.mpr (plain_signs (by decide))
  | .bool false => List.forall_mem_singleton.mpr (plain_signs (by decide))
  | .int n => List.forall_mem_singleton.mpr (plain_number (intText_chars n))
  | .float value => List.forall_mem_singleton.mpr (plain_number (floats.chars value))
  | .str text => List.forall_mem_singleton.mpr trivial
  | .arr [] => List.forall_mem_singleton.mpr (plain_signs (by decide))
  | .arr (item :: items) => List.forall_mem_cons.mpr
      ⟨plain_signs (by decide), List.forall_mem_append.mpr ⟨plain_chunks floats item, plain_items floats items⟩⟩
  | .obj [] => List.forall_mem_singleton.mpr (plain_signs (by decide))
  | .obj ((key, value) :: fields) => List.forall_mem_cons.mpr ⟨plain_signs (by decide), List.forall_mem_cons.mpr
      ⟨trivial, List.forall_mem_cons.mpr
        ⟨plain_signs (by decide), List.forall_mem_append.mpr ⟨plain_chunks floats value, plain_fields floats fields⟩⟩⟩⟩

theorem plain_items (floats : FloatRepr) : ∀ items : List Json, ∀ chunk ∈ chunksItems floats items, chunk.Plain
  | [] => List.forall_mem_singleton.mpr (plain_signs (by decide))
  | item :: items => List.forall_mem_cons.mpr
      ⟨plain_signs (by decide), List.forall_mem_append.mpr ⟨plain_chunks floats item, plain_items floats items⟩⟩

theorem plain_fields (floats : FloatRepr) : ∀ fields : JsonDict, ∀ chunk ∈ chunksFields floats fields, chunk.Plain
  | [] => List.forall_mem_singleton.mpr (plain_signs (by decide))
  | (key, value) :: fields => List.forall_mem_cons.mpr ⟨plain_signs (by decide), List.forall_mem_cons.mpr
      ⟨trivial, List.forall_mem_cons.mpr
        ⟨plain_signs (by decide), List.forall_mem_append.mpr ⟨plain_chunks floats value, plain_fields floats fields⟩⟩⟩⟩

end

mutual

theorem string_mem_chunks (floats : FloatRepr) (text : String) :
    ∀ value : Json, .string text ∈ chunks floats value ↔ text ∈ value.strings
  | .null => by simp [chunks, Json.strings]
  | .bool true => by simp [chunks, Json.strings]
  | .bool false => by simp [chunks, Json.strings]
  | .int n => by simp [chunks, Json.strings]
  | .float value => by simp [chunks, Json.strings]
  | .str other => by simp [chunks, Json.strings]
  | .arr [] => by simp [chunks, Json.strings, Json.stringsItems]
  | .arr (item :: items) => by
    simp [chunks, Json.strings, Json.stringsItems, string_mem_chunks floats text item,
      string_mem_items floats text items]
  | .obj [] => by simp [chunks, Json.strings, Json.stringsFields]
  | .obj ((key, value) :: fields) => by
    simp [chunks, Json.strings, Json.stringsFields, string_mem_chunks floats text value,
      string_mem_fields floats text fields]

theorem string_mem_items (floats : FloatRepr) (text : String) :
    ∀ items : List Json, .string text ∈ chunksItems floats items ↔ text ∈ Json.stringsItems items
  | [] => by simp [chunksItems, Json.stringsItems]
  | item :: items => by
    simp [chunksItems, Json.stringsItems, string_mem_chunks floats text item, string_mem_items floats text items]

theorem string_mem_fields (floats : FloatRepr) (text : String) :
    ∀ fields : JsonDict, .string text ∈ chunksFields floats fields ↔ text ∈ Json.stringsFields fields
  | [] => by simp [chunksFields, Json.stringsFields]
  | (key, value) :: fields => by
    simp [chunksFields, Json.stringsFields, string_mem_chunks floats text value, string_mem_fields floats text fields]

end

section

variable {word : List Char} {f : Char → Char} (free : '"' ∉ word) (quoteKept : f '"' = '"') {own : Char}
  (inside : own ∈ word) (unsigned : ∀ d, signChar d = true → f d ≠ own)

include free quoteKept inside unsigned

theorem infix_chunks {written : List Chunk} (plain : ∀ chunk ∈ written, chunk.Plain) {before : List Char}
    (signs : ∀ c ∈ before, signChar c = true) :
    word <:+: (before ++ written.flatMap Chunk.text).map f ↔
      ∃ text, .string text ∈ written ∧ word <:+: (escaped text).toList.map f := by
  have nonempty : word ≠ [] := List.ne_nil_of_mem inside
  have apart : ∀ {before : List Char}, (∀ c ∈ before, signChar c = true) → ¬ word <:+: before.map f := by
    intro before signs found
    obtain ⟨d, member, same⟩ := List.mem_map.mp (found.subset inside)
    exact unsigned d (signs d member) same
  induction written generalizing before with
  | nil =>
    rw [List.flatMap_nil, List.append_nil]
    exact ⟨fun found => absurd found (apart signs), nofun⟩
  | cons chunk written ih =>
    rw [List.forall_mem_cons] at plain
    rw [List.flatMap_cons]
    cases chunk with
    | signs text =>
      have later := ih plain.2 (List.forall_mem_append.mpr ⟨signs, plain.1⟩)
      rw [Chunk.text, ← List.append_assoc]
      refine later.trans ?_
      simp
    | string text =>
      have later := ih plain.2 (List.forall_mem_nil _)
      rw [Chunk.text, quote_eq, List.cons_append, List.append_assoc, List.cons_append, List.nil_append, List.map_append,
        List.map_cons, List.map_append, List.map_cons, quoteKept, Occurrences.infix_separated nonempty free,
        Occurrences.infix_separated nonempty free]
      rw [List.nil_append] at later
      simp [apart signs, later]

end

theorem hex4_ascii (n : Nat) : ∀ d ∈ hex4 n, d.toNat < 128 := by
  have each : ∀ k : Fin 16, (Nat.digitChar k.val).toNat < 128 := by decide
  have digit : ∀ m, (m % 16).digitChar.toNat < 128 := fun m => each ⟨m % 16, Nat.mod_lt m (by decide)⟩
  simp [hex4, digit]

theorem escape_forms (c : Char) : escape c = [c] ∧ c.toNat < 128 ∨ (∃ e, e.toNat < 128 ∧ escape c = ['\\', e]) ∨
    (∃ n, escape c = unicodeEscape n) ∨ ∃ high low, escape c = unicodeEscape high ++ unicodeEscape low := by
  obtain ⟨written, same⟩ : ∃ written, escape c = written := ⟨_, rfl⟩
  rw [same]
  unfold escape at same
  iterate 7
    split at same
    · exact .inr (.inl ⟨_, by decide, same.symm⟩)
  split at same
  · next printable => exact .inl ⟨same.symm, by omega⟩
  · split at same
    · exact .inr (.inr (.inl ⟨_, same.symm⟩))
    · exact .inr (.inr (.inr ⟨_, _, same.symm⟩))

theorem escape_ascii (c : Char) : ∀ d ∈ escape c, d.toNat < 128 := by
  have unicode : ∀ n, ∀ d ∈ unicodeEscape n, d.toNat < 128 := fun n =>
    List.forall_mem_cons.mpr ⟨by decide, List.forall_mem_cons.mpr ⟨by decide, hex4_ascii n⟩⟩
  rcases escape_forms c with ⟨same, small⟩ | ⟨e, small, same⟩ | ⟨n, same⟩ | ⟨high, low, same⟩ <;> rw [same]
  · exact List.forall_mem_singleton.mpr small
  · exact List.forall_mem_cons.mpr ⟨by decide, List.forall_mem_singleton.mpr small⟩
  · exact unicode n
  · exact List.forall_mem_append.mpr ⟨unicode high, unicode low⟩

theorem escaped_ascii (text : String) : ∀ d ∈ (escaped text).toList, d.toNat < 128 := by
  intro d member
  rw [escaped, String.toList_ofList] at member
  obtain ⟨c, -, member⟩ := List.mem_flatMap.mp member
  exact escape_ascii c d member

theorem toLower_of_small {c : Char} (small : ¬ ('A' ≤ c ∧ c ≤ 'Z')) : c.toLower = c := by
  unfold Char.toLower
  rw [dif_neg]
  exact small

theorem signChar_small {c : Char} (sign : signChar c = true) : c.toNat < 128 ∧ c.toLower = c := by
  rw [signChar, Bool.or_eq_true] at sign
  rcases sign with number | listed
  · simp only [numberChar, Bool.or_eq_true, decide_eq_true_eq] at number
    rcases number with (((digit | rfl) | rfl) | rfl) | rfl
    · have bounds : c.val ≥ '0'.val ∧ c.val ≤ '9'.val := by simpa [Char.isDigit] using digit
      have low : 48 ≤ c.toNat := bounds.1
      have high : c.toNat ≤ 57 := bounds.2
      refine ⟨by omega, toLower_of_small fun capital => ?_⟩
      have least : 65 ≤ c.toNat := capital.1
      omega
    all_goals decide
  · have each : (['n', 'u', 'l', 't', 'r', 'f', 'a', 's', '[', ']', '{', '}', ':', ',', ' '].all
        fun c => decide (c.toNat < 128 ∧ c.toLower = c)) = true := by decide
    exact of_decide_eq_true (List.all_eq_true.mp each c (of_decide_eq_true listed))

theorem dumps_ascii (floats : FloatRepr) (value : Json) : ∀ d ∈ (jsonDumps floats value).toList, d.toNat < 128 := by
  intro d member
  rw [jsonDumps, String.toList_ofList] at member
  obtain ⟨chunk, written, member⟩ := List.mem_flatMap.mp member
  cases chunk with
  | signs text => exact (signChar_small (plain_chunks floats value _ written d member)).1
  | string text =>
    rw [Chunk.text, quote_eq] at member
    rcases List.mem_cons.mp member with rfl | member
    · decide
    · rcases List.mem_append.mp member with member | member
      · exact escaped_ascii text d member
      · rw [List.mem_singleton.mp member]
        decide

end Py
