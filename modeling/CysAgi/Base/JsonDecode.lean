import Mathlib.Data.Option.NAry
import CysAgi.Base.JsonChunks

namespace Py

def isJsonSpace (c : Char) : Bool := c = ' ' || c = '\t' || c = '\n' || c = '\r'

def skipSpace (text : List Char) : List Char := text.dropWhile isJsonSpace

def readLiteral : Nat → List Char → Option (Option (List Char) × List Char)
  | _, '"' :: rest => some (some [], rest)
  | 0, _ => none
  | fuel + 1, text =>
    (readChar text).bind fun (c, rest) =>
      (readLiteral fuel rest).map fun (cs, rest) => (Option.map₂ List.cons c cs, rest)

def numeralChar (c : Char) : Bool := numberChar c || c = 'E'

def readNatural (digits : List Char) : Option Nat :=
  if digits ≠ [] ∧ digits.all Char.isDigit ∧ (digits = ['0'] ∨ digits.head? ≠ some '0') then
    some (Nat.ofDigitChars 10 digits 0)
  else none

def readInteger : List Char → Option Int
  | '-' :: digits => (readNatural digits).map fun n => -Int.ofNat n
  | digits => (readNatural digits).map Int.ofNat

/-- A `FloatRepr` with `float(text)` of a number that is not an integer, nothing for other texts, and nothing inside
    where the number is too large and becomes an infinity. -/
structure FloatCodec extends FloatRepr where
  read : List Char → Option (Option Rat)
  read_text : ∀ value, read (text value) = some (some value)
  not_integer : ∀ value, readInteger (text value) = none

theorem head_toDigits {n : Nat} (positive : 0 < n) : (Nat.toDigits 10 n).head? ≠ some '0' := by
  induction n using Nat.strongRecOn with
  | ind n ih =>
    by_cases small : n < 10
    · rw [Nat.toDigits_of_lt_base small, List.head?_cons, Ne, Option.some.injEq, Nat.digitChar_eq_zero]
      exact positive.ne'
    · have base : 10 ≤ n := not_lt.mp small
      rw [Nat.toDigits_of_base_le (by decide) base, List.head?_append_of_ne_nil _ Nat.toDigits_ne_nil]
      exact ih (n / 10) (Nat.div_lt_self positive (by decide)) (Nat.div_pos base (by decide))

theorem readNatural_toDigits (n : Nat) : readNatural (Nat.toDigits 10 n) = some n := by
  have digits : (Nat.toDigits 10 n).all Char.isDigit = true :=
    List.all_eq_true.mpr fun _ member => Nat.isDigit_of_mem_toDigits (by decide) (by decide) member
  have leading : Nat.toDigits 10 n = ['0'] ∨ (Nat.toDigits 10 n).head? ≠ some '0' := by
    rcases Nat.eq_zero_or_pos n with rfl | positive
    · exact Or.inl rfl
    · exact Or.inr (head_toDigits positive)
  rw [readNatural, if_pos ⟨Nat.toDigits_ne_nil, digits, leading⟩, Nat.ofDigitChars_ten_toDigits]

theorem readInteger_natural {digits : List Char} (plain : digits.head? ≠ some '-') :
    readInteger digits = (readNatural digits).map Int.ofNat := by
  cases digits with
  | nil => rfl
  | cons c rest =>
    have other : c ≠ '-' := fun same => plain (by rw [same]; rfl)
    unfold readInteger
    split
    · next same => exact absurd (List.cons.inj same).1 other
    · rfl

theorem readInteger_intText (n : Int) : readInteger (intText n) = some n := by
  unfold intText
  split
  · next negative =>
    rw [readInteger, readNatural_toDigits, Option.map_some, Option.some.injEq, Int.ofNat_eq_natCast]
    omega
  · next positive =>
    have plain : (Nat.toDigits 10 n.natAbs).head? ≠ some '-' := by
      intro first
      have digit := Nat.isDigit_of_mem_toDigits (by decide) (by decide) (List.mem_of_head? first)
      exact absurd digit (by decide)
    rw [readInteger_natural plain, readNatural_toDigits, Option.map_some, Option.some.injEq]
    exact Int.natAbs_of_nonneg (not_lt.mp positive)

/-- `fractions` with its own reader. -/
def fractionCodec : FloatCodec where
  toFloatRepr := fractions
  read text := do
    let num ← readInteger (text.takeWhile fun c => c ≠ 'e')
    let den ← readNatural ((text.dropWhile fun c => c ≠ 'e').drop 1)
    return some (mkRat num den)
  read_text value := by
    have plain : ∀ c ∈ intText value.num, decide (c ≠ 'e') = true := by
      intro c member
      have integral := intText_integral _ c member
      apply decide_eq_true
      rintro rfl
      exact absurd integral (by decide)
    have stops : (List.takeWhile (fun c => decide (c ≠ 'e')) ('e' :: Nat.toDigits 10 value.den)) = [] := rfl
    simp only [fractions]
    rw [List.takeWhile_append_of_pos plain, List.dropWhile_append_of_pos plain, stops, List.append_nil,
      readInteger_intText]
    have left : (List.dropWhile (fun c => decide (c ≠ 'e')) ('e' :: Nat.toDigits 10 value.den)).drop 1 =
        Nat.toDigits 10 value.den := rfl
    rw [left, readNatural_toDigits]
    exact congrArg (fun value => some (some value)) (Rat.mkRat_self value)
  not_integer value := by
    have exponent : ∀ {digits : List Char}, 'e' ∈ digits → readNatural digits = none := by
      intro digits member
      apply if_neg
      intro ⟨_, all, _⟩
      exact absurd (List.all_eq_true.mp all 'e' member) (by decide)
    have member : 'e' ∈ fractions.text value := List.mem_append_right _ List.mem_cons_self
    unfold readInteger
    split
    · next digits same =>
      rw [same] at member
      rcases List.mem_cons.mp member with minus | later
      · exact absurd minus (by decide)
      · rw [exponent later, Option.map_none]
    · rw [exponent member, Option.map_none]

variable (floats : FloatCodec)

/-- The floats that json has a name for, and `Json` no value. -/
def nonfinite : List (List Char) := ["NaN".toList, "Infinity".toList, "-Infinity".toList]

def readNumber (text : List Char) : Option (Option Json × List Char) :=
  let word := text.takeWhile numeralChar
  let rest := text.dropWhile numeralChar
  match readInteger word with
  | some n => some (some (.int n), rest)
  | none =>
    match floats.read word with
    | some value => some (value.map .float, rest)
    | none => (nonfinite.find? (·.isPrefixOf text)).map fun name => (none, text.drop name.length)

/-- `dict(pairs)`: of two values under one key the later one counts. -/
def dictOf (pairs : JsonDict) : JsonDict := pairs.foldl (fun dict field => JsonDict.set dict field.1 field.2) []

mutual

-- A value that is read stands inside; there is none where some part of it is one that `Json` does not hold.

def readValue : Nat → List Char → Option (Option Json × List Char)
  | 0, _ => none
  | _ + 1, '"' :: text =>
    (readLiteral text.length text).map fun (cs, rest) => (cs.map fun cs => .str (String.ofList cs), rest)
  | fuel + 1, '[' :: text =>
    match skipSpace text with
    | ']' :: rest => some (some (.arr []), rest)
    | text => (readItems fuel text).map fun (items, rest) => (items.map .arr, rest)
  | fuel + 1, '{' :: text =>
    match skipSpace text with
    | '}' :: rest => some (some (.obj []), rest)
    | text => (readFields fuel text).map fun (fields, rest) => (fields.map fun fields => .obj (dictOf fields), rest)
  | _ + 1, 'n' :: 'u' :: 'l' :: 'l' :: rest => some (some .null, rest)
  | _ + 1, 't' :: 'r' :: 'u' :: 'e' :: rest => some (some (.bool true), rest)
  | _ + 1, 'f' :: 'a' :: 'l' :: 's' :: 'e' :: rest => some (some (.bool false), rest)
  | _ + 1, text => readNumber floats text

def readItems : Nat → List Char → Option (Option (List Json) × List Char)
  | 0, _ => none
  | fuel + 1, text =>
    (readValue fuel text).bind fun (item, rest) =>
      match skipSpace rest with
      | ']' :: rest => some (item.map fun item => [item], rest)
      | ',' :: rest =>
        (readItems fuel (skipSpace rest)).map fun (items, rest) => (Option.map₂ List.cons item items, rest)
      | _ => none

def readFields : Nat → List Char → Option (Option JsonDict × List Char)
  | 0, _ => none
  | fuel + 1, '"' :: text =>
    (readLiteral text.length text).bind fun (key, rest) =>
      match skipSpace rest with
      | ':' :: rest =>
        (readValue fuel (skipSpace rest)).bind fun (value, rest) =>
          let field := Option.map₂ (fun key value => (String.ofList key, value)) key value
          match skipSpace rest with
          | '}' :: rest => some (field.map fun field => [field], rest)
          | ',' :: rest =>
            (readFields fuel (skipSpace rest)).map fun (fields, rest) => (Option.map₂ List.cons field fields, rest)
          | _ => none
      | _ => none
  | _ + 1, _ => none

end

/-- `json.loads(text)`: nothing on a `JSONDecodeError`, and nothing inside where some part of the value is NaN, an
    infinity or half a surrogate pair. -/
def readWhole (text : String) : Option (Option Json) :=
  (readValue floats (text.toList.length + 1) (skipSpace text.toList)).bind fun (value, rest) =>
    if skipSpace rest = [] then some value else none

/-- The value of `json.loads(text)`, where it gives one that `Json` holds. -/
def loads (text : String) : Option Json := (readWhole floats text).join

end Py
