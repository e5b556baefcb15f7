import Mathlib.Data.Char
import Mathlib.Data.Nat.Digits.Defs

namespace Py

def hex4 (n : Nat) : List Char :=
  [(n / 4096 % 16).digitChar, (n / 256 % 16).digitChar, (n / 16 % 16).digitChar, (n % 16).digitChar]

def unicodeEscape (n : Nat) : List Char := '\\' :: 'u' :: hex4 n

/-- A character of a string literal, as `ensure_ascii` has it. -/
def escape (c : Char) : List Char :=
  if c = '"' then ['\\', '"']
  else if c = '\\' then ['\\', '\\']
  else if c = '\n' then ['\\', 'n']
  else if c = '\r' then ['\\', 'r']
  else if c = '\t' then ['\\', 't']
  else if c = '\x0c' then ['\\', 'f']
  else if c = '\x08' then ['\\', 'b']
  else if 32 ≤ c.toNat ∧ c.toNat ≤ 126 then [c]
  else if c.toNat < 0x10000 then unicodeEscape c.toNat
  else unicodeEscape (0xd800 + (c.toNat - 0x10000) / 1024) ++ unicodeEscape (0xdc00 + (c.toNat - 0x10000) % 1024)

def hexDigit? (c : Char) : Option Nat :=
  if c.isDigit then some (c.toNat - 48)
  else if 'a' ≤ c ∧ c ≤ 'f' then some (c.toNat - 87)
  else if 'A' ≤ c ∧ c ≤ 'F' then some (c.toNat - 55)
  else none

def readHex4 (a b c d : Char) : Option Nat := do
  return ((← hexDigit? a) * 16 + (← hexDigit? b)) * 256 + ((← hexDigit? c) * 16 + (← hexDigit? d))

/-- `BACKSLASH` of json.decoder. -/
def simpleEscape : Char → Option Char
  | '"' => some '"'
  | '\\' => some '\\'
  | '/' => some '/'
  | 'b' => some '\x08'
  | 'f' => some '\x0c'
  | 'n' => some '\n'
  | 'r' => some '\r'
  | 't' => some '\t'
  | _ => none

def readChar : List Char → Option (Option Char × List Char)
  | '\\' :: 'u' :: a :: b :: c :: d :: rest =>
    (readHex4 a b c d).bind fun unit =>
      if unit < 0xd800 ∨ 0xe000 ≤ unit then some (some (Char.ofNat unit), rest)
      else if unit < 0xdc00 then
        match rest with
        | '\\' :: 'u' :: e :: f :: g :: h :: behind =>
          (readHex4 e f g h).map fun low =>
            if 0xdc00 ≤ low ∧ low < 0xe000 then
              (some (Char.ofNat (0x10000 + (unit - 0xd800) * 1024 + (low - 0xdc00))), behind)
            else (none, rest)
        | _ => some (none, rest)
      else some (none, rest)
  | '\\' :: c :: rest => (simpleEscape c).map fun value => (some value, rest)
  | '\\' :: [] => none
  | '"' :: _ => none
  | c :: rest => if c.toNat < 32 then none else some (some c, rest)
  | [] => none

theorem hexDigit?_digitChar (n : Nat) : hexDigit? (n % 16).digitChar = some (n % 16) := by
  have each : ∀ d : Fin 16, hexDigit? (Nat.digitChar d.val) = some d.val := by decide
  exact each ⟨n % 16, Nat.mod_lt n (by decide)⟩

theorem readHex4_hex4 {n : Nat} (small : n < 0x10000) :
    readHex4 (n / 4096 % 16).digitChar (n / 256 % 16).digitChar (n / 16 % 16).digitChar (n % 16).digitChar = some n := by
  have value : ((n / 4096 % 16) * 16 + n / 256 % 16) * 256 + ((n / 16 % 16) * 16 + n % 16) = n := by omega
  simp only [readHex4, hexDigit?_digitChar, Option.bind_eq_bind, Option.bind_some, Option.pure_def, value]

theorem hex4_inj {m n : Nat} (smallM : m < 0x10000) (smallN : n < 0x10000) (same : hex4 m = hex4 n) : m = n := by
  unfold hex4 at same
  simp only [List.cons.injEq, and_true] at same
  obtain ⟨a, b, c, d⟩ := same
  have read := readHex4_hex4 smallM
  rw [a, b, c, d, readHex4_hex4 smallN] at read
  exact (Option.some.inj read).symm

theorem readChar_unicode {n : Nat} (small : n < 0x10000) (plain : n < 0xd800 ∨ 0xe000 ≤ n) (rest : List Char) :
    readChar (unicodeEscape n ++ rest) = some (some (Char.ofNat n), rest) := by
  simp only [unicodeEscape, hex4, List.cons_append, List.nil_append, readChar, readHex4_hex4 small, Option.bind_some]
  exact if_pos plain

theorem readChar_surrogates {v : Nat} (small : v < 0x100000) (rest : List Char) :
    readChar (unicodeEscape (0xd800 + v / 1024) ++ unicodeEscape (0xdc00 + v % 1024) ++ rest) =
      some (some (Char.ofNat (0x10000 + v)), rest) := by
  have high : 0xd800 + v / 1024 < 0x10000 := by omega
  have low : 0xdc00 + v % 1024 < 0x10000 := by omega
  simp only [unicodeEscape, hex4, List.cons_append, List.nil_append, readChar, readHex4_hex4 high, readHex4_hex4 low,
    Option.bind_some, Option.map_some]
  rw [if_neg (by omega), if_pos (by omega), if_pos (by omega)]
  have value : 0x10000 + (0xd800 + v / 1024 - 0xd800) * 1024 + (0xdc00 + v % 1024 - 0xdc00) = 0x10000 + v := by
    omega
  rw [value]

theorem readChar_plain {c : Char} (quote : c ≠ '"') (backslash : c ≠ '\\') (visible : ¬ c.toNat < 32)
    (rest : List Char) : readChar (c :: rest) = some (some c, rest) := by
  unfold readChar
  split
  · next same => exact absurd (List.cons.inj same).1 backslash
  · next same => exact absurd (List.cons.inj same).1 backslash
  · next same => exact absurd (List.cons.inj same).1 backslash
  · next same => exact absurd (List.cons.inj same).1 quote
  · next same =>
    cases same
    exact if_neg visible
  · next same => cases same

theorem readChar_escape (c : Char) (rest : List Char) : readChar (escape c ++ rest) = some (some c, rest) := by
  have valid : c.toNat < 0xd800 ∨ 0xdfff < c.toNat ∧ c.toNat < 0x110000 := c.valid
  unfold escape
  split
  · next quote =>
    rw [quote]
    rfl
  · next quote =>
    split
    · next backslash =>
      rw [backslash]
      rfl
    · next backslash =>
      iterate 5
        split
        · next same =>
          rw [same]
          rfl
      split
      · exact readChar_plain quote backslash (by omega) rest
      · split
        · next basic => rw [readChar_unicode basic (by omega), Char.ofNat_toNat]
        · have whole : 0x10000 + (c.toNat - 0x10000) = c.toNat := by omega
          rw [readChar_surrogates (by omega), whole, Char.ofNat_toNat]

end Py
