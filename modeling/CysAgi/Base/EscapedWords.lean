import Mathlib.Data.List.Chain
import CysAgi.Base.JsonChunks

namespace Py

theorem infix_block_iff {α : Type} (word block more : List α) :
    word <:+: block ++ more ↔ (∃ start, start ≠ [] ∧ start <:+ block ∧ word <+: start ++ more) ∨ word <:+: more := by
  induction block with
  | nil =>
    constructor
    · exact .inr
    · rintro (⟨start, nonempty, suffix, -⟩ | found)
      · exact absurd (List.suffix_nil.mp suffix) nonempty
      · exact found
  | cons a block ih =>
    rw [List.cons_append, List.infix_cons_iff, ih]
    constructor
    · rintro (here | ⟨start, nonempty, suffix, later⟩ | found)
      · exact .inl ⟨a :: block, List.cons_ne_nil a block, List.suffix_rfl, here⟩
      · exact .inl ⟨start, nonempty, suffix.trans (List.suffix_cons a block), later⟩
      · exact .inr found
    · rintro (⟨start, nonempty, suffix, later⟩ | found)
      · rcases List.suffix_cons_iff.mp suffix with rfl | inside
        · exact .inl later
        · exact .inr (.inl ⟨start, nonempty, inside, later⟩)
      · exact .inr (.inr found)

def hexDigits : List Char := ['0', '1', '2', '3', '4', '5', '6', '7', '8', '9', 'a', 'b', 'c', 'd', 'e', 'f']

def EscapePair (x y : Char) : Prop := x = '\\' ∨ x ∈ 'u' :: hexDigits ∧ y ∈ '\\' :: hexDigits

instance (x y : Char) : Decidable (EscapePair x y) :=
  inferInstanceAs (Decidable (x = '\\' ∨ x ∈ 'u' :: hexDigits ∧ y ∈ '\\' :: hexDigits))

theorem digitChar_mem (n : Nat) : (n % 16).digitChar ∈ hexDigits := by
  have each : ∀ d : Fin 16, Nat.digitChar d.val ∈ hexDigits := by decide
  exact each ⟨n % 16, Nat.mod_lt n (by decide)⟩

theorem unicodeEscape_pairs (n : Nat) (rest : List Char) (paired : rest.IsChain EscapePair)
    (opened : ∀ c ∈ rest.head?, c = '\\') : (unicodeEscape n ++ rest).IsChain EscapePair := by
  have next : ∀ {x y}, x ∈ hexDigits → y ∈ '\\' :: hexDigits → EscapePair x y := fun first second =>
    .inr ⟨List.mem_cons_of_mem _ first, second⟩
  have hex := fun m => List.mem_cons_of_mem '\\' (digitChar_mem m)
  cases rest with
  | nil =>
    simp only [unicodeEscape, hex4, List.append_nil, List.isChain_cons_cons, List.isChain_singleton, and_true]
    exact ⟨.inl rfl, .inr ⟨List.mem_cons_self, hex _⟩, next (digitChar_mem _) (hex _), next (digitChar_mem _) (hex _),
      next (digitChar_mem _) (hex _)⟩
  | cons c rest =>
    cases opened c rfl
    simp only [unicodeEscape, hex4, List.cons_append, List.nil_append, List.isChain_cons_cons]
    exact ⟨.inl rfl, .inr ⟨List.mem_cons_self, hex _⟩, next (digitChar_mem _) (hex _), next (digitChar_mem _) (hex _),
      next (digitChar_mem _) (hex _), next (digitChar_mem _) List.mem_cons_self, paired⟩

theorem escape_pairs (c : Char) : (escape c).IsChain EscapePair := by
  have pair : ∀ e : Char, ['\\', e].IsChain EscapePair := fun e =>
    List.isChain_cons_cons.mpr ⟨.inl rfl, List.isChain_singleton e⟩
  have single : ∀ n, (unicodeEscape n).IsChain EscapePair := fun n => by
    have ended := unicodeEscape_pairs n [] List.isChain_nil nofun
    rwa [List.append_nil] at ended
  rcases escape_forms c with ⟨same, -⟩ | ⟨e, -, same⟩ | ⟨n, same⟩ | ⟨high, low, same⟩ <;> rw [same]
  · exact List.isChain_singleton c
  · exact pair e
  · exact single n
  · refine unicodeEscape_pairs high _ (single low) fun d first => ?_
    cases first
    rfl

theorem escape_cases (c : Char) : escape c = [c] ∨ ∃ rest, escape c = '\\' :: rest := by
  rcases escape_forms c with ⟨same, -⟩ | ⟨e, -, same⟩ | ⟨n, same⟩ | ⟨high, low, same⟩
  · exact .inl same
  · exact .inr ⟨_, same⟩
  · exact .inr ⟨_, same⟩
  · exact .inr ⟨_, same⟩

theorem prefix_escaped_iff {word : List Char} (visible : ∀ c ∈ word, escape c = [c]) (text : List Char) :
    word <+: text.flatMap escape ↔ word <+: text := by
  induction text generalizing word with
  | nil => rfl
  | cons c text ih =>
    cases word with
    | nil => exact ⟨fun _ => List.nil_prefix, fun _ => List.nil_prefix⟩
    | cons a word =>
      rw [List.forall_mem_cons] at visible
      rw [List.flatMap_cons]
      rcases escape_cases c with same | ⟨rest, same⟩
      · rw [same, List.singleton_append, List.cons_prefix_cons, List.cons_prefix_cons, ih visible.2]
      · rw [same, List.cons_append, List.cons_prefix_cons, List.cons_prefix_cons]
        constructor
        · rintro ⟨rfl, -⟩
          exact absurd visible.1 (by decide)
        · rintro ⟨rfl, -⟩
          rw [visible.1] at same
          cases same
          exact absurd visible.1 (by decide)

theorem infix_escaped_iff {a b : Char} {word : List Char} (apart : ¬ EscapePair a b)
    (visible : ∀ c ∈ b :: word, escape c = [c]) (text : List Char) :
    a :: b :: word <:+: text.flatMap escape ↔
      ∃ c rest, c :: rest <:+ text ∧ (escape c).getLast? = some a ∧ b :: word <+: rest := by
  induction text with
  | nil =>
    constructor
    · intro found
      cases List.infix_nil.mp found
    · rintro ⟨c, rest, suffix, -⟩
      cases List.suffix_nil.mp suffix
  | cons c text ih =>
    have after := prefix_escaped_iff visible text
    rw [List.flatMap_cons, infix_block_iff, ih]
    constructor
    · rintro (⟨start, some, suffix, begins⟩ | ⟨e, rest, suffix, last, begins⟩)
      · cases start with
        | nil => exact absurd rfl some
        | cons x start =>
          rw [List.cons_append, List.cons_prefix_cons] at begins
          obtain ⟨rfl, begins⟩ := begins
          cases start with
          | nil =>
            obtain ⟨front, whole⟩ := suffix
            refine ⟨c, text, List.suffix_rfl, ?_, after.mp begins⟩
            rw [← whole, List.getLast?_concat]
          | cons y start =>
            have chained := (escape_pairs c).suffix suffix
            rw [List.cons_append, List.cons_prefix_cons] at begins
            obtain ⟨rfl, -⟩ := begins
            exact absurd (List.isChain_cons_cons.mp chained).1 apart
      · exact ⟨e, rest, suffix.trans (List.suffix_cons c text), last, begins⟩
    · rintro ⟨e, rest, suffix, last, begins⟩
      rcases List.suffix_cons_iff.mp suffix with same | inside
      · cases same
        obtain ⟨front, whole⟩ := List.getLast?_eq_some_iff.mp last
        refine .inl ⟨[a], List.cons_ne_nil a [], ⟨front, whole.symm⟩, ?_⟩
        rw [List.singleton_append, List.cons_prefix_cons]
        exact ⟨rfl, after.mpr begins⟩
      · exact .inr ⟨e, rest, inside, last, begins⟩

end Py
