import Mathlib.Data.List.Infix

namespace Occurrences

variable {α : Type}

theorem prefix_separated {word : List α} {separator : α} (free : separator ∉ word) (left right : List α) :
    word <+: left ++ separator :: right ↔ word <+: left := by
  induction left generalizing word with
  | nil =>
    cases word with
    | nil => exact ⟨fun _ => List.nil_prefix, fun _ => List.nil_prefix⟩
    | cons a word =>
      rw [List.nil_append, List.cons_prefix_cons, List.prefix_nil]
      exact ⟨fun both => absurd (both.1 ▸ List.mem_cons_self) free, nofun⟩
  | cons b left ih =>
    cases word with
    | nil => exact ⟨fun _ => List.nil_prefix, fun _ => List.nil_prefix⟩
    | cons a word =>
      rw [List.cons_append, List.cons_prefix_cons, List.cons_prefix_cons,
        ih fun member => free (List.mem_cons_of_mem a member)]

variable [DecidableEq α]

def count (word : List α) : List α → Nat
  | [] => if word = [] then 1 else 0
  | a :: rest => (if word.isPrefixOf (a :: rest) then 1 else 0) + count word rest

theorem count_of_short {word : List α} : ∀ {text : List α}, text.length < word.length → count word text = 0
  | [], short => if_neg (List.ne_nil_of_length_pos short)
  | a :: rest, short => by
    have stops : ¬ word.isPrefixOf (a :: rest) = true := fun starts =>
      absurd (List.isPrefixOf_iff_prefix.mp starts).length_le (Nat.not_le.mpr short)
    rw [count, if_neg stops, count_of_short (Nat.lt_of_succ_lt short)]

theorem count_self {word : List α} (nonempty : word ≠ []) : count word word = 1 := by
  cases word with
  | nil => exact absurd rfl nonempty
  | cons a rest =>
    rw [count, if_pos (List.isPrefixOf_iff_prefix.mpr List.prefix_rfl), count_of_short (Nat.lt_succ_self _)]

theorem count_eq_zero_iff {word : List α} (nonempty : word ≠ []) (text : List α) :
    count word text = 0 ↔ ¬ word <:+: text := by
  induction text with
  | nil =>
    rw [count, if_neg nonempty, List.infix_nil]
    exact ⟨fun _ => nonempty, fun _ => rfl⟩
  | cons a rest ih =>
    rw [count, List.infix_cons_iff, not_or, ← ih, ← List.isPrefixOf_iff_prefix]
    by_cases starts : word.isPrefixOf (a :: rest) = true
    · rw [if_pos starts]
      exact ⟨fun none => absurd none (by omega), fun absent => absurd starts absent.1⟩
    · rw [if_neg starts, Nat.zero_add]
      exact ⟨fun none => ⟨starts, none⟩, fun absent => absent.2⟩

theorem count_separated {word : List α} {separator : α} (nonempty : word ≠ []) (free : separator ∉ word)
    (left right : List α) : count word (left ++ separator :: right) = count word left + count word right := by
  induction left with
  | nil =>
    have stops : ¬ word.isPrefixOf (separator :: right) = true := by
      rw [List.isPrefixOf_iff_prefix]
      intro starts
      exact nonempty (List.prefix_nil.mp ((prefix_separated free [] right).mp starts))
    have none : count word [] = 0 := if_neg nonempty
    rw [List.nil_append, none, count, if_neg stops]
  | cons b left ih =>
    have same : word.isPrefixOf (b :: left ++ separator :: right) = word.isPrefixOf (b :: left) := by
      rw [Bool.eq_iff_iff, List.isPrefixOf_iff_prefix, List.isPrefixOf_iff_prefix]
      exact prefix_separated free (b :: left) right
    rw [List.cons_append] at same ⊢
    rw [count, count, same, ih, Nat.add_assoc]

theorem infix_separated {word : List α} {separator : α} (nonempty : word ≠ []) (free : separator ∉ word)
    (left right : List α) : word <:+: left ++ separator :: right ↔ word <:+: left ∨ word <:+: right := by
  have counted := count_separated nonempty free left right
  rw [← not_iff_not, not_or, ← count_eq_zero_iff nonempty, ← count_eq_zero_iff nonempty, ← count_eq_zero_iff nonempty]
  omega

theorem count_block {word : List α} {separator : α} (nonempty : word ≠ []) (free : separator ∉ word)
    (head content : List α) :
    count word (head ++ separator :: (content ++ separator :: word)) = count word head + count word content + 1 := by
  rw [count_separated nonempty free, count_separated nonempty free, count_self nonempty, Nat.add_assoc]

end Occurrences
