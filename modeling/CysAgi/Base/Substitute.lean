import Mathlib.Data.List.Infix

namespace Py

variable {α : Type} (matched : List α → Nat) (new : List α)

/-- `re.sub` from left to right, where `matched` is the length of the match at the start of a text, 0 where there is
    none, and so many characters of the last match are still to be passed. -/
def subFrom : Nat → List α → List α
  | _, [] => []
  | left + 1, _ :: rest => subFrom left rest
  | 0, c :: rest =>
    match matched (c :: rest) with
    | 0 => c :: subFrom 0 rest
    | left + 1 => new ++ subFrom left rest

def subAll (text : List α) : List α := subFrom matched new 0 text

variable {matched new}

theorem mem_subFrom_iff {inner : α → Prop} {c : α} (outer : ¬ inner c) (fresh : c ∉ new)
    (inside : ∀ first rest left, matched (first :: rest) = left + 1 → ∀ d ∈ rest.take left, inner d) {left : Nat}
    {text : List α} (covered : ∀ d ∈ text.take left, inner d) :
    c ∈ subFrom matched new left text ↔ ∃ after, c :: after <:+ text ∧ matched (c :: after) = 0 := by
  induction text generalizing left with
  | nil => simp [subFrom]
  | cons first rest ih =>
    have later (other : ¬ matched (first :: rest) = 0 ∨ first ≠ c) :
        (∃ after, c :: after <:+ first :: rest ∧ matched (c :: after) = 0) ↔
          ∃ after, c :: after <:+ rest ∧ matched (c :: after) = 0 := by
      constructor
      · rintro ⟨after, ends, none⟩
        rcases List.suffix_cons_iff.mp ends with whole | ends
        · cases whole
          rcases other with some | other
          · exact absurd none some
          · exact absurd rfl other
        · exact ⟨after, ends, none⟩
      · rintro ⟨after, ends, none⟩
        exact ⟨after, List.suffix_cons_iff.mpr (.inr ends), none⟩
    cases left with
    | succ left =>
      rw [List.take_succ_cons] at covered
      have other : first ≠ c := by
        rintro rfl
        exact outer (covered first List.mem_cons_self)
      rw [subFrom, ih fun d member => covered d (List.mem_cons_of_mem first member), later (.inr other)]
    | zero =>
      rw [subFrom]
      split
      · rename_i none
        rw [List.mem_cons, ih (by simp)]
        constructor
        · rintro (rfl | ⟨after, ends, unmatched⟩)
          · exact ⟨rest, List.suffix_rfl, none⟩
          · exact ⟨after, List.suffix_cons_iff.mpr (.inr ends), unmatched⟩
        · rintro ⟨after, ends, unmatched⟩
          rcases List.suffix_cons_iff.mp ends with whole | ends
          · exact .inl (List.cons.inj whole).1
          · exact .inr ⟨after, ends, unmatched⟩
      · rename_i left found
        rw [List.mem_append, or_iff_right fresh, ih (inside first rest left found), later (.inl (by omega))]

/-- `text.replace(old, new, 1)` for an old text that is not empty. -/
def replaceFirst [BEq α] (old new : List α) : List α → List α
  | [] => []
  | c :: rest =>
    if old.isPrefixOf (c :: rest) then new ++ (c :: rest).drop old.length else c :: replaceFirst old new rest

theorem replaceFirst_of_earliest [BEq α] [LawfulBEq α] {old new before rest : List α} (nonempty : old ≠ [])
    (earliest : ∀ start, start <:+ before → start ≠ [] → ¬ old <+: start ++ (old ++ rest)) :
    replaceFirst old new (before ++ (old ++ rest)) = before ++ (new ++ rest) := by
  induction before with
  | nil =>
    cases spelled : old with
    | nil => exact absurd spelled nonempty
    | cons c more =>
      have starts : (c :: more).isPrefixOf (c :: (more ++ rest)) = true :=
        List.isPrefixOf_iff_prefix.mpr (List.prefix_append (c :: more) rest)
      rw [List.nil_append, List.cons_append, replaceFirst, if_pos starts, ← List.cons_append, List.drop_left]
      rfl
  | cons c before ih =>
    have later : ¬ old <+: c :: before ++ (old ++ rest) := earliest _ List.suffix_rfl (List.cons_ne_nil _ _)
    rw [List.cons_append] at later ⊢
    rw [replaceFirst, if_neg fun starts => later (List.isPrefixOf_iff_prefix.mp starts), ih, List.cons_append]
    exact fun start ends => earliest start (ends.trans (List.suffix_cons c before))

end Py
