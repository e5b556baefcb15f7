import Mathlib.Data.List.Induction
import Mathlib.Data.List.TakeWhile

namespace FirstOccurrence

variable {α ι : Type} [DecidableEq α]

/-- `a` stands in the list before every `b`. -/
def Precedes (items : List α) (a b : α) : Prop := a ∈ items.takeWhile (· ≠ b)

instance (items : List α) (a b : α) : Decidable (Precedes items a b) := inferInstanceAs (Decidable (a ∈ _))

variable {items : List α} {a b : α}

theorem precedes_cons (first : α) : Precedes (first :: items) a b ↔ first ≠ b ∧ (a = first ∨ Precedes items a b) := by
  unfold Precedes
  rw [List.takeWhile_cons]
  by_cases same : first = b
  · simp [same]
  · simp [same]

theorem mem_of_precedes (first : Precedes items a b) : a ∈ items := (List.takeWhile_sublist _).mem first

theorem precedes_of_not_mem (absent : b ∉ items) : Precedes items a b ↔ a ∈ items := by
  have whole : items.takeWhile (· ≠ b) = items := by
    apply List.takeWhile_eq_self_iff.mpr
    intro item member
    exact decide_eq_true fun same => absent (same ▸ member)
  rw [Precedes, whole]

theorem precedes_append (more : List α) :
    Precedes (items ++ more) a b ↔ Precedes items a b ∨ b ∉ items ∧ Precedes more a b := by
  induction items with
  | nil => simp [Precedes]
  | cons first items ih =>
    rw [List.cons_append, precedes_cons, precedes_cons, ih, List.mem_cons]
    grind

theorem not_precedes_both (first : Precedes items a b) : ¬Precedes items b a := by
  induction items with
  | nil => cases first
  | cons item items ih =>
    rw [precedes_cons] at first
    intro back
    rw [precedes_cons] at back
    have before := first.2.resolve_left fun same => back.1 same.symm
    have after := back.2.resolve_left fun same => first.1 same.symm
    exact ih before after

theorem not_precedes_iff (member : a ∈ items) (apart : a ≠ b) : ¬Precedes items a b ↔ Precedes items b a := by
  constructor
  · intro late
    induction items with
    | nil => cases member
    | cons item items ih =>
      rw [precedes_cons] at late ⊢
      by_cases here : item = b
      · exact ⟨fun same => apart (same.symm.trans here), .inl here.symm⟩
      · have other : a ≠ item := fun same => late ⟨here, .inl same⟩
        have later : ¬Precedes items a b := fun first => late ⟨here, .inr first⟩
        exact ⟨other.symm, .inr (ih ((List.mem_cons.mp member).resolve_left other) later)⟩
  · exact not_precedes_both

theorem ne_of_precedes (first : Precedes items a b) : a ≠ b := by
  have passed := List.mem_takeWhile_imp first
  exact of_decide_eq_true passed

theorem precedes_flatMap (parts : List ι) (names : ι → List α) :
    Precedes (parts.flatMap names) a b ↔
      ∃ before part after, parts = before ++ part :: after ∧ (∀ other ∈ before, b ∉ names other) ∧
        Precedes (names part) a b := by
  induction parts with
  | nil =>
    constructor
    · intro first
      cases first
    · intro found
      obtain ⟨before, part, after, split, -⟩ := found
      cases before <;> cases split
  | cons part parts ih =>
    rw [List.flatMap_cons, precedes_append, ih]
    constructor
    · intro either
      rcases either with here | ⟨unnamed, before, other, after, split, none, later⟩
      · exact ⟨[], part, parts, rfl, fun _ member => absurd member List.not_mem_nil, here⟩
      · refine ⟨part :: before, other, after, by rw [split, List.cons_append], ?_, later⟩
        intro earlier member
        rcases List.mem_cons.mp member with same | member
        · rw [same]
          exact unnamed
        · exact none earlier member
    · intro found
      obtain ⟨before, other, after, split, none, here⟩ := found
      cases before with
      | nil =>
        cases split
        exact .inl here
      | cons first before =>
        cases split
        exact .inr ⟨none _ List.mem_cons_self, before, other, after, rfl,
          fun earlier member => none earlier (List.mem_cons_of_mem _ member), here⟩

theorem precedes_flip_iff {parts : List ι} {names : ι → List α} {fewer more : ι → Bool}
    (weaker : ∀ part, fewer part = true → more part = true)
    (first : Precedes ((parts.filter fewer).flatMap names) a b) :
    Precedes ((parts.filter more).flatMap names) b a ↔
      ∃ before part after, parts.filter more = before ++ part :: after ∧ fewer part = false ∧
        (∀ other ∈ before, a ∉ names other) ∧ Precedes (names part) b a := by
  rw [precedes_flatMap]
  constructor
  · intro found
    obtain ⟨before, part, after, split, unnamed, here⟩ := found
    refine ⟨before, part, after, split, ?_, unnamed, here⟩
    by_contra old
    have kept : fewer part = true := eq_true_of_ne_false old
    have same : parts.filter fewer = (parts.filter more).filter fewer := by
      rw [List.filter_filter]
      apply List.filter_congr
      intro part _
      cases counted : fewer part with
      | false => rfl
      | true => rw [weaker part counted, Bool.and_self]
    rw [split, List.filter_append, List.filter_cons, if_pos kept] at same
    have back : Precedes ((parts.filter fewer).flatMap names) b a := by
      rw [precedes_flatMap]
      exact ⟨_, part, _, same, fun other member => unnamed other (List.mem_filter.mp member).1, here⟩
    exact not_precedes_both first back
  · intro found
    obtain ⟨before, part, after, split, -, rest⟩ := found
    exact ⟨before, part, after, split, rest⟩

def insertNew (items : List α) (item : α) : List α := if item ∈ items then items else items ++ [item]

theorem insertNew_eraseDups (item : α) : insertNew items.eraseDups item = (items ++ [item]).eraseDups := by
  rw [List.eraseDups_append]
  unfold insertNew
  simp only [List.mem_eraseDups]
  by_cases held : item ∈ items
  · rw [if_pos held]
    simp [held, List.removeAll]
  · rw [if_neg held]
    simp [held, List.removeAll, List.eraseDups_cons]

theorem foldl_insertNew (more : List α) : more.foldl insertNew items.eraseDups = (items ++ more).eraseDups := by
  induction more generalizing items with
  | nil => rw [List.append_nil, List.foldl_nil]
  | cons item more ih => rw [List.foldl_cons, insertNew_eraseDups, ih, List.append_assoc, List.singleton_append]

theorem precedes_insertNew (item : α) :
    Precedes (insertNew items item) a b ↔ Precedes (items ++ [item]) a b := by
  unfold insertNew
  by_cases held : item ∈ items
  · rw [if_pos held, precedes_append, precedes_cons]
    constructor
    · exact Or.inl
    · intro either
      rcases either with first | ⟨absent, -, same | nothing⟩
      · exact first
      · rw [precedes_of_not_mem absent, same]
        exact held
      · cases nothing
  · rw [if_neg held]

theorem precedes_eraseDups (items : List α) : Precedes items.eraseDups a b ↔ Precedes items a b := by
  induction items using List.reverseRecOn with
  | nil => exact Iff.rfl
  | append_singleton items item ih =>
    rw [← insertNew_eraseDups, precedes_insertNew, precedes_append, precedes_append, ih, List.mem_eraseDups]

end FirstOccurrence
