import Mathlib.Data.List.Nodup
import Mathlib.Data.List.Pairwise
import Mathlib.Data.List.Sort
import Mathlib.Data.Prod.Lex
import Mathlib.Order.Lattice

namespace Listing

variable {α β ι τ : Type}

/-- The answers that `ORDER BY key` allows: rows with equal keys come in any order. -/
def OrderedBy [LinearOrder τ] (key : α → τ) (rows answer : List α) : Prop :=
  answer.Perm rows ∧ answer.Pairwise fun a b => key a ≤ key b

theorem exists_ties_reversed [LinearOrder ι] [LinearOrder τ] (key : α → τ) (name : α → ι) (rows : List α) :
    ∃ answer, OrderedBy key rows answer ∧
      answer.Pairwise fun a b => key a < key b ∨ key a = key b ∧ name b ≤ name a := by
  let rank : α → Lex (τ × OrderDual ι) := fun a => toLex (key a, OrderDual.toDual (name a))
  have total : Std.Total fun a b => rank a ≤ rank b := ⟨fun a b => le_total (rank a) (rank b)⟩
  have trans : IsTrans α fun a b => rank a ≤ rank b := ⟨fun _ _ _ => le_trans⟩
  have perm := List.perm_insertionSort (fun a b => rank a ≤ rank b) rows
  have sorted := List.pairwise_insertionSort (fun a b => rank a ≤ rank b) rows
  have ranked := sorted.imp fun {a b} earlier => Prod.Lex.toLex_le_toLex.mp earlier
  refine ⟨_, ⟨perm, ranked.imp ?_⟩, ranked⟩
  intro a b earlier
  rcases earlier with less | ⟨equal, -⟩
  · exact le_of_lt less
  · exact le_of_eq equal

theorem orderedBy_eq_iff [LinearOrder ι] [LinearOrder τ] {rows : List α} {listed : List β} {view : α → β}
    (key : α → τ) (name : β → ι)
    (distinct : ∀ a ∈ rows, ∀ b ∈ rows, name (view a) = name (view b) → a = b)
    (sorted : listed.Pairwise fun a b => name a ≤ name b) (same : (rows.map view).Perm listed) :
    (∀ answer, OrderedBy key rows answer → answer.map view = listed) ↔
      ∀ a ∈ rows, ∀ b ∈ rows, name (view a) < name (view b) → key a < key b := by
  constructor
  · intro agree a ha b hb before
    by_contra unordered
    obtain ⟨answer, ordered, ties⟩ := exists_ties_reversed key (fun a => name (view a)) rows
    rw [← agree answer ordered] at sorted
    have named := List.pairwise_map.mp sorted
    let both : α → α → Prop := fun x y =>
      (key x < key y ∨ key x = key y ∧ name (view y) ≤ name (view x)) ∧ name (view x) ≤ name (view y)
    have either : answer.Pairwise fun x y => both x y ∨ both y x := (ties.and named).imp Or.inl
    have symm : Std.Symm fun x y => both x y ∨ both y x := ⟨fun _ _ => Or.symm⟩
    have apart : a ≠ b := fun equal => lt_irrefl _ (equal ▸ before)
    rcases either.forall (ordered.1.mem_iff.mpr ha) (ordered.1.mem_iff.mpr hb) apart with
      ⟨less | ⟨-, back⟩, -⟩ | ⟨-, back⟩
    · exact unordered less
    · exact absurd before (not_lt.mpr back)
    · exact absurd before (not_lt.mpr back)
  · intro agree answer given
    obtain ⟨perm, ordered⟩ := given
    have listing : (answer.map view).Perm listed := (perm.map view).trans same
    have named : (answer.map view).Pairwise fun a b => name a ≤ name b := by
      apply List.pairwise_map.mpr
      refine ordered.imp_of_mem fun {a b} ha hb early => ?_
      by_contra back
      have swapped := agree b (perm.mem_iff.mp hb) a (perm.mem_iff.mp ha) (not_le.mp back)
      exact absurd early (not_le.mpr swapped)
    refine @List.Perm.eq_of_pairwise β (fun a b => name a ≤ name b) _ _ ?_ named sorted listing
    intro x y hx hy up down
    obtain ⟨a, ha, rfl⟩ := List.mem_map.mp hx
    obtain ⟨b, hb, rfl⟩ := List.mem_map.mp (same.mem_iff.mpr hy)
    rw [distinct a (perm.mem_iff.mp ha) b hb (le_antisymm up down)]

/-- `ORDER BY` of one row, and of no other rows, has that row as its only answer. -/
theorem orderedBy_only_iff [LinearOrder τ] {key : α → τ} {rows : List α} {item : α} :
    (∀ answer, OrderedBy key rows answer ↔ answer = [item]) ↔ rows = [item] := by
  constructor
  · intro only
    exact List.perm_singleton.mp ((only [item]).mpr rfl).1.symm
  · intro one answer
    rw [one]
    constructor
    · intro ordered
      exact List.perm_singleton.mp ordered.1
    · intro same
      rw [same]
      exact ⟨List.Perm.refl _, List.pairwise_singleton _ _⟩

theorem length_le_one_iff {items : List α} (nodup : items.Nodup) :
    items.length ≤ 1 ↔ ∀ a ∈ items, ∀ b ∈ items, a = b := by
  cases items with
  | nil => simp
  | cons item rest =>
    cases rest with
    | nil => simp
    | cons other rest =>
      have apart : item ≠ other := fun same => (List.nodup_cons.mp nodup).1 (by rw [same]; exact List.mem_cons_self)
      constructor
      · intro short
        rw [List.length_cons, List.length_cons] at short
        omega
      · intro one
        exact absurd (one item List.mem_cons_self other (List.mem_cons_of_mem _ List.mem_cons_self)) apart

theorem unordered_eq_iff {rows : List α} {listed : List β} {view : α → Option β}
    (nodup : (rows.filterMap view).Nodup) (same : (rows.filterMap view).Perm listed) :
    (∀ answer : List α, answer.Perm rows → answer.filterMap view = listed) ↔ listed.length ≤ 1 := by
  constructor
  · intro agree
    have front := agree rows (List.Perm.refl rows)
    have back := agree rows.reverse (List.reverse_perm rows)
    rw [List.filterMap_reverse, front] at back
    rw [front] at nodup
    by_contra many
    have first : 0 < listed.length := by omega
    have last : listed.length - 1 < listed.length := by omega
    have equal : listed[0] = listed[listed.length - 1] := by
      have bound : 0 < listed.reverse.length := by
        rw [List.length_reverse]
        exact first
      have turned : listed.reverse[0] = listed[0] := by simp only [back]
      rw [← turned, List.getElem_reverse]
      rfl
    have index := (List.Nodup.getElem_inj_iff nodup).mp equal
    omega
  · intro short answer perm
    have listing : (answer.filterMap view).Perm listed := (perm.filterMap view).trans same
    cases listed with
    | nil => exact List.perm_nil.mp listing
    | cons item rest =>
      cases rest with
      | nil => exact List.perm_singleton.mp listing
      | cons other rest => simp at short

theorem foldl_has_iff (has : β → Prop) (adds : α → Prop) {f : β → α → β}
    (step : ∀ acc item, has (f acc item) ↔ has acc ∨ adds item)
    (items : List α) (acc : β) : has (items.foldl f acc) ↔ has acc ∨ ∃ item ∈ items, adds item := by
  induction items generalizing acc with
  | nil => simp
  | cons item rest ih => simp [ih, step, or_assoc]

end Listing
