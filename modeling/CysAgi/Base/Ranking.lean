import Mathlib.Data.List.Pairwise
import Mathlib.Data.List.Sort
import Mathlib.Order.Lattice

namespace Ranking

variable {α : Type}

theorem prefixes_eq_iff {first second whole : List α} (before : first <+: whole) (other : second <+: whole) :
    first = second ↔ first.length = second.length := by
  constructor
  · exact congrArg List.length
  · intro same
    exact (List.prefix_of_prefix_length_le before other same.le).eq_of_length same

/-- The first of the items, at most `limit`, in an order from the highest key to the lowest. Equal keys come in
    any order. -/
def BestOf {κ : Type} [LE κ] (key : α → κ) (limit : Nat) (items best : List α) : Prop :=
  ∃ ranking : List α, ranking.Perm items ∧ ranking.Pairwise (fun a b => key b ≤ key a) ∧ best = ranking.take limit

section

variable {κ : Type} [LinearOrder κ] {key : α → κ} {limit : Nat} {window rest best : List α}

theorem pairwise_ranking (key : α → κ) [DecidableRel fun a b : α => key b ≤ key a] (items : List α) :
    (items.insertionSort fun a b => key b ≤ key a).Pairwise fun a b => key b ≤ key a := by
  have total : Std.Total fun a b => key b ≤ key a := ⟨fun a b => le_total (key b) (key a)⟩
  have trans : IsTrans α fun a b => key b ≤ key a := ⟨fun _ _ _ first second => le_trans second first⟩
  exact List.pairwise_insertionSort _ _

theorem insertionSort_latest [DecidableRel fun a b : α => key b ≤ key a] {rows : List α}
    (ascending : rows.Pairwise fun a b => key a < key b) :
    (rows.insertionSort fun a b => key b ≤ key a) = rows.reverse := by
  have reversed : rows.reverse.Pairwise fun a b => key b ≤ key a :=
    List.pairwise_reverse.mpr (ascending.imp fun earlier => le_of_lt earlier)
  have perm : (rows.insertionSort fun a b => key b ≤ key a).Perm rows.reverse :=
    (List.perm_insertionSort _ rows).trans (List.reverse_perm rows).symm
  refine perm.eq_of_pairwise ?_ (pairwise_ranking key rows) reversed
  intro a b first second below above
  by_contra other
  have either := ascending.imp (fun {a b} earlier => (ne_of_lt earlier : key a ≠ key b))
  have symm : Std.Symm fun a b : α => key a ≠ key b := ⟨fun _ _ apart same => apart same.symm⟩
  have apart := either.forall ((List.perm_insertionSort _ rows).mem_iff.mp first) (List.mem_reverse.mp second) other
  exact apart (le_antisymm above below)

theorem exists_ranking (key : α → κ) (items : List α) :
    ∃ ranking : List α, ranking.Perm items ∧ ranking.Pairwise fun a b => key b ≤ key a :=
  ⟨items.insertionSort fun a b => key b ≤ key a, List.perm_insertionSort _ _, pairwise_ranking key items⟩

/-- A ranking of some of the items holds the best of all of them exactly when there are no others, or the limit is
    reached and no other has a higher key. -/
theorem bestOf_append_iff (perm : best.Perm window) (sorted : best.Pairwise fun a b => key b ≤ key a)
    (short : window.length ≤ limit) :
    BestOf key limit (window ++ rest) best ↔
      rest = [] ∨ (window.length = limit ∧ ∀ a ∈ window, ∀ b ∈ rest, key b ≤ key a) := by
  have size := perm.length_eq
  constructor
  · intro given
    obtain ⟨ranking, all, ranked, taken⟩ := given
    cases rest with
    | nil => exact Or.inl rfl
    | cons item rest =>
      right
      have count := all.length_eq
      rw [List.length_append, List.length_cons] at count
      have cut := congrArg List.length taken
      rw [List.length_take] at cut
      have full : window.length = limit := by omega
      rw [← List.take_append_drop limit ranking, ← taken] at all ranked
      have left : (ranking.drop limit).Perm (item :: rest) :=
        (List.perm_append_left_iff window).mp ((perm.symm.append_right _).trans all)
      constructor
      · exact full
      · intro a ha b hb
        exact (List.pairwise_append.mp ranked).2.2 a (perm.mem_iff.mpr ha) b (left.mem_iff.mpr hb)
  · intro given
    rcases given with none | ⟨full, above⟩
    · rw [none, List.append_nil]
      exact ⟨best, perm, sorted, (List.take_of_length_le (by omega)).symm⟩
    · obtain ⟨others, same, ranked⟩ := exists_ranking key rest
      refine ⟨best ++ others, perm.append same, List.pairwise_append.mpr ⟨sorted, ranked, ?_⟩, ?_⟩
      · intro a ha b hb
        exact above a (perm.mem_iff.mp ha) b (same.mem_iff.mp hb)
      · rw [List.take_append_of_le_length (by omega), List.take_of_length_le (by omega)]

theorem bestOf_window_iff {p : α → Bool} (perm : best.Perm (window.filter p))
    (sorted : best.Pairwise fun a b => key b ≤ key a) (short : window.length ≤ limit)
    (full : rest ≠ [] → window.length = limit) :
    BestOf key limit ((window ++ rest).filter p) best ↔
      (∀ b ∈ rest, ¬ p b) ∨ ∀ a ∈ window, p a ∧ ∀ b ∈ rest, p b → key b ≤ key a := by
  have size := List.length_filter_le p window
  rw [List.filter_append, bestOf_append_iff perm sorted (by omega), List.filter_eq_nil_iff]
  apply or_congr_right'
  intro others
  have some : rest ≠ [] := by
    intro none
    apply others
    rw [none]
    intro b member
    cases member
  rw [← full some, List.length_filter_eq_length_iff]
  constructor
  · intro ⟨kept, above⟩ a ha
    constructor
    · exact kept a ha
    · intro b hb keptToo
      exact above a (List.mem_filter.mpr ⟨ha, kept a ha⟩) b (List.mem_filter.mpr ⟨hb, keptToo⟩)
  · intro given
    constructor
    · intro a ha
      exact (given a ha).1
    · intro a ha b hb
      have left := List.mem_filter.mp hb
      exact (given a (List.mem_filter.mp ha).1).2 b left.1 left.2

theorem bestOf_perm {items others : List α} (perm : items.Perm others) :
    BestOf key limit items best ↔ BestOf key limit others best := by
  constructor
  · intro ⟨ranking, same, ranked⟩
    exact ⟨ranking, same.trans perm, ranked⟩
  · intro ⟨ranking, same, ranked⟩
    exact ⟨ranking, same.trans perm.symm, ranked⟩

theorem bestOf_zero_iff {items : List α} : BestOf key 0 items best ↔ best = [] := by
  constructor
  · intro ⟨ranking, _, _, taken⟩
    rw [taken, List.take_zero]
  · intro none
    obtain ⟨ranking, perm, ranked⟩ := exists_ranking key items
    exact ⟨ranking, perm, ranked, by rw [none, List.take_zero]⟩

theorem BestOf.reaches {items : List α} (given : BestOf key (limit + 1) items best) (item : α) (member : item ∈ items) :
    ∃ a ∈ best, key item ≤ key a := by
  obtain ⟨ranking, perm, ranked, taken⟩ := given
  have inside := perm.mem_iff.mpr member
  cases ranking with
  | nil => cases inside
  | cons first ranking =>
    rw [taken]
    refine ⟨first, List.mem_cons_self, ?_⟩
    rcases List.mem_cons.mp inside with same | later
    · exact le_of_eq (congrArg key same)
    · exact (List.pairwise_cons.mp ranked).1 item later

end

variable {r : α → α → Prop} [DecidableRel r] [IsTrans α r]

theorem filter_orderedInsert {items : List α} (sorted : items.Pairwise r) (p : α → Bool) (a : α) :
    (items.orderedInsert r a).filter p =
      if p a then (items.filter p).orderedInsert r a else items.filter p := by
  induction items with
  | nil =>
    rw [List.orderedInsert_nil, List.filter_singleton]
    cases p a <;> rfl
  | cons b items ih =>
    rw [List.pairwise_cons] at sorted
    by_cases first : r a b
    · rw [List.orderedInsert_cons_of_le _ _ first, List.filter_cons]
      by_cases kept : p a = true
      · rw [if_pos kept, if_pos kept]
        have leads : ∀ c ∈ (b :: items).filter p, r a c := by
          intro c member
          rcases List.mem_cons.mp (List.mem_filter.mp member).1 with rfl | member
          · exact first
          · exact Trans.trans first (sorted.1 c member)
        cases tail : (b :: items).filter p with
        | nil => rfl
        | cons c rest =>
          rw [tail] at leads
          rw [List.orderedInsert_cons_of_le _ _ (leads c List.mem_cons_self)]
      · rw [if_neg kept, if_neg kept]
    · rw [List.orderedInsert_of_not_le _ _ first, List.filter_cons, List.filter_cons, ih sorted.2]
      by_cases keptHead : p b = true
      · rw [if_pos keptHead, if_pos keptHead]
        by_cases kept : p a = true
        · rw [if_pos kept, if_pos kept, List.orderedInsert_of_not_le _ _ first]
        · rw [if_neg kept, if_neg kept]
      · rw [if_neg keptHead, if_neg keptHead]

theorem filter_insertionSort [Std.Total r] (p : α → Bool) (items : List α) :
    (items.insertionSort r).filter p = (items.filter p).insertionSort r := by
  induction items with
  | nil => rfl
  | cons a items ih =>
    rw [List.insertionSort_cons, filter_orderedInsert (List.pairwise_insertionSort r items), ih, List.filter_cons]
    by_cases kept : p a = true
    · rw [if_pos kept, if_pos kept, List.insertionSort_cons]
    · rw [if_neg kept, if_neg kept]

end Ranking
