import Mathlib.Algebra.Order.Group.Defs
import Mathlib.Data.List.Basic

namespace SlidingWindow

variable {Time : Type} [AddCommGroup Time] [LinearOrder Time]

def inside (window start : Time) (times : List Time) : List Time :=
  times.filter fun t => start ≤ t ∧ t ≤ start + window

def recent (window now : Time) (times : List Time) : List Time := times.filter fun t => now - t ≤ window

def Bounded (limit : Int) (window : Time) (times : List Time) : Prop :=
  ∀ start, ((inside window start times).length : Int) ≤ limit

section

variable {window now start : Time} {limit : Int} {times : List Time}

theorem bounded_nil (room : 0 ≤ limit) : Bounded limit window [] := fun _ => room

theorem recent_append (left right : List Time) :
    recent window now (left ++ right) = recent window now left ++ recent window now right := List.filter_append ..

theorem recent_of_old (old : ∀ t ∈ times, window < now - t) : recent window now times = [] := by
  apply List.filter_eq_nil_iff.mpr
  intro t member within
  exact absurd (of_decide_eq_true within) (not_le.mpr (old t member))

variable [IsOrderedAddMonoid Time]

theorem inside_length_le_recent (lasts : now ≤ start + window) :
    (inside window start times).length ≤ (recent window now times).length := by
  apply List.Sublist.length_le
  apply List.monotone_filter_right
  intro t within
  have after : start ≤ t := (of_decide_eq_true within).1
  apply decide_eq_true
  calc now - t ≤ start + window - t := sub_le_sub_right lasts t
    _ ≤ t + window - t := sub_le_sub_right (add_le_add_left after window) t
    _ = window := add_sub_cancel_left t window

theorem Bounded.concat (bounded : Bounded limit window times)
    (room : ((recent window now times).length : Int) < limit) : Bounded limit window (times ++ [now]) := by
  intro start
  have before := bounded start
  have split : inside window start (times ++ [now]) = inside window start times ++ inside window start [now] :=
    List.filter_append ..
  rw [split, List.length_append]
  by_cases within : start ≤ now ∧ now ≤ start + window
  · have fewer := @inside_length_le_recent _ _ _ window now start times _ within.2
    have one : (inside window start [now]).length ≤ 1 := List.length_filter_le _ _
    omega
  · have none : inside window start [now] = [] := by
      rw [inside, List.filter_cons, if_neg]
      · rfl
      · simpa using within
    rw [none, List.length_nil]
    exact before

theorem dropWhile_eq_recent (ordered : times.Pairwise (· ≤ ·)) :
    times.dropWhile (fun t => decide (window < now - t)) = recent window now times := by
  induction times with
  | nil => rfl
  | cons first rest ih =>
    obtain ⟨earliest, ordered⟩ := List.pairwise_cons.mp ordered
    by_cases old : window < now - first
    · have gone : recent window now (first :: rest) = recent window now rest := by
        rw [recent, List.filter_cons, if_neg]
        · rfl
        · intro within
          exact absurd (of_decide_eq_true within) (not_le.mpr old)
      rw [List.dropWhile_cons, if_pos (decide_eq_true old), ih ordered, gone]
    · have kept : ∀ t ∈ first :: rest, decide (now - t ≤ window) = true := by
        intro t member
        have later : first ≤ t := by
          rcases List.mem_cons.mp member with rfl | behind
          · exact le_refl t
          · exact earliest t behind
        exact decide_eq_true (le_trans (sub_le_sub_left later now) (not_lt.mp old))
      have stays : ¬ decide (window < now - first) = true := fun gone => old (of_decide_eq_true gone)
      rw [List.dropWhile_cons, if_neg stays, recent, List.filter_eq_self.mpr kept]

end

end SlidingWindow
