import Mathlib.Data.List.DropRight
import Mathlib.Data.List.Count

namespace Streak

variable {α : Type} (p : α → Bool)

def Within (bound : Nat) (l : List α) : Prop :=
  ∀ block, block <:+: l → (∀ a ∈ block, p a = true) → block.length ≤ bound

variable {p} {l : List α} {a : α} {bound : Nat}

theorem suffix_le_streak {t : List α} (suffix : t <:+ l) (all : ∀ b ∈ t, p b = true) :
    t.length ≤ (l.rtakeWhile p).length := by
  induction l using List.reverseRecOn generalizing t with
  | nil =>
    rw [List.suffix_nil.mp suffix]
    exact Nat.zero_le _
  | append_singleton l a ih =>
    rcases List.suffix_concat_iff.mp suffix with rfl | ⟨u, rfl, earlier⟩
    · exact Nat.zero_le _
    · have last : p a = true := all a (by simp)
      have before := ih earlier fun b member => all b (by simp [member])
      rw [List.rtakeWhile_concat_pos p l a last, List.length_append, List.length_append]
      simpa using before

theorem Within.streak (within : Within p bound l) : (l.rtakeWhile p).length ≤ bound := by
  apply within
  · exact (List.rtakeWhile_suffix p l).isInfix
  · intro b member
    exact List.mem_rtakeWhile_imp member

theorem within_concat_iff (within : Within p bound l) :
    Within p bound (l ++ [a]) ↔ (p a = true → (l.rtakeWhile p).length < bound) := by
  constructor
  · intro extended last
    have longer := extended.streak
    rw [List.rtakeWhile_concat_pos p l a last, List.length_append] at longer
    exact longer
  · intro shorter block contained all
    rcases List.infix_concat_iff.mp contained with suffix | earlier
    · rcases List.suffix_concat_iff.mp suffix with rfl | ⟨u, rfl, before⟩
      · exact Nat.zero_le _
      · have last : p a = true := all a (by simp)
        have short := suffix_le_streak before fun b member => all b (by simp [member])
        have room := shorter last
        rw [List.length_append, List.length_singleton]
        omega
    · exact within block earlier all

theorem within_nil : Within p bound ([] : List α) := by
  intro block contained _
  rw [List.infix_nil.mp contained]
  exact Nat.zero_le _

end Streak
