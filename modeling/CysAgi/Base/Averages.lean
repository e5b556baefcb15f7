import Mathlib.Analysis.Convex.Basic

open Set

namespace Averages

section

variable {K : Type} [Field K]

def blend (alpha average sample : K) : K := (1 - alpha) * average + alpha * sample

theorem blend_sub (alpha average sample : K) : blend alpha average sample - average = alpha * (sample - average) := by
  unfold blend
  ring

theorem blend_eq_sample_iff (alpha average sample : K) :
    sample = blend alpha average sample ↔ alpha = 1 ∨ sample = average := by
  have factored : sample - blend alpha average sample = (1 - alpha) * (sample - average) := by
    unfold blend
    ring
  rw [← sub_eq_zero, factored, mul_eq_zero, sub_eq_zero, sub_eq_zero]
  exact or_congr_left eq_comm

theorem average_eq_blend_iff (alpha average sample : K) :
    average = blend alpha average sample ↔ alpha = 0 ∨ sample = average := by
  rw [eq_comm, ← sub_eq_zero, blend_sub, mul_eq_zero, sub_eq_zero]

theorem mean_mul_count {mean count total sample : K} (counted : count + 1 ≠ 0) (tally : mean * count = total) :
    (mean * count + sample) / (count + 1) * (count + 1) = total + sample := by
  rw [div_mul_cancel₀ _ counted, tally]

end

section

variable {K : Type} [Field K] [LinearOrder K] [IsStrictOrderedRing K]

theorem blend_mem_Icc {alpha average sample low high : K} (weight : alpha ∈ Icc 0 1)
    (held : average ∈ Icc low high) (given : sample ∈ Icc low high) : blend alpha average sample ∈ Icc low high := by
  have rest : 0 ≤ 1 - alpha := sub_nonneg.mpr weight.2
  exact convex_Icc low high held given rest weight.1 (sub_add_cancel 1 alpha)

theorem abs_blend_sub {alpha : K} (weight : 0 ≤ alpha) (average sample : K) :
    |blend alpha average sample - average| = alpha * |sample - average| := by
  rw [blend_sub, abs_mul, abs_of_nonneg weight]

end

end Averages
