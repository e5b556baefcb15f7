import Mathlib.Data.List.Infix
import Mathlib.Data.List.TakeWhile
import Mathlib.Data.List.Chain

namespace Py

variable {α : Type} [DecidableEq α] (dot : α → Bool) (least : Nat)

/-- `re.sub(r"(.)\1{least,}", r"\1", text)` from left to right, where so many characters of the last match are still to
    be passed. -/
def squeezeFrom : Nat → List α → List α
  | _, [] => []
  | left + 1, _ :: rest => squeezeFrom left rest
  | 0, c :: rest =>
    let more := (rest.takeWhile (· = c)).length
    c :: squeezeFrom (if dot c && decide (least ≤ more) then more else 0) rest

def squeeze (text : List α) : List α := squeezeFrom dot least 0 text

def NoRepeat (text : List α) : Prop := ∀ c, dot c = true → ¬ List.replicate (least + 1) c <:+: text

variable {dot least}

theorem squeezeFrom_eq_drop (left : Nat) (text : List α) :
    squeezeFrom dot least left text = squeeze dot least (text.drop left) := by
  induction text generalizing left with
  | nil => cases left <;> simp [squeeze, squeezeFrom]
  | cons c rest ih =>
    cases left with
    | zero => rfl
    | succ left => exact ih left

theorem takeWhile_eq_replicate (c : α) (text : List α) :
    text.takeWhile (· = c) = List.replicate (text.takeWhile (· = c)).length c := by
  rw [List.eq_replicate_iff]
  refine ⟨rfl, fun d member => ?_⟩
  have same := List.mem_takeWhile_imp member
  exact of_decide_eq_true same

theorem replicate_prefix_iff {c : α} {times : Nat} {text : List α} :
    List.replicate times c <+: text ↔ times ≤ (text.takeWhile (· = c)).length := by
  constructor
  · rintro ⟨after, rfl⟩
    rw [List.takeWhile_append_of_pos, List.length_append, List.length_replicate]
    · omega
    · intro d member
      exact decide_eq_true (List.eq_of_mem_replicate member)
  · intro long
    have starts : List.replicate times c <+: text.takeWhile (· = c) := by
      rw [takeWhile_eq_replicate, List.prefix_replicate_iff, List.length_replicate]
      exact ⟨long, rfl⟩
    exact starts.trans (List.takeWhile_prefix _)

theorem head_dropWhile_ne (c : α) (text : List α) : (text.dropWhile (· = c)).head? ≠ some c := by
  intro same
  have stops := List.head?_dropWhile_not (· = c) text
  rw [same] at stops
  exact absurd rfl (of_decide_eq_false stops)

theorem squeeze_run {c : α} {times : Nat} {rest : List α} (taken : dot c = true) (long : least ≤ times)
    (other : rest.head? ≠ some c) :
    squeeze dot least (c :: (List.replicate times c ++ rest)) = c :: squeeze dot least rest := by
  have ended : rest.takeWhile (· = c) = [] := by
    cases rest with
    | nil => rfl
    | cons d rest => exact List.takeWhile_cons_of_neg (by simpa using other)
  have more : (List.replicate times c ++ rest).takeWhile (· = c) = List.replicate times c := by
    rw [List.takeWhile_append_of_pos, ended, List.append_nil]
    intro d member
    exact decide_eq_true (List.eq_of_mem_replicate member)
  unfold squeeze
  rw [squeezeFrom]
  simp only [more, List.length_replicate, taken, decide_eq_true long, Bool.and_self, if_true]
  rw [squeezeFrom_eq_drop, List.drop_left' List.length_replicate, squeeze]

theorem squeeze_single {c : α} {rest : List α} (single : dot c = true → ¬ List.replicate least c <+: rest) :
    squeeze dot least (c :: rest) = c :: squeeze dot least rest := by
  have short : (dot c && decide (least ≤ (rest.takeWhile (· = c)).length)) = false := by
    rw [← Bool.not_eq_true, Bool.and_eq_true, decide_eq_true_eq]
    rintro ⟨taken, long⟩
    exact single taken (replicate_prefix_iff.mpr long)
  unfold squeeze
  rw [squeezeFrom]
  simp only [short, Bool.false_eq_true, if_false]

theorem squeeze_induction (dot : α → Bool) (least : Nat) {motive : List α → Prop} (nil : motive [])
    (run : ∀ c times rest, dot c = true → least ≤ times → rest.head? ≠ some c → motive rest →
      motive (c :: (List.replicate times c ++ rest)))
    (single : ∀ c rest, (dot c = true → ¬ List.replicate least c <+: rest) → motive rest → motive (c :: rest))
    (text : List α) : motive text := by
  induction size : text.length using Nat.strong_induction_on generalizing text with
  | _ length ih =>
    cases text with
    | nil => exact nil
    | cons c rest =>
      rw [List.length_cons] at size
      by_cases repeats : dot c = true ∧ List.replicate least c <+: rest
      · have shorter : (rest.dropWhile (· = c)).length ≤ rest.length := (List.dropWhile_suffix _).length_le
        have later := run c _ _ repeats.1 (replicate_prefix_iff.mp repeats.2) (head_dropWhile_ne c rest)
          (ih _ (by omega) _ rfl)
        rw [← takeWhile_eq_replicate, List.takeWhile_append_dropWhile] at later
        exact later
      · exact single c rest (fun taken starts => repeats ⟨taken, starts⟩) (ih _ (by omega) rest rfl)

theorem head?_squeeze (text : List α) : (squeeze dot least text).head? = text.head? := by
  cases text with
  | nil => rfl
  | cons c rest => rfl

theorem squeeze_of_noRepeat {text : List α} (none : NoRepeat dot least text) : squeeze dot least text = text := by
  induction text with
  | nil => rfl
  | cons c rest ih =>
    have single : dot c = true → ¬ List.replicate least c <+: rest := by
      intro taken starts
      apply none c taken
      rw [List.replicate_succ]
      exact ((List.prefix_cons_inj c).mpr starts).isInfix
    rw [squeeze_single single, ih fun d taken inside => none d taken (List.infix_cons inside)]

theorem replicate_prefix_of_squeeze {c : α} {times : Nat} {text : List α}
    (starts : List.replicate times c <+: squeeze dot least text) : List.replicate times c <+: text := by
  induction text using squeeze_induction dot least generalizing times with
  | nil => exact starts
  | run d more rest taken long other ih =>
    rw [squeeze_run taken long other] at starts
    cases times with
    | zero => exact List.nil_prefix
    | succ times =>
      rw [List.replicate_succ, List.cons_prefix_cons] at starts ⊢
      refine ⟨starts.1, ?_⟩
      cases times with
      | zero => exact List.nil_prefix
      | succ times =>
        obtain ⟨after, spelled⟩ := ih starts.2
        rw [← spelled, starts.1] at other
        exact absurd rfl other
  | single d rest single ih =>
    rw [squeeze_single single] at starts
    cases times with
    | zero => exact List.nil_prefix
    | succ times =>
      rw [List.replicate_succ, List.cons_prefix_cons] at starts ⊢
      exact ⟨starts.1, ih starts.2⟩

theorem noRepeat_squeeze (some : 0 < least) (text : List α) : NoRepeat dot least (squeeze dot least text) := by
  intro c given
  rw [List.replicate_succ]
  induction text using squeeze_induction dot least with
  | nil => simp [squeeze, squeezeFrom]
  | run d more rest taken long other ih =>
    rw [squeeze_run taken long other, List.infix_cons_iff, List.cons_prefix_cons]
    rintro (⟨rfl, starts⟩ | inside)
    · obtain ⟨after, spelled⟩ := replicate_prefix_of_squeeze starts
      obtain ⟨fewer, rfl⟩ := Nat.exists_eq_succ_of_ne_zero some.ne'
      rw [← spelled] at other
      exact absurd rfl other
    · exact ih inside
  | single d rest single ih =>
    rw [squeeze_single single, List.infix_cons_iff, List.cons_prefix_cons]
    rintro (⟨rfl, starts⟩ | inside)
    · exact single given (replicate_prefix_of_squeeze starts)
    · exact ih inside

theorem prefix_of_squeeze {start text : List α} (starts : start <+: squeeze dot least text) :
    ∃ whole, whole <+: text ∧ ∀ d, d ∈ whole ↔ d ∈ start := by
  induction text using squeeze_induction dot least generalizing start with
  | nil => exact ⟨start, starts, fun _ => Iff.rfl⟩
  | run c more rest taken long other ih =>
    rw [squeeze_run taken long other] at starts
    rcases List.prefix_cons_iff.mp starts with rfl | ⟨later, rfl, begun⟩
    · exact ⟨[], List.nil_prefix, fun _ => Iff.rfl⟩
    · obtain ⟨whole, begins, same⟩ := ih begun
      refine ⟨c :: (List.replicate more c ++ whole), ?_, fun d => ?_⟩
      · exact (List.prefix_cons_inj c).mpr ((List.prefix_append_right_inj _).mpr begins)
      · rw [List.mem_cons, List.mem_cons, List.mem_append, same]
        constructor
        · rintro (rfl | repeated | found)
          · exact .inl rfl
          · exact .inl (List.eq_of_mem_replicate repeated)
          · exact .inr found
        · exact Or.imp_right .inr
  | single c rest single ih =>
    rw [squeeze_single single] at starts
    rcases List.prefix_cons_iff.mp starts with rfl | ⟨later, rfl, begun⟩
    · exact ⟨[], List.nil_prefix, fun _ => Iff.rfl⟩
    · obtain ⟨whole, begins, same⟩ := ih begun
      refine ⟨c :: whole, (List.prefix_cons_inj c).mpr begins, fun d => ?_⟩
      rw [List.mem_cons, List.mem_cons, same]

theorem suffix_of_squeeze {after text : List α} (ends : after <:+ squeeze dot least text) :
    ∃ later, later <:+ text ∧ squeeze dot least later = after := by
  induction text using squeeze_induction dot least with
  | nil => exact ⟨[], List.suffix_rfl, (List.suffix_nil.mp ends).symm⟩
  | run c more rest taken long other ih =>
    rw [squeeze_run taken long other] at ends
    rcases List.suffix_cons_iff.mp ends with rfl | ended
    · exact ⟨_, List.suffix_rfl, squeeze_run taken long other⟩
    · obtain ⟨later, inside, same⟩ := ih ended
      exact ⟨later, inside.trans ((List.suffix_append _ rest).trans (List.suffix_cons c _)), same⟩
  | single c rest single ih =>
    rw [squeeze_single single] at ends
    rcases List.suffix_cons_iff.mp ends with rfl | ended
    · exact ⟨_, List.suffix_rfl, squeeze_single single⟩
    · obtain ⟨later, inside, same⟩ := ih ended
      exact ⟨later, inside.trans (List.suffix_cons c rest), same⟩

theorem infix_of_squeeze {part text : List α} (inside : part <:+: squeeze dot least text) :
    ∃ whole, whole <:+: text ∧ ∀ d, d ∈ whole ↔ d ∈ part := by
  obtain ⟨after, starts, ends⟩ := List.infix_iff_prefix_suffix.mp inside
  obtain ⟨later, ended, rfl⟩ := suffix_of_squeeze ends
  obtain ⟨whole, begins, same⟩ := prefix_of_squeeze starts
  exact ⟨whole, begins.isInfix.trans ended.isInfix, same⟩

theorem squeeze_subset (text : List α) : squeeze dot least text ⊆ text := by
  intro c member
  obtain ⟨whole, inside, same⟩ := infix_of_squeeze ((List.singleton_infix_iff c _).mpr member)
  exact inside.subset ((same c).mpr List.mem_cons_self)

theorem isChain_squeeze {R : α → α → Prop} {text : List α} (chain : text.IsChain R) :
    (squeeze dot least text).IsChain R := by
  induction text using squeeze_induction dot least with
  | nil => exact chain
  | run c more rest taken long other ih =>
    rw [squeeze_run taken long other, List.isChain_cons, head?_squeeze]
    rw [← List.cons_append, ← List.replicate_succ, List.isChain_append] at chain
    refine ⟨fun d starts => chain.2.2 c ?_ d starts, ih chain.2.1⟩
    simp [List.getLast?_replicate]
  | single c rest single ih =>
    rw [squeeze_single single, List.isChain_cons, head?_squeeze]
    rw [List.isChain_cons] at chain
    exact ⟨chain.1, ih chain.2⟩

end Py
