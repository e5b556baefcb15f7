import Mathlib.Data.List.TakeWhile
import Mathlib.Data.List.Infix

namespace Dropping

variable {α : Type} (p : α → Bool)

def dropFirst : Nat → List α → List α
  | _, [] => []
  | n, a :: rest =>
    if p a then
      match n with
      | 0 => a :: dropFirst 0 rest
      | n + 1 => dropFirst n rest
    else a :: dropFirst n rest

def places (start : Nat) (l : List α) : List Nat := ((l.zipIdx start).filter fun entry => p entry.1).map Prod.snd

variable {p} {n : Nat} {a : α} {l rest : List α}

theorem dropFirst_of_not (other : p a = false) : dropFirst p n (a :: rest) = a :: dropFirst p n rest := by
  simp [dropFirst, other]

theorem dropFirst_succ (has : p a = true) : dropFirst p (n + 1) (a :: rest) = dropFirst p n rest := by
  simp [dropFirst, has]

@[simp] theorem dropFirst_zero (l : List α) : dropFirst p 0 l = l := by
  induction l with
  | nil => rfl
  | cons a rest ih =>
    unfold dropFirst
    split <;> rw [ih]

theorem dropFirst_append (l m : List α) :
    dropFirst p n (l ++ m) = dropFirst p n l ++ dropFirst p (n - l.countP p) m := by
  induction l generalizing n with
  | nil => rfl
  | cons a rest ih =>
    cases has : p a with
    | false =>
      rw [List.cons_append, dropFirst_of_not has, dropFirst_of_not has, ih, List.cons_append,
        List.countP_cons_of_neg (by simp [has])]
    | true =>
      cases n with
      | zero => simp
      | succ n =>
        rw [List.cons_append, dropFirst_succ has, dropFirst_succ has, ih, List.countP_cons_of_pos has,
          Nat.add_sub_add_right]

theorem dropFirst_of_all (all : ∀ a ∈ l, p a = true) : dropFirst p n l = l.drop n := by
  induction l generalizing n with
  | nil => simp [dropFirst]
  | cons a rest ih =>
    have others := fun b member => all b (List.mem_cons_of_mem a member)
    cases n with
    | zero => simp
    | succ n => rw [dropFirst_succ (all a List.mem_cons_self), ih others, List.drop_succ_cons]

theorem takeWhile_dropFirst : (dropFirst p n l).takeWhile p = (l.takeWhile p).drop n := by
  induction l generalizing n with
  | nil => simp [dropFirst]
  | cons a rest ih =>
    cases has : p a with
    | false => simp [dropFirst_of_not has, has]
    | true =>
      cases n with
      | zero => simp
      | succ n => rw [dropFirst_succ has, ih, List.takeWhile_cons_of_pos has, List.drop_succ_cons]

theorem dropFirst_split {before behind : List α} (split : dropFirst p n l = before ++ a :: behind) :
    ∃ earlier later, l = earlier ++ a :: later ∧ before = dropFirst p n earlier ∧
      behind = dropFirst p (n - (earlier ++ [a]).countP p) later ∧ (p a = true → n ≤ earlier.countP p) := by
  induction l generalizing n before with
  | nil => simp [dropFirst] at split
  | cons b rest ih =>
    cases has : p b with
    | false =>
      rw [dropFirst_of_not has] at split
      cases before with
      | nil =>
        obtain ⟨rfl, rfl⟩ := List.cons.inj split
        exact ⟨[], rest, rfl, rfl, by simp [has], by simp [has]⟩
      | cons c before =>
        obtain ⟨rfl, within⟩ := List.cons.inj split
        obtain ⟨earlier, later, rfl, rfl, rfl, bound⟩ := ih within
        refine ⟨b :: earlier, later, rfl, (dropFirst_of_not has).symm, ?_, ?_⟩
        · rw [List.cons_append, List.countP_cons_of_neg (by simp [has])]
        · rw [List.countP_cons_of_neg (by simp [has])]
          exact bound
    | true =>
      cases n with
      | zero =>
        rw [dropFirst_zero] at split
        refine ⟨before, behind, split, (dropFirst_zero before).symm, ?_, fun _ => Nat.zero_le _⟩
        rw [Nat.zero_sub, dropFirst_zero]
      | succ n =>
        rw [dropFirst_succ has] at split
        obtain ⟨earlier, later, rfl, rfl, rfl, bound⟩ := ih split
        refine ⟨b :: earlier, later, rfl, (dropFirst_succ has).symm, ?_, ?_⟩
        · rw [List.cons_append, List.countP_cons_of_pos has, Nat.add_sub_add_right]
        · rw [List.countP_cons_of_pos has]
          intro holds
          have below := bound holds
          omega

theorem mem_dropFirst_of_not (other : p a = false) (member : a ∈ l) : a ∈ dropFirst p n l := by
  obtain ⟨earlier, later, rfl⟩ := List.append_of_mem member
  rw [dropFirst_append, dropFirst_of_not other]
  simp

theorem mem_drop_takeWhile_iff : a ∈ (l.takeWhile p).drop n ↔
    ∃ run later, l = run ++ a :: later ∧ (∀ b ∈ run, p b = true) ∧ p a = true ∧ n ≤ run.length := by
  constructor
  · intro member
    obtain ⟨s, t, split⟩ := List.append_of_mem member
    have front : l.takeWhile p = (l.takeWhile p).take n ++ s ++ a :: t := by
      rw [List.append_assoc, ← split, List.take_append_drop]
    have all : ∀ b ∈ (l.takeWhile p).take n ++ s ++ a :: t, p b = true := by
      rw [← front]
      intro b listed
      exact List.mem_takeWhile_imp listed
    have long : n < (l.takeWhile p).length := by
      by_contra short
      rw [List.drop_of_length_le (by omega)] at split
      simp at split
    refine ⟨(l.takeWhile p).take n ++ s, t ++ l.dropWhile p, ?_, ?_, ?_, ?_⟩
    · rw [← List.cons_append, ← List.append_assoc, ← front, List.takeWhile_append_dropWhile]
    · intro b listed
      exact all b (List.mem_append_left _ listed)
    · exact all a (by simp)
    · rw [List.length_append, List.length_take]
      omega
  · rintro ⟨run, later, rfl, all, has, bound⟩
    rw [List.takeWhile_append_of_pos all, List.takeWhile_cons_of_pos has, List.drop_append_of_le_length bound]
    simp

theorem mem_takeWhile_filter {q : α → Bool} (keeps : ∀ b, p b = true → q b = true) (member : a ∈ l.takeWhile p) :
    a ∈ (l.filter q).takeWhile p := by
  induction l with
  | nil => cases member
  | cons b rest ih =>
    cases has : p b with
    | false =>
      rw [List.takeWhile_cons_of_neg (by simp [has])] at member
      cases member
    | true =>
      rw [List.takeWhile_cons_of_pos has] at member
      rw [List.filter_cons_of_pos (keeps b has), List.takeWhile_cons_of_pos has]
      rcases List.mem_cons.mp member with rfl | later
      · exact List.mem_cons_self
      · exact List.mem_cons_of_mem b (ih later)

theorem append_split {left right before behind : List α} (split : left ++ right = before ++ a :: behind)
    (absent : a ∉ left) : ∃ middle, before = left ++ middle ∧ right = middle ++ a :: behind := by
  rcases List.append_eq_append_iff.mp split with ⟨middle, rfl, same⟩ | ⟨cut, rfl, same⟩
  · exact ⟨middle, rfl, same⟩
  · cases cut with
    | nil => exact ⟨[], by simp, by simpa using same.symm⟩
    | cons b cut =>
      obtain ⟨rfl, -⟩ := List.cons.inj same
      exact absurd (by simp) absent

theorem not_of_dropWhile_eq_cons (split : l.dropWhile p = a :: rest) : p a = false := by
  have head := List.head?_dropWhile_not p l
  rw [split] at head
  exact head

theorem le_of_mem_places {start place : Nat} (member : place ∈ places p start l) : start ≤ place := by
  obtain ⟨entry, listed, rfl⟩ := List.mem_map.mp member
  exact List.le_snd_of_mem_zipIdx (List.mem_of_mem_filter listed)

theorem filter_places (l : List α) (n start : Nat) :
    ((l.zipIdx start).filter fun entry => entry.2 ∉ (places p start l).take n).map Prod.fst = dropFirst p n l := by
  induction l generalizing n start with
  | nil => rfl
  | cons a rest ih =>
    have later : ∀ place ∈ places p (start + 1) rest, start ≠ place := by
      intro place member
      have bound := le_of_mem_places member
      omega
    cases has : p a with
    | false =>
      have same : places p start (a :: rest) = places p (start + 1) rest := by
        simp [places, List.zipIdx_cons, has]
      have stays : start ∉ (places p (start + 1) rest).take n :=
        fun member => later start (List.mem_of_mem_take member) rfl
      rw [same, dropFirst_of_not has, ← ih n (start + 1), List.zipIdx_cons,
        List.filter_cons_of_pos (by simpa using stays), List.map_cons]
    | true =>
      have first : places p start (a :: rest) = start :: places p (start + 1) rest := by
        simp [places, List.zipIdx_cons, has]
      cases n with
      | zero =>
        simp
      | succ n =>
        rw [first, dropFirst_succ has, ← ih n (start + 1), List.zipIdx_cons, List.take_succ_cons,
          List.filter_cons_of_neg (by simp)]
        congr 1
        apply List.filter_congr
        intro entry member
        have bound := List.le_snd_of_mem_zipIdx member
        have other : entry.2 ≠ start := by omega
        simp [other]

end Dropping
