import Mathlib.Data.List.Perm.Basic
import Mathlib.Logic.Function.Iterate
import CysAgi.Base.Transition

/- Jobs are put at places, and each reader takes the jobs of one place in order. -/
namespace Dispatch

structure Rules (Reader Job Place : Type) where
  puts : Job → Place
  reads : Reader → Place
  wants : Reader → Job → Bool

structure Lines (Reader Job Place : Type) where
  lines : Place → List Job
  sent : List Job
  got : Reader → List Job

inductive Move (Reader Job : Type) where
  | send (job : Job)
  | take (reader : Reader)

section

variable {Reader Job Place : Type} [DecidableEq Reader] [DecidableEq Place] (rules : Rules Reader Job Place)

def send (s : Lines Reader Job Place) (job : Job) : Lines Reader Job Place :=
  { s with
    lines := Function.update s.lines (rules.puts job) (s.lines (rules.puts job) ++ [job])
    sent := s.sent ++ [job] }

def take (s : Lines Reader Job Place) (reader : Reader) : Lines Reader Job Place :=
  match s.lines (rules.reads reader) with
  | [] => s
  | job :: rest =>
    { s with
      lines := Function.update s.lines (rules.reads reader) rest
      got := Function.update s.got reader (s.got reader ++ [job]) }

def step (s : Lines Reader Job Place) : Move Reader Job → Option (Lines Reader Job Place)
  | .send job => some (send rules s job)
  | .take reader => some (take rules s reader)

def Served (reader : Reader) (s : Lines Reader Job Place) : Prop :=
  ∃ n, ∀ m ≥ n, (((fun t => take rules t reader)^[m] s).got reader).Perm (s.sent.filter (rules.wants reader))

def Separate (reader : Reader) (s : Lines Reader Job Place) : Move Reader Job → Prop
  | .send job => rules.puts job = rules.reads reader ↔ rules.wants reader job = true
  | .take other => other = reader ∨ rules.reads other ≠ rules.reads reader ∨ s.lines (rules.reads reader) = []

variable {rules}

theorem take_self (s : Lines Reader Job Place) (reader : Reader) :
    (take rules s reader).got reader = s.got reader ++ (s.lines (rules.reads reader)).take 1 ∧
      (take rules s reader).lines (rules.reads reader) = (s.lines (rules.reads reader)).tail := by
  unfold take
  cases line : s.lines (rules.reads reader) with
  | nil => simp [line]
  | cons job rest => simp

theorem got_takes (reader : Reader) (n : Nat) (s : Lines Reader Job Place) :
    ((fun t => take rules t reader)^[n] s).got reader =
      s.got reader ++ (s.lines (rules.reads reader)).take n := by
  induction n generalizing s with
  | zero => simp
  | succ n ih =>
    obtain ⟨got, line⟩ := @take_self Reader Job Place _ _ rules s reader
    rw [Function.iterate_succ_apply, ih, got, line, List.append_assoc]
    cases s.lines (rules.reads reader) <;> simp

/-- What the reader gets in the end is what it has and the whole line it takes from. -/
theorem served_iff (reader : Reader) (s : Lines Reader Job Place) :
    Served rules reader s ↔
      (s.got reader ++ s.lines (rules.reads reader)).Perm (s.sent.filter (rules.wants reader)) := by
  constructor
  · intro given
    obtain ⟨n, served⟩ := given
    have late := served (n + (s.lines (rules.reads reader)).length) (Nat.le_add_right ..)
    rwa [got_takes, List.take_of_length_le (Nat.le_add_left ..)] at late
  · intro whole
    refine ⟨(s.lines (rules.reads reader)).length, ?_⟩
    intro m long
    rwa [got_takes, List.take_of_length_le long]

theorem served_send_iff {reader : Reader} {s : Lines Reader Job Place} (served : Served rules reader s) (job : Job) :
    Served rules reader (send rules s job) ↔ (rules.puts job = rules.reads reader ↔ rules.wants reader job = true) := by
  rw [served_iff] at served ⊢
  have lengths := served.length_eq
  have sent : (send rules s job).sent.filter (rules.wants reader) =
      s.sent.filter (rules.wants reader) ++ if rules.wants reader job then [job] else [] := by
    simp only [send, List.filter_append, List.filter_singleton]
    cases rules.wants reader job <;> rfl
  rw [sent]
  by_cases here : rules.puts job = rules.reads reader
  · have line : (send rules s job).lines (rules.reads reader) = s.lines (rules.reads reader) ++ [job] := by
      simp [send, here]
    rw [line]
    by_cases wanted : rules.wants reader job = true
    · simp only [here, wanted, if_true, iff_true]
      rw [← List.append_assoc]
      exact served.append_right [job]
    · simp only [here, wanted, iff_false, not_true_eq_false, Bool.false_eq_true, if_false, List.append_nil]
      intro same
      have longer := same.length_eq
      simp only [List.length_append, List.length_singleton] at longer lengths
      simp only [send] at longer
      omega
  · have line : (send rules s job).lines (rules.reads reader) = s.lines (rules.reads reader) := by
      simp only [send]
      exact Function.update_of_ne (Ne.symm here) _ _
    rw [line]
    by_cases wanted : rules.wants reader job = true
    · simp only [here, wanted, if_true, false_iff, not_true_eq_false, iff_false]
      intro same
      have longer := same.length_eq
      simp only [List.length_append, List.length_singleton] at longer lengths
      simp only [send] at longer
      omega
    · simp only [here, wanted, if_false, List.append_nil, iff_true, Bool.false_eq_true]
      exact served

theorem served_take_iff {reader : Reader} {s : Lines Reader Job Place} (served : Served rules reader s)
    (other : Reader) :
    Served rules reader (take rules s other) ↔
      other = reader ∨ rules.reads other ≠ rules.reads reader ∨ s.lines (rules.reads reader) = [] := by
  rw [served_iff] at served ⊢
  have sent : (take rules s other).sent = s.sent := by
    unfold take
    split <;> rfl
  rw [sent]
  by_cases own : other = reader
  · subst own
    obtain ⟨got, line⟩ := @take_self Reader Job Place _ _ rules s other
    have whole : (s.lines (rules.reads other)).take 1 ++ (s.lines (rules.reads other)).tail =
        s.lines (rules.reads other) := by
      cases s.lines (rules.reads other) <;> rfl
    rw [got, line, List.append_assoc, whole]
    exact iff_of_true served (.inl rfl)
  · have got : (take rules s other).got reader = s.got reader := by
      unfold take
      split
      · rfl
      · exact Function.update_of_ne (Ne.symm own) _ _
    rw [got]
    by_cases same : rules.reads other = rules.reads reader
    · obtain ⟨-, line⟩ := @take_self Reader Job Place _ _ rules s other
      rw [same] at line
      rw [line]
      simp only [own, same, ne_eq, not_true_eq_false, false_or]
      constructor
      · intro fewer
        have lengths := served.length_eq
        have less := fewer.length_eq
        simp only [List.length_append, List.length_tail] at lengths less
        apply List.eq_nil_of_length_eq_zero
        omega
      · intro empty
        rwa [empty] at served ⊢
    · have line : (take rules s other).lines (rules.reads reader) = s.lines (rules.reads reader) := by
        unfold take
        split
        · rfl
        · exact Function.update_of_ne (Ne.symm same) _ _
      rw [line]
      exact iff_of_true served (.inr (.inl same))

theorem served_iff_separate {reader : Reader} {moves : List (Move Reader Job)} {s t : Lines Reader Job Place}
    (start : Served rules reader s) (reached : Transition.run (step rules) s moves = some t) :
    Transition.Always (step rules) (Served rules reader) s moves ↔
      Transition.Guarded (step rules) (Separate rules reader) s moves := by
  apply Transition.always_iff_guarded (fun _ => True) (fun _ _ _ _ _ _ _ => trivial) _ trivial start reached
  intro s move t _ served taken
  cases move with
  | send job =>
    cases taken
    exact served_send_iff served job
  | take other =>
    cases taken
    exact served_take_iff served other

end

end Dispatch
