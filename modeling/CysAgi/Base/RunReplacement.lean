import CysAgi.Base.Occurrences
import CysAgi.Base.Substitute
import CysAgi.Base.WordRuns

namespace Py

variable {α : Type} {p : α → Bool} {chosen : List α → Bool} {f : List α → List α}

def chooseRun (chosen : List α → Bool) (f : List α → List α) (run : List α) : List α :=
  if chosen run then f run else run

structure Settles (chosen : List α → Bool) (f : List α → List α) : Prop where
  nonempty : chosen [] = false
  gone : ∀ run part, part <:+: chooseRun chosen f run → chosen part = false

structure Settled (p : α → Bool) (chosen : List α → Bool) (done : List α) : Prop where
  boundary : ∀ c, done.getLast? = some c → p c = false
  gone : ∀ part, part <:+: done → (∀ c ∈ part, p c = true) → chosen part = false

theorem Settled.nil (settles : Settles chosen f) : Settled p chosen [] where
  boundary := by simp
  gone part inside _ := by rw [List.infix_nil.mp inside, settles.nonempty]

theorem Settled.earliest {done run rest : List α} (settled : Settled p chosen done) (word : ∀ c ∈ run, p c = true)
    (given : chosen run = true) {start : List α} (ends : start <:+ done) (left : start ≠ []) :
    ¬ run <+: start ++ (run ++ rest) := by
  intro starts
  rcases Nat.le_total run.length start.length with shorter | longer
  · have inside := List.prefix_of_prefix_length_le starts (List.prefix_append start _) shorter
    rw [settled.gone run (inside.isInfix.trans ends.isInfix) word] at given
    cases given
  · have inside := List.prefix_of_prefix_length_le (List.prefix_append start _) starts longer
    obtain ⟨before, rfl⟩ := ends
    cases start using List.reverseRecOn with
    | nil => exact left rfl
    | append_singleton start d =>
      have separates : p d = false := settled.boundary d (by rw [← List.append_assoc, List.getLast?_concat])
      rw [word d (inside.subset (by simp))] at separates
      cases separates

variable [DecidableEq α]

theorem Settles.gone_separated (settles : Settles chosen f) {part left right : List α} {c : α} (other : p c = false)
    (word : ∀ d ∈ part, p d = true) (inside : part <:+: left ++ c :: right)
    (before : part <:+: left → chosen part = false) (after : part <:+: right → chosen part = false) :
    chosen part = false := by
  by_cases empty : part = []
  · rw [empty, settles.nonempty]
  · have free : c ∉ part := by
      intro member
      rw [word c member] at other
      cases other
    rcases (Occurrences.infix_separated empty free left right).mp inside with inLeft | inRight
    · exact before inLeft
    · exact after inRight

theorem Settled.append {done : List α} {c : α} (settled : Settled p chosen done) (settles : Settles chosen f)
    (other : p c = false) (run : List α) : Settled p chosen (done ++ chooseRun chosen f run ++ [c]) where
  boundary d last := by
    rw [List.getLast?_concat] at last
    rw [← Option.some.inj last, other]
  gone part inside word := by
    apply settles.gone_separated other word inside
    · intro left
      cases done using List.reverseRecOn with
      | nil => exact settles.gone run part left
      | append_singleton before d =>
        rw [List.append_assoc] at left
        apply settles.gone_separated (settled.boundary d List.getLast?_concat) word left
        · exact fun earlier => settled.gone part (earlier.trans (List.prefix_append before [d]).isInfix) word
        · exact settles.gone run part
    · intro none
      rw [List.infix_nil.mp none, settles.nonempty]

theorem Settles.gone_mapRuns (settles : Settles chosen f) {part text : List α} (word : ∀ c ∈ part, p c = true)
    (inside : part <:+: mapRuns p (chooseRun chosen f) text) : chosen part = false := by
  have left {run text : List α} (inside : part <:+: mapRunsFrom p (chooseRun chosen f) run text) :
      chosen part = false := by
    induction text generalizing run with
    | nil => exact settles.gone run part inside
    | cons c rest ih =>
      rw [mapRunsFrom] at inside
      split at inside
      · exact ih inside
      · rename_i other
        exact settles.gone_separated (Bool.eq_false_iff.mpr other) word inside (settles.gone run part) ih
  exact left inside

def replaceRun (chosen : List α → Bool) (f : List α → List α) (result run : List α) : List α :=
  if chosen run then replaceFirst run (f run) result else result

theorem foldl_ofRun {done run : List α} (settled : Settled p chosen done) (settles : Settles chosen f)
    (word : ∀ c ∈ run, p c = true) (rest : List α) :
    (ofRun run).foldl (replaceRun chosen f) (done ++ (run ++ rest)) = done ++ (chooseRun chosen f run ++ rest) := by
  unfold ofRun replaceRun chooseRun
  by_cases given : chosen run = true
  · have nonempty : run ≠ [] := by
      rintro rfl
      rw [settles.nonempty] at given
      cases given
    simp only [List.isEmpty_iff, nonempty, if_false, List.foldl_cons, List.foldl_nil, given, if_true]
    exact replaceFirst_of_earliest nonempty fun start ends left => settled.earliest word given ends left
  · rw [if_neg given]
    split <;> simp [given]

theorem foldl_findRunsFrom (settles : Settles chosen f) (rest : List α) {done run : List α}
    (settled : Settled p chosen done) (word : ∀ c ∈ run, p c = true) :
    (findRunsFrom p run rest).foldl (replaceRun chosen f) (done ++ (run ++ rest)) =
      done ++ mapRunsFrom p (chooseRun chosen f) run rest := by
  induction rest generalizing done run with
  | nil =>
    rw [findRunsFrom, mapRunsFrom, foldl_ofRun settled settles word, List.append_nil]
  | cons c rest ih =>
    rw [findRunsFrom, mapRunsFrom]
    split
    · rename_i inside
      have longer : ∀ d ∈ run ++ [c], p d = true := by
        intro d member
        rcases List.mem_append.mp member with earlier | last
        · exact word d earlier
        · rw [List.mem_singleton.mp last, inside]
      have same := ih settled longer
      rw [List.append_assoc run] at same
      exact same
    · rename_i outside
      have next := settled.append settles (Bool.eq_false_iff.mpr outside) run
      have same := ih next (List.forall_mem_nil _)
      rw [List.foldl_append, foldl_ofRun settled settles word]
      simp only [List.append_assoc, List.nil_append, List.singleton_append] at same
      exact same

/-- Replacing the first occurrence of every chosen run, one after the other, maps the runs in place. -/
theorem foldl_replaceRun (settles : Settles chosen f) (text : List α) :
    (findRuns p text).foldl (replaceRun chosen f) text = mapRuns p (chooseRun chosen f) text :=
  foldl_findRunsFrom settles text (Settled.nil settles) (List.forall_mem_nil _)

end Py
