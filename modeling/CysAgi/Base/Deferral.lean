import Mathlib.Data.List.Basic
import Mathlib.Data.Set.Insert
import Mathlib.Logic.Function.Iterate

namespace Deferral

open Classical

variable {Job Mark : Type}

structure Rules (Job Mark : Type) where
  mark : Job → Mark
  needs : Job → Option Mark

structure Line (Job Mark : Type) where
  done : Set Mark
  queue : List Job
  ran : List Job

variable (rules : Rules Job Mark)

def Ready (s : Line Job Mark) (job : Job) : Prop := ∀ m ∈ rules.needs job, m ∈ s.done

noncomputable def step (s : Line Job Mark) : Line Job Mark :=
  match s.queue with
  | [] => s
  | job :: rest =>
    if Ready rules s job then
      { done := insert (rules.mark job) s.done, queue := rest, ran := s.ran ++ [job] }
    else { s with queue := rest ++ [job] }

variable {rules}

theorem step_empty {s : Line Job Mark} (empty : s.queue = []) : step rules s = s := by
  unfold step
  rw [empty]

theorem step_ready {s : Line Job Mark} {job : Job} {rest : List Job} (first : s.queue = job :: rest)
    (ready : Ready rules s job) :
    step rules s = { done := insert (rules.mark job) s.done, queue := rest, ran := s.ran ++ [job] } := by
  unfold step
  rw [first]
  exact if_pos ready

theorem step_waiting {s : Line Job Mark} {job : Job} {rest : List Job} (first : s.queue = job :: rest)
    (waiting : ¬ Ready rules s job) : step rules s = { s with queue := rest ++ [job] } := by
  unfold step
  rw [first]
  exact if_neg waiting

theorem step_cases (rules : Rules Job Mark) (s : Line Job Mark) :
    (s.queue = [] ∧ step rules s = s) ∨
      ∃ job rest, s.queue = job :: rest ∧
        ((Ready rules s job ∧
            step rules s = { done := insert (rules.mark job) s.done, queue := rest, ran := s.ran ++ [job] }) ∨
          (¬ Ready rules s job ∧ step rules s = { s with queue := rest ++ [job] })) := by
  cases first : s.queue with
  | nil => exact .inl ⟨rfl, step_empty first⟩
  | cons job rest =>
    refine .inr ⟨job, rest, rfl, ?_⟩
    by_cases ready : Ready rules s job
    · exact .inl ⟨ready, step_ready first ready⟩
    · exact .inr ⟨ready, step_waiting first ready⟩

def Linked (rules : Rules Job Mark) (done : Set Mark) (order : List Job) : Prop :=
  ∀ before job after, order = before ++ job :: after →
    ∀ m ∈ rules.needs job, m ∈ done ∨ m ∈ before.map rules.mark

/-- What holds of a line that began with the given jobs and marks: no job is lost or added,
    the new marks are those of the jobs that have run, and these ran in a linked order. -/
structure Sound (rules : Rules Job Mark) (start : Set Mark) (jobs : List Job) (s : Line Job Mark) : Prop where
  kept : (s.ran ++ s.queue).Perm jobs
  marked : ∀ m, m ∈ s.done ↔ m ∈ start ∨ m ∈ s.ran.map rules.mark
  linked : Linked rules start s.ran

def LinkedBy (rules : Rules Job Mark) (ended : Job → Prop) (done : Set Mark) (order : List Job) : Prop :=
  ∀ before job after, order = before ++ job :: after →
    ∀ m ∈ rules.needs job, m ∈ done ∨ ∃ other ∈ before, rules.mark other = m ∧ ended other

theorem linkedBy_true {done : Set Mark} {order : List Job} :
    LinkedBy rules (fun _ => True) done order ↔ Linked rules done order := by
  simp [LinkedBy, Linked, List.mem_map]

theorem LinkedBy.mono {ended ended' : Job → Prop} {done : Set Mark} {order : List Job}
    (linked : LinkedBy rules ended done order) (later : ∀ job, ended job → ended' job) :
    LinkedBy rules ended' done order := by
  intro before job after split m needed
  rcases linked before job after split m needed with set | ⟨other, earlier, left, ceased⟩
  · exact .inl set
  · exact .inr ⟨other, earlier, left, later other ceased⟩

theorem LinkedBy.append {ended : Job → Prop} {start : Set Mark} {order : List Job} {job : Job}
    (linked : LinkedBy rules ended start order)
    (ready : ∀ m ∈ rules.needs job, m ∈ start ∨ ∃ other ∈ order, rules.mark other = m ∧ ended other) :
    LinkedBy rules ended start (order ++ [job]) := by
  intro before other after split m needed
  rcases List.eq_nil_or_concat after with rfl | ⟨init, last, rfl⟩
  · obtain ⟨rfl, same⟩ := List.append_inj' split rfl
    cases same
    exact ready m needed
  · have longer : order ++ [job] = (before ++ other :: init) ++ [last] := by simpa using split
    obtain ⟨same, -⟩ := List.append_inj' longer rfl
    exact linked before other init same m needed

theorem Linked.append {start : Set Mark} {ran : List Job} {job : Job} (linked : Linked rules start ran)
    (ready : ∀ m ∈ rules.needs job, m ∈ start ∨ m ∈ ran.map rules.mark) : Linked rules start (ran ++ [job]) := by
  apply linkedBy_true.mp
  apply (linkedBy_true.mpr linked).append
  intro m needed
  simpa using ready m needed

inductive Reached (rules : Rules Job Mark) (jobs : Set Job) (start : Set Mark) : Mark → Prop where
  | start {m : Mark} (set : m ∈ start) : Reached rules jobs start m
  | run {job : Job} (listed : job ∈ jobs) (ready : ∀ m ∈ rules.needs job, Reached rules jobs start m) :
      Reached rules jobs start (rules.mark job)

theorem LinkedBy.reached {ended : Job → Prop} {start known : Set Mark} {jobs : Set Job} {order front back : List Job}
    (linked : LinkedBy rules ended start order) (set : start ⊆ known) (split : order = front ++ back)
    (only : ∀ job ∈ front, ended job → job ∈ jobs ∨ rules.mark job ∈ known) {job : Job} (member : job ∈ front)
    (ceased : ended job) : Reached rules jobs known (rules.mark job) := by
  obtain ⟨before, after, place⟩ := List.append_of_mem member
  induction size : before.length using Nat.strongRecOn generalizing before after job with
  | _ n ih =>
    rcases only job member ceased with listed | marked
    · apply Reached.run listed
      intro m needed
      have here : order = before ++ job :: (after ++ back) := by
        rw [split, place]
        simp
      rcases linked before job (after ++ back) here m needed with early | ⟨other, found, rfl, gone⟩
      · exact .start (set early)
      · obtain ⟨first, last, inside⟩ := List.append_of_mem found
        have shorter : first.length < n := by
          rw [← size, inside]
          simp
        apply ih first.length shorter (by rw [place]; exact List.mem_append_left _ found) gone first
          (last ++ job :: after) (by rw [place, inside]; simp) rfl
    · exact .start marked

theorem LinkedBy.ended_before {ended : Job → Prop} {start : Set Mark} {others : Set Job} {order chain : List Job}
    (linked : LinkedBy rules ended start order) (within : ∀ job ∈ order, job ∈ chain ∨ job ∈ others)
    (chained : ∀ (k : Nat) previous job, chain[k]? = some previous → chain[k + 1]? = some job →
      rules.needs job = some (rules.mark previous))
    (unreached : ∀ (k : Nat) job, chain[k]? = some job → k + 1 < chain.length →
      ¬ Reached rules others (start ∪ {m | ∃ other ∈ chain.take k, rules.mark other = m}) (rules.mark job))
    {k : Nat} {previous job : Job} (placed : chain[k]? = some previous) (next : chain[k + 1]? = some job)
    {before after : List Job} (split : order = before ++ job :: after) : previous ∈ before ∧ ended previous := by
  induction size : before.length using Nat.strongRecOn generalizing before after k previous job with
  | _ n ih =>
    by_contra missing
    have earlier : ∀ {other front back}, before = front ++ other :: back →
        order = front ++ other :: (back ++ job :: after) ∧ front.length < n := by
      intro other front back inside
      rw [split, ← size, inside]
      simp
    -- no later job of the chain stands before this one, or the previous one would too
    have stops : ∀ (d : Nat) other, chain[k + 1 + d]? = some other → other ∉ before := by
      intro d
      induction d with
      | zero =>
        intro other place found
        obtain ⟨front, back, inside⟩ := List.append_of_mem found
        obtain ⟨here, shorter⟩ := earlier inside
        obtain ⟨first, gone⟩ := ih front.length shorter placed place here rfl
        apply missing ⟨?_, gone⟩
        rw [inside]
        exact List.mem_append_left _ first
      | succ d deeper =>
        intro other place found
        obtain ⟨front, back, inside⟩ := List.append_of_mem found
        obtain ⟨here, shorter⟩ := earlier inside
        have bound := (List.getElem?_eq_some_iff.mp place).1
        obtain ⟨prior, at_prior⟩ : ∃ prior, chain[k + 1 + d]? = some prior :=
          ⟨_, List.getElem?_eq_getElem (by omega)⟩
        apply deeper prior at_prior
        rw [inside]
        exact List.mem_append_left _ (ih front.length shorter at_prior place here rfl).1
    have only : ∀ other ∈ before, ended other →
        other ∈ others ∨ rules.mark other ∈ start ∪ {m | ∃ other ∈ chain.take k, rules.mark other = m} := by
      intro other found gone
      rcases within other (by rw [split]; exact List.mem_append_left _ found) with inChain | listed
      · obtain ⟨j, place⟩ := List.mem_iff_getElem?.mp inChain
        rcases Nat.lt_trichotomy j k with lower | rfl | higher
        · refine .inr (.inr ⟨other, ?_, rfl⟩)
          exact List.mem_of_getElem? ((List.getElem?_take_of_lt lower).trans place)
        · rw [Option.some.inj (place.symm.trans placed)] at found gone
          exact absurd ⟨found, gone⟩ missing
        · obtain ⟨d, rfl⟩ := Nat.exists_eq_add_of_lt higher
          exact absurd found (stops d other (by rw [← place]; congr 1; omega))
      · exact .inl listed
    have bound := (List.getElem?_eq_some_iff.mp next).1
    apply unreached k previous placed bound
    rcases linked before job after split _ (chained k previous job placed next) with set | ⟨other, found, same, gone⟩
    · exact .start (.inl set)
    · rw [← same]
      exact linked.reached (fun _ => .inl) split only found gone

theorem linked_append {start : Set Mark} {first second : List Job} (left : Linked rules start first)
    (right : Linked rules start second) : Linked rules start (first ++ second) := by
  intro before job after split m needed
  rcases List.append_eq_append_iff.mp split with ⟨middle, rfl, rest⟩ | ⟨middle, rfl, rest⟩
  · rcases right middle job after rest m needed with set | earlier
    · exact .inl set
    · rw [List.map_append]
      exact .inr (List.mem_append_right _ earlier)
  · cases middle with
    | nil =>
      rcases right [] job after rest.symm m needed with set | earlier
      · exact .inl set
      · cases earlier
    | cons other middle =>
      obtain ⟨rfl, -⟩ := List.cons.inj rest
      exact left before job middle rfl m needed

theorem linked_flatMap {α : Type} {start : Set Mark} {items : List α} {jobs : α → List Job}
    (each : ∀ item ∈ items, Linked rules start (jobs item)) : Linked rules start (items.flatMap jobs) := by
  induction items with
  | nil =>
    intro before job after split
    simp at split
  | cons item rest ih =>
    rw [List.flatMap_cons]
    exact linked_append (each item (List.mem_cons_self ..)) (ih fun a member => each a (List.mem_cons_of_mem _ member))

theorem Sound.step {start : Set Mark} {jobs : List Job} {s : Line Job Mark} (sound : Sound rules start jobs s) :
    Sound rules start jobs (step rules s) := by
  rcases step_cases rules s with
    ⟨-, same⟩ | ⟨job, rest, first, ⟨ready, taken⟩ | ⟨-, taken⟩⟩
  · rw [same]
    exact sound
  · rw [taken]
    refine ⟨?_, fun m => ?_, sound.linked.append fun m needed => (sound.marked m).mp (ready m needed)⟩
    · have kept := sound.kept
      rw [first] at kept
      simpa using kept
    · rw [Set.mem_insert_iff, sound.marked m, List.map_append, List.mem_append, List.map_singleton,
        List.mem_singleton, or_comm, or_assoc]
  · rw [taken]
    refine ⟨?_, sound.marked, sound.linked⟩
    have kept := sound.kept
    rw [first] at kept
    exact ((List.perm_append_singleton job rest).append_left s.ran).trans kept

theorem Sound.iterate {start : Set Mark} {jobs : List Job} {s : Line Job Mark} (sound : Sound rules start jobs s)
    (n : Nat) : Sound rules start jobs ((Deferral.step rules)^[n] s) :=
  Function.Iterate.rec (Sound rules start jobs) sound (fun _ held => held.step) n

theorem Sound.exists_ready {start : Set Mark} {jobs : List Job} {s : Line Job Mark}
    (sound : Sound rules start jobs s) (linked : Linked rules start jobs) (waiting : s.queue ≠ []) :
    ∃ job ∈ s.queue, Ready rules s job := by
  obtain ⟨job, inLine⟩ := List.exists_mem_of_ne_nil _ waiting
  have listed : job ∈ jobs := sound.kept.subset (List.mem_append_right _ inLine)
  have some_found : (jobs.find? fun other => decide (other ∈ s.queue)).isSome :=
    List.find?_isSome.mpr ⟨job, listed, by simpa using inLine⟩
  obtain ⟨earliest, found⟩ := Option.isSome_iff_exists.mp some_found
  obtain ⟨here, before, after, split, others⟩ := List.find?_eq_some_iff_append.mp found
  refine ⟨earliest, by simpa using here, fun m needed => (sound.marked m).mpr ?_⟩
  rcases linked before earliest after split m needed with set | left
  · exact .inl set
  · obtain ⟨other, member, same⟩ := List.mem_map.mp left
    have away : other ∉ s.queue := by simpa using others other member
    have known : other ∈ s.ran ++ s.queue := by
      refine sound.kept.symm.subset ?_
      rw [split]
      exact List.mem_append_left _ member
    exact .inr (List.mem_map.mpr ⟨other, (List.mem_append.mp known).resolve_right away, same⟩)

theorem rotate {before : List Job} {s : Line Job Mark} {rest : List Job} (inLine : s.queue = before ++ rest)
    (waiting : ∀ job ∈ before, ¬ Ready rules s job) :
    (step rules)^[before.length] s = { s with queue := rest ++ before } := by
  induction before generalizing s rest with
  | nil =>
    rw [List.nil_append] at inLine
    simp [← inLine]
  | cons job before ih =>
    have behind : (step rules s).queue = before ++ (rest ++ [job]) := by
      rw [step_waiting inLine (waiting job (List.mem_cons_self ..))]
      simp
    have same : ∀ other, Ready rules (step rules s) other ↔ Ready rules s other := by
      intro other
      rw [step_waiting inLine (waiting job (List.mem_cons_self ..))]
      exact Iff.rfl
    rw [List.length_cons, Function.iterate_succ_apply, ih behind fun other member => ?_]
    · rw [step_waiting inLine (waiting job (List.mem_cons_self ..))]
      simp
    · rw [same]
      exact waiting other (List.mem_cons_of_mem _ member)

theorem runs_within {s : Line Job Mark} (some_ready : ∃ job ∈ s.queue, Ready rules s job) :
    ∃ n ≤ s.queue.length, ((step rules)^[n] s).queue.length + 1 = s.queue.length := by
  obtain ⟨job, inLine, ready⟩ := some_ready
  have some_found : (s.queue.find? fun other => decide (Ready rules s other)).isSome :=
    List.find?_isSome.mpr ⟨job, inLine, by simpa using ready⟩
  obtain ⟨first, found⟩ := Option.isSome_iff_exists.mp some_found
  obtain ⟨here, before, rest, split, others⟩ := List.find?_eq_some_iff_append.mp found
  have passed := rotate split fun other member => by simpa using others other member
  refine ⟨before.length + 1, by rw [split]; simp, ?_⟩
  rw [Function.iterate_succ_apply', passed, step_ready (List.cons_append ..) (by simpa [Ready] using here), split]
  simp
  omega

theorem empty_stays {s : Line Job Mark} (empty : s.queue = []) (n : Nat) : (step rules)^[n] s = s :=
  Function.iterate_fixed (step_empty empty) n

/-- A line that always has a ready job is empty after at most 1 + 2 + … + n steps. -/
theorem drains {P : Line Job Mark → Prop} (preserved : ∀ s, P s → P (step rules s))
    (live : ∀ s, P s → s.queue ≠ [] → ∃ job ∈ s.queue, Ready rules s job) {s : Line Job Mark} (start : P s) :
    ((step rules)^[s.queue.length * (s.queue.length + 1) / 2] s).queue = [] := by
  induction size : s.queue.length generalizing s with
  | zero => exact List.length_eq_zero_iff.mp size
  | succ k ih =>
    have waiting : s.queue ≠ [] := List.ne_nil_of_length_eq_add_one size
    -- one pass takes a job out of the line, and the shorter line drains by the hypothesis
    obtain ⟨n, within, shorter⟩ := runs_within (live s start waiting)
    rw [size] at within shorter
    have rest := ih (Function.Iterate.rec P start preserved n) (by omega)
    have enough : k * (k + 1) / 2 + n ≤ (k + 1) * (k + 1 + 1) / 2 := by
      have double : (k + 1) * (k + 1 + 1) = k * (k + 1) + 2 * (k + 1) := by
        rw [Nat.mul_comm, ← Nat.add_mul]
      omega
    obtain ⟨spare, total⟩ := Nat.exists_eq_add_of_le enough
    rw [total, Nat.add_comm, Function.iterate_add_apply, Function.iterate_add_apply,
      empty_stays rest]
    exact rest

end Deferral
