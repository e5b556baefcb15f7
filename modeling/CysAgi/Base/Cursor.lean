import Mathlib.Data.List.Induction
import Mathlib.Data.List.Sort
import Mathlib.Logic.Function.Basic
import CysAgi.Base.Transition

namespace Cursor

variable {Row Reader : Type}

/-- `SELECT .. WHERE id > last ORDER BY id`. -/
def since (rows : List (Nat × Row)) (last : Nat) : List (Nat × Row) :=
  (rows.filter fun row => last < row.1).insertionSort fun a b => a.1 ≤ b.1

def page (rows : List (Nat × Row)) (last limit : Nat) : List (Nat × Row) := (since rows last).take limit

theorem mem_since {rows : List (Nat × Row)} {last : Nat} {row : Nat × Row} :
    row ∈ since rows last ↔ row ∈ rows ∧ last < row.1 := by
  rw [since, List.mem_insertionSort, List.mem_filter, decide_eq_true_iff]

theorem length_since (rows : List (Nat × Row)) (last : Nat) :
    (since rows last).length = (rows.filter fun row => last < row.1).length := List.length_insertionSort _ _

theorem ascending_since {rows : List (Nat × Row)} (unique : (rows.map Prod.fst).Nodup) (last : Nat) :
    (since rows last).Pairwise fun a b => a.1 < b.1 := by
  have total : Std.Total fun a b : Nat × Row => a.1 ≤ b.1 := ⟨fun a b => le_total a.1 b.1⟩
  have trans : IsTrans (Nat × Row) fun a b => a.1 ≤ b.1 := ⟨fun _ _ _ first second => le_trans first second⟩
  have sorted : (since rows last).Pairwise fun a b => a.1 ≤ b.1 := List.pairwise_insertionSort _ _
  have apart : (since rows last).Pairwise fun a b => a.1 ≠ b.1 := by
    have kept : ((rows.filter fun row => last < row.1).map Prod.fst).Nodup :=
      unique.sublist (List.filter_sublist.map Prod.fst)
    have moved : ((since rows last).map Prod.fst).Nodup :=
      ((List.perm_insertionSort _ _).map Prod.fst).nodup_iff.mpr kept
    exact List.pairwise_map.mp moved
  exact (sorted.and apart).imp fun both => lt_of_le_of_ne both.1 both.2

theorem ascending_ext {first second : List (Nat × Row)} (ascending : first.Pairwise fun a b => a.1 < b.1)
    (other : second.Pairwise fun a b => a.1 < b.1) (same : ∀ row, row ∈ first ↔ row ∈ second) : first = second := by
  have distinct : ∀ {rows : List (Nat × Row)}, (rows.Pairwise fun a b => a.1 < b.1) → rows.Nodup := by
    intro rows sorted
    exact sorted.imp fun {a b} below equal => by
      rw [equal] at below
      exact lt_irrefl _ below
  have perm : first.Perm second := (List.perm_ext_iff_of_nodup (distinct ascending) (distinct other)).mpr same
  refine perm.eq_of_pairwise ?_ ascending other
  intro a b _ _ below above
  exact absurd below (lt_asymm above)

def horizon (rows : List (Nat × Row)) : Nat := (rows.getLast?.map Prod.fst).getD 0

theorem horizon_concat (rows : List (Nat × Row)) (row : Nat × Row) : horizon (rows ++ [row]) = row.1 := by
  simp [horizon]

theorem horizon_append (rows : List (Nat × Row)) {more : List (Nat × Row)} (nonempty : more ≠ []) :
    horizon (rows ++ more) = horizon more := by
  rw [horizon, horizon, List.getLast?_append_of_ne_nil _ nonempty]

theorem le_horizon {rows : List (Nat × Row)} (ascending : rows.Pairwise fun a b => a.1 < b.1) :
    ∀ row ∈ rows, row.1 ≤ horizon rows := by
  intro row member
  induction rows using List.reverseRecOn with
  | nil => cases member
  | append_singleton rows final _ =>
    rw [horizon_concat]
    rcases List.mem_append.mp member with earlier | last
    · exact ((List.pairwise_append.mp ascending).2.2 row earlier final List.mem_cons_self).le
    · rw [List.mem_singleton.mp last]

theorem mem_page {rows : List (Nat × Row)} (unique : (rows.map Prod.fst).Nodup) {last limit : Nat} {row : Nat × Row}
    (member : row ∈ rows) (after : last < row.1) (within : row.1 ≤ horizon (page rows last limit)) :
    row ∈ page rows last limit := by
  have ascending := ascending_since unique last
  have listed : row ∈ since rows last := mem_since.mpr ⟨member, after⟩
  rw [← List.take_append_drop limit (since rows last)] at listed ascending
  rcases List.mem_append.mp listed with early | late
  · exact early
  · exfalso
    cases read : (page rows last limit).getLast? with
    | none =>
      rw [horizon, read] at within
      have zero : row.1 ≤ 0 := within
      omega
    | some final =>
      rw [horizon, read] at within
      have top : row.1 ≤ final.1 := within
      have below := (List.pairwise_append.mp ascending).2.2 final (List.mem_of_getLast? read) row late
      omega

structure Table (Row : Type) where
  committed : List (Nat × Row) := []
  pending : List (Nat × Row) := []
  sequence : Nat := 0

structure Place (Row : Type) where
  last : Nat := 0
  fetched : List (Nat × Row) := []
  given : List (Nat × Row) := []

namespace Place

def read (place : Place Row) : List (Nat × Row) := place.given ++ place.fetched

end Place

structure State (Row Reader : Type) where
  table : Table Row := {}
  places : Reader → Place Row := fun _ => {}

inductive Action (Row Reader : Type) where
  | insert (row : Row)
  | commit (id : Nat)
  | rollback (id : Nat)
  | fetch (reader : Reader)
  | give (reader : Reader)

namespace Table

def insert (table : Table Row) (row : Row) : Table Row :=
  { table with
    pending := table.pending ++ [(table.sequence + 1, row)]
    sequence := table.sequence + 1 }

def close (table : Table Row) (id : Nat) : Table Row :=
  { table with pending := table.pending.filter fun row => row.1 ≠ id }

def commit (table : Table Row) (id : Nat) : Option (Table Row) :=
  (table.pending.find? fun row => row.1 = id).map fun row =>
    { table.close id with committed := table.committed ++ [row] }

def rollback (table : Table Row) (id : Nat) : Option (Table Row) :=
  (table.pending.find? fun row => row.1 = id).map fun _ => table.close id

structure WellFormed (table : Table Row) : Prop where
  unique : ((table.committed ++ table.pending).map Prod.fst).Nodup
  positive : ∀ row ∈ table.committed ++ table.pending, 0 < row.1
  issued : ∀ row ∈ table.committed ++ table.pending, row.1 ≤ table.sequence

theorem WellFormed.uniqueCommitted {table : Table Row} (ok : table.WellFormed) :
    (table.committed.map Prod.fst).Nodup := by
  have both := ok.unique
  rw [List.map_append] at both
  exact (List.nodup_append.mp both).1

theorem wellFormed_insert {table : Table Row} (ok : table.WellFormed) (row : Row) : (table.insert row).WellFormed where
  unique := by
    have fresh : table.sequence + 1 ∉ (table.committed ++ table.pending).map Prod.fst := by
      intro member
      obtain ⟨row, held, same⟩ := List.mem_map.mp member
      have issued := ok.issued row held
      omega
    simp only [insert, ← List.append_assoc, List.map_append, List.map_cons, List.map_nil]
    rw [← List.map_append, List.nodup_append]
    refine ⟨ok.unique, List.nodup_singleton _, ?_⟩
    intro a held b new same
    rw [List.mem_singleton.mp new] at same
    exact fresh (same ▸ held)
  positive := by
    intro other member
    simp only [insert, ← List.append_assoc] at member
    rcases List.mem_append.mp member with held | new
    · exact ok.positive other held
    · rw [List.mem_singleton.mp new]
      exact Nat.succ_pos _
  issued := by
    intro other member
    simp only [insert, ← List.append_assoc] at member
    rcases List.mem_append.mp member with held | new
    · exact (ok.issued other held).trans (Nat.le_succ _)
    · rw [List.mem_singleton.mp new]
      exact le_rfl

theorem WellFormed.subperm {table next : Table Row} (ok : table.WellFormed)
    (fewer : (next.committed ++ next.pending).Subperm (table.committed ++ table.pending))
    (same : next.sequence = table.sequence) : next.WellFormed where
  unique := by
    obtain ⟨kept, perm, within⟩ := fewer
    exact (perm.map Prod.fst).nodup_iff.mp (ok.unique.sublist (within.map Prod.fst))
  positive row member := ok.positive row (fewer.subset member)
  issued row member := by
    rw [same]
    exact ok.issued row (fewer.subset member)

theorem wellFormed_close {table : Table Row} (ok : table.WellFormed) (id : Nat) : (table.close id).WellFormed :=
  ok.subperm ((List.filter_sublist.append_left _).subperm) rfl

theorem commit_eq {table next : Table Row} {id : Nat} (done : table.commit id = some next) :
    ∃ row ∈ table.pending, row.1 = id ∧ next = { table.close id with committed := table.committed ++ [row] } := by
  obtain ⟨row, found, rfl⟩ := Option.map_eq_some_iff.mp done
  have same := List.find?_some found
  exact ⟨row, List.mem_of_find?_eq_some found, of_decide_eq_true same, rfl⟩

theorem wellFormed_commit {table next : Table Row} {id : Nat} (ok : table.WellFormed)
    (done : table.commit id = some next) : next.WellFormed := by
  obtain ⟨row, member, rfl, rfl⟩ := commit_eq done
  -- the row goes over from the open ones, where the others stay
  obtain ⟨before, after, split⟩ := List.append_of_mem member
  have rest : (table.pending.filter fun other => other.1 ≠ row.1).Sublist (before ++ after) := by
    rw [split, List.filter_append, List.filter_cons_of_neg (by simp)]
    exact List.filter_sublist.append List.filter_sublist
  have moved : (table.committed ++ [row] ++ (before ++ after)).Perm (table.committed ++ table.pending) := by
    rw [split, List.append_assoc, List.singleton_append]
    exact List.Perm.append_left _ List.perm_middle.symm
  have fewer := (rest.append_left (table.committed ++ [row])).subperm.trans moved.subperm
  exact ok.subperm fewer rfl

end Table

variable [DecidableEq Reader]

def State.move (s : State Row Reader) (reader : Reader) (place : Place Row) : State Row Reader :=
  { s with places := Function.update s.places reader place }

@[simp] theorem State.move_table (s : State Row Reader) (reader : Reader) (place : Place Row) :
    (s.move reader place).table = s.table := rfl

@[simp] theorem State.move_self (s : State Row Reader) (reader : Reader) (place : Place Row) :
    (s.move reader place).places reader = place := Function.update_self ..

theorem State.move_of_ne (s : State Row Reader) {reader other : Reader} (ne : other ≠ reader) (place : Place Row) :
    (s.move reader place).places other = s.places other := Function.update_of_ne ne ..

def step (limit : Nat) (s : State Row Reader) : Action Row Reader → Option (State Row Reader)
  | .insert row => some { s with table := s.table.insert row }
  | .commit id => (s.table.commit id).map fun table => { s with table }
  | .rollback id => (s.table.rollback id).map fun table => { s with table }
  | .fetch reader =>
    match (s.places reader).fetched with
    | [] => some (s.move reader { s.places reader with
        fetched := page s.table.committed (s.places reader).last limit })
    | _ :: _ => none
  | .give reader =>
    match (s.places reader).fetched with
    | [] => none
    | row :: rest => some (s.move reader {
        last := row.1, fetched := rest, given := (s.places reader).given ++ [row] })

structure Place.Reads (table : Table Row) (place : Place Row) : Prop where
  ascending : place.read.Pairwise fun a b => a.1 < b.1
  shown : ∀ row ∈ place.read, row ∈ table.committed
  last : place.last = horizon place.given

theorem Place.Reads.more {table next : Table Row} {place : Place Row} (reads : place.Reads table)
    (grown : ∀ row ∈ table.committed, row ∈ next.committed) : place.Reads next :=
  ⟨reads.ascending, fun row member => grown row (reads.shown row member), reads.last⟩

theorem Place.Reads.fetch {table : Table Row} {place : Place Row} (ok : table.WellFormed) (reads : place.Reads table)
    (idle : place.fetched = []) (limit : Nat) :
    Place.Reads table { place with fetched := page table.committed place.last limit } where
  ascending := by
    have given := reads.ascending
    rw [Place.read, idle, List.append_nil] at given
    refine List.pairwise_append.mpr ⟨given, (ascending_since ok.uniqueCommitted _).take, ?_⟩
    intro a old b new
    have behind := le_horizon given a old
    have ahead := (mem_since.mp (List.mem_of_mem_take new)).2
    rw [reads.last] at ahead
    omega
  shown := by
    intro row member
    rcases List.mem_append.mp member with old | new
    · exact reads.shown row (List.mem_append_left _ old)
    · exact (mem_since.mp (List.mem_of_mem_take new)).1
  last := reads.last

theorem Place.read_give (place : Place Row) {row : Nat × Row} {rest : List (Nat × Row)}
    (next : place.fetched = row :: rest) :
    Place.read { last := row.1, fetched := rest, given := place.given ++ [row] } = place.read := by
  unfold Place.read
  rw [next, List.append_assoc, List.singleton_append]

theorem Place.Reads.give {table : Table Row} {place : Place Row} (reads : place.Reads table) {row : Nat × Row}
    {rest : List (Nat × Row)} (next : place.fetched = row :: rest) :
    Place.Reads table { last := row.1, fetched := rest, given := place.given ++ [row] } where
  ascending := by
    rw [place.read_give next]
    exact reads.ascending
  shown := by
    rw [place.read_give next]
    exact reads.shown
  last := (horizon_concat _ _).symm

structure Consistent (s : State Row Reader) : Prop where
  table : s.table.WellFormed
  places : ∀ reader, (s.places reader).Reads s.table

omit [DecidableEq Reader] in
theorem consistent_initial : Consistent ({} : State Row Reader) where
  table := ⟨List.nodup_nil, nofun, nofun⟩
  places _ := ⟨List.Pairwise.nil, nofun, rfl⟩

theorem Consistent.move {s : State Row Reader} (consistent : Consistent s) {reader : Reader} {place : Place Row}
    (reads : place.Reads s.table) : Consistent (s.move reader place) where
  table := consistent.table
  places other := by
    by_cases same : other = reader
    · rw [same, State.move_self]
      exact reads
    · rw [State.move_of_ne s same]
      exact consistent.places other

variable {limit : Nat}

theorem step_cases {s t : State Row Reader} {action : Action Row Reader} (taken : step limit s action = some t) :
    (∃ row, action = .insert row ∧ t = { s with table := s.table.insert row }) ∨
    (∃ id table, action = .commit id ∧ s.table.commit id = some table ∧ t = { s with table }) ∨
    (∃ id, action = .rollback id ∧ t = { s with table := s.table.close id }) ∨
    (∃ reader, action = .fetch reader ∧ (s.places reader).fetched = [] ∧
      t = s.move reader { s.places reader with
        fetched := page s.table.committed (s.places reader).last limit }) ∨
    ∃ reader row rest, action = .give reader ∧ (s.places reader).fetched = row :: rest ∧
      t = s.move reader { last := row.1, fetched := rest, given := (s.places reader).given ++ [row] } := by
  cases action with
  | insert row =>
    cases taken
    exact .inl ⟨row, rfl, rfl⟩
  | commit id =>
    obtain ⟨table, done, rfl⟩ := Option.map_eq_some_iff.mp taken
    exact .inr (.inl ⟨id, table, rfl, done, rfl⟩)
  | rollback id =>
    obtain ⟨table, done, rfl⟩ := Option.map_eq_some_iff.mp taken
    obtain ⟨row, found, rfl⟩ := Option.map_eq_some_iff.mp done
    exact .inr (.inr (.inl ⟨id, rfl, rfl⟩))
  | fetch reader =>
    simp only [step] at taken
    cases held : (s.places reader).fetched with
    | nil =>
      rw [held] at taken
      cases taken
      exact .inr (.inr (.inr (.inl ⟨reader, rfl, held, rfl⟩)))
    | cons row rest =>
      rw [held] at taken
      cases taken
  | give reader =>
    simp only [step] at taken
    cases held : (s.places reader).fetched with
    | nil =>
      rw [held] at taken
      cases taken
    | cons row rest =>
      rw [held] at taken
      cases taken
      exact .inr (.inr (.inr (.inr ⟨reader, row, rest, rfl, held, rfl⟩)))

theorem consistent_step (s : State Row Reader) (action : Action Row Reader) (t : State Row Reader)
    (consistent : Consistent s) (taken : step limit s action = some t) : Consistent t := by
  rcases step_cases taken with ⟨row, -, rfl⟩ | ⟨id, table, -, done, rfl⟩ | ⟨id, -, rfl⟩ | ⟨reader, -, idle, rfl⟩ |
    ⟨reader, row, rest, -, next, rfl⟩
  · have ok := Table.wellFormed_insert consistent.table row
    exact ⟨ok, fun reader => (consistent.places reader).more fun _ shown => shown⟩
  · have grown : ∀ row ∈ s.table.committed, row ∈ table.committed := by
      obtain ⟨row, -, -, rfl⟩ := Table.commit_eq done
      intro other member
      exact List.mem_append_left _ member
    exact ⟨Table.wellFormed_commit consistent.table done, fun reader => (consistent.places reader).more grown⟩
  · have ok := Table.wellFormed_close consistent.table id
    exact ⟨ok, fun reader => (consistent.places reader).more fun _ shown => shown⟩
  · exact consistent.move ((consistent.places reader).fetch consistent.table idle limit)
  · exact consistent.move ((consistent.places reader).give next)

def NothingSkipped (reader : Reader) (s : State Row Reader) : Prop :=
  ∀ row ∈ s.table.committed, row.1 ≤ horizon (s.places reader).read → row ∈ (s.places reader).read

def CommitsAhead (reader : Reader) (s : State Row Reader) : Action Row Reader → Prop
  | .commit id => horizon (s.places reader).read < id
  | _ => True

omit [DecidableEq Reader] in
theorem nothingSkipped_commit {s : State Row Reader} (consistent : Consistent s) {reader : Reader}
    (held : NothingSkipped reader s) {id : Nat} {table : Table Row} (done : s.table.commit id = some table) :
    NothingSkipped reader { s with table } ↔ horizon (s.places reader).read < id := by
  obtain ⟨row, member, rfl, rfl⟩ := Table.commit_eq done
  constructor
  · intro all
    by_contra behind
    have read := all row (List.mem_append_right _ List.mem_cons_self) (not_lt.mp behind)
    -- the row was open, and an open row is none that can be read
    have shown := (consistent.places reader).shown row read
    have unique := consistent.table.unique
    rw [List.map_append, List.nodup_append] at unique
    exact unique.2.2 _ (List.mem_map_of_mem shown) _ (List.mem_map_of_mem member) rfl
  · intro ahead other visible within
    rcases List.mem_append.mp visible with old | new
    · exact held other old within
    · rw [List.mem_singleton.mp new] at within
      exact absurd ahead (not_lt.mpr within)

theorem nothingSkipped_move_of_ne {s : State Row Reader} {reader other : Reader} (ne : reader ≠ other)
    (place : Place Row) : NothingSkipped reader (s.move other place) ↔ NothingSkipped reader s := by
  simp only [NothingSkipped, State.move_table, State.move_of_ne s ne]

theorem nothingSkipped_fetch {s : State Row Reader} (consistent : Consistent s) {reader : Reader}
    (held : NothingSkipped reader s) (idle : (s.places reader).fetched = []) :
    NothingSkipped reader (s.move reader { s.places reader with
      fetched := page s.table.committed (s.places reader).last limit }) := by
  have last := (consistent.places reader).last
  intro row visible within
  simp only [State.move_table, State.move_self] at visible within ⊢
  by_cases behind : row.1 ≤ (s.places reader).last
  · have whole : (s.places reader).read = (s.places reader).given := by rw [Place.read, idle, List.append_nil]
    rw [last, ← whole] at behind
    have read := held row visible behind
    rw [whole] at read
    exact List.mem_append_left _ read
  · apply List.mem_append_right
    apply mem_page consistent.table.uniqueCommitted visible (not_le.mp behind)
    by_cases empty : page s.table.committed (s.places reader).last limit = []
    · rw [Place.read, empty, List.append_nil, ← last] at within
      exact absurd within behind
    · rw [Place.read, horizon_append _ empty] at within
      exact within

theorem nothingSkipped_step_iff (reader : Reader) (s : State Row Reader) (action : Action Row Reader)
    (t : State Row Reader) (consistent : Consistent s) (held : NothingSkipped reader s)
    (taken : step limit s action = some t) : NothingSkipped reader t ↔ CommitsAhead reader s action := by
  rcases step_cases taken with ⟨row, rfl, rfl⟩ | ⟨id, table, rfl, done, rfl⟩ | ⟨id, rfl, rfl⟩ |
    ⟨other, rfl, idle, rfl⟩ | ⟨other, row, rest, rfl, next, rfl⟩
  · exact ⟨fun _ => trivial, fun _ => held⟩
  · exact nothingSkipped_commit consistent held done
  · exact ⟨fun _ => trivial, fun _ => held⟩
  · by_cases same : reader = other
    · rw [← same] at idle ⊢
      exact ⟨fun _ => trivial, fun _ => nothingSkipped_fetch consistent held idle⟩
    · exact ⟨fun _ => trivial, fun _ => (nothingSkipped_move_of_ne same _).mpr held⟩
  · by_cases same : reader = other
    · rw [← same] at next ⊢
      refine ⟨fun _ => trivial, fun _ => ?_⟩
      simp only [NothingSkipped, State.move_table, State.move_self, Place.read_give _ next]
      exact held
    · exact ⟨fun _ => trivial, fun _ => (nothingSkipped_move_of_ne same _).mpr held⟩

/-- A reader passes over no row exactly when none becomes visible behind it. -/
theorem nothingSkipped_iff_ahead (reader : Reader) {s t : State Row Reader} (consistent : Consistent s)
    (held : NothingSkipped reader s) {actions : List (Action Row Reader)}
    (reached : Transition.run (step limit) s actions = some t) :
    Transition.Always (step limit) (NothingSkipped reader) s actions ↔
      Transition.Guarded (step limit) (CommitsAhead reader) s actions :=
  Transition.always_iff_guarded Consistent (fun s action t inv _ _ taken => consistent_step s action t inv taken)
    (nothingSkipped_step_iff reader) consistent held reached

theorem consistent_run {s t : State Row Reader} (consistent : Consistent s) {actions : List (Action Row Reader)}
    (reached : Transition.run (step limit) s actions = some t) : Consistent t :=
  Transition.invariant_run consistent_step consistent reached

def behind (reader : Reader) (s : State Row Reader) : Nat := (since s.table.committed (s.places reader).last).length

def lag (reader : Reader) (s : State Row Reader) : Nat :=
  2 * behind reader s - if (s.places reader).fetched = [] then 0 else 1

def Action.isOf (reader : Reader) : Action Row Reader → Bool
  | .fetch other | .give other => other = reader
  | _ => false

omit [DecidableEq Reader] in
theorem Place.Reads.last_lt {table : Table Row} (ok : table.WellFormed) {place : Place Row}
    (reads : place.Reads table) : ∀ row ∈ place.fetched, place.last < row.1 := by
  intro row member
  rw [reads.last]
  cases final : place.given.getLast? with
  | none =>
    rw [horizon, final]
    exact ok.positive row (List.mem_append_left _ (reads.shown row (List.mem_append_right _ member)))
  | some old =>
    rw [horizon, final]
    exact (List.pairwise_append.mp reads.ascending).2.2 old (List.mem_of_getLast? final) row member

theorem length_since_lt {rows : List (Nat × Row)} {row : Nat × Row} (member : row ∈ rows) {last : Nat}
    (after : last < row.1) : (since rows row.1).length < (since rows last).length := by
  rw [length_since, length_since, ← List.countP_eq_length_filter, ← List.countP_eq_length_filter]
  obtain ⟨front, back, rfl⟩ := List.append_of_mem member
  have fewer : ∀ part : List (Nat × Row), (part.countP fun other => row.1 < other.1) ≤
      part.countP fun other => last < other.1 := by
    intro part
    apply List.countP_mono_left
    intro other _ above
    exact decide_eq_true (after.trans (of_decide_eq_true above))
  have first := fewer front
  have second := fewer back
  -- the row itself counts on the right only
  simp only [List.countP_append, List.countP_cons, lt_irrefl, after, decide_false, decide_true, if_true]
  rw [if_neg Bool.false_ne_true]
  omega

theorem lag_step {s t : State Row Reader} (consistent : Consistent s) {reader : Reader} {action : Action Row Reader}
    (quiet : ∀ id, action ≠ .commit id) (positive : 0 < limit) (taken : step limit s action = some t) :
    lag reader t ≤ lag reader s - if action.isOf reader then 1 else 0 := by
  rcases step_cases taken with ⟨row, rfl, rfl⟩ | ⟨id, table, rfl, done, rfl⟩ | ⟨id, rfl, rfl⟩ |
    ⟨other, rfl, idle, rfl⟩ | ⟨other, row, rest, rfl, next, rfl⟩
  · exact le_rfl
  · exact absurd rfl (quiet id)
  · exact le_rfl
  · by_cases same : other = reader
    · rw [same] at idle ⊢
      simp only [lag, behind, Action.isOf, State.move_table, State.move_self, idle, decide_true, if_true]
      by_cases none : since s.table.committed (s.places reader).last = []
      · simp [page, none]
      · have some : page s.table.committed (s.places reader).last limit ≠ [] := by
          rw [page, Ne, List.take_eq_nil_iff, not_or]
          exact ⟨positive.ne', none⟩
        simp [some]
    · simp [lag, behind, Action.isOf, State.move_of_ne s (Ne.symm same), same]
  · by_cases same : other = reader
    · rw [same] at next ⊢
      have member : row ∈ (s.places reader).fetched := by
        rw [next]
        exact List.mem_cons_self
      have visible := (consistent.places reader).shown row (List.mem_append_right _ member)
      have fewer := length_since_lt visible ((consistent.places reader).last_lt consistent.table row member)
      simp only [lag, behind, Action.isOf, State.move_table, State.move_self, next, decide_true, if_true, reduceCtorEq,
        if_false]
      omega
    · simp [lag, behind, Action.isOf, State.move_of_ne s (Ne.symm same), same]

theorem lag_run {reader : Reader} (positive : 0 < limit) {actions : List (Action Row Reader)}
    (quiet : ∀ id, .commit id ∉ actions) {s t : State Row Reader} (consistent : Consistent s)
    (reached : Transition.run (step limit) s actions = some t) :
    lag reader t ≤ lag reader s - actions.countP (Action.isOf reader) := by
  induction actions generalizing s with
  | nil =>
    cases reached
    exact le_rfl
  | cons action rest ih =>
    simp only [Transition.run, Option.bind_eq_some_iff] at reached
    obtain ⟨u, taken, reached⟩ := reached
    have first : lag reader u ≤ lag reader s - if action.isOf reader then 1 else 0 :=
      lag_step consistent (fun id same => quiet id (same ▸ List.mem_cons_self)) positive taken
    have others := ih (fun id member => quiet id (List.mem_cons_of_mem _ member))
      (consistent_step s action u consistent taken) reached
    rw [List.countP_cons]
    omega

omit [DecidableEq Reader] in
/-- Where no row was passed over and none is left, the reader has handed over the whole table in order. -/
theorem given_eq_of_lag {s : State Row Reader} (consistent : Consistent s) {reader : Reader}
    (held : NothingSkipped reader s) (none : lag reader s = 0) :
    (s.places reader).given = since s.table.committed 0 := by
  have reads := consistent.places reader
  have few : behind reader s = 0 := by
    unfold lag at none
    split at none <;> omega
  have empty := List.eq_nil_of_length_eq_zero few
  have idle : (s.places reader).fetched = [] := by
    apply List.eq_nil_iff_forall_not_mem.mpr
    intro row member
    have listed := mem_since.mpr ⟨reads.shown row (List.mem_append_right _ member),
      reads.last_lt consistent.table row member⟩
    rw [empty] at listed
    cases listed
  have whole : (s.places reader).read = (s.places reader).given := by rw [Place.read, idle, List.append_nil]
  rw [← whole]
  refine ascending_ext reads.ascending (ascending_since consistent.table.uniqueCommitted 0) fun row => ?_
  constructor
  · intro member
    have visible := reads.shown row member
    exact mem_since.mpr ⟨visible, consistent.table.positive row (List.mem_append_left _ visible)⟩
  · intro listed
    have visible := (mem_since.mp listed).1
    apply held row visible
    rw [whole, ← reads.last]
    by_contra ahead
    have member := mem_since.mpr ⟨visible, not_le.mp ahead⟩
    rw [empty] at member
    cases member

theorem ahead_of_quiet (reader : Reader) {actions : List (Action Row Reader)} (quiet : ∀ id, .commit id ∉ actions)
    (s : State Row Reader) : Transition.Guarded (step limit) (CommitsAhead reader) s actions := by
  induction actions generalizing s with
  | nil => trivial
  | cons action rest ih =>
    refine ⟨?_, fun t _ => ih (fun id member => quiet id (List.mem_cons_of_mem _ member)) t⟩
    cases action with
    | commit id => exact absurd List.mem_cons_self (quiet id)
    | insert => trivial
    | rollback => trivial
    | fetch => trivial
    | give => trivial

theorem given_of_quiet {reader : Reader} (positive : 0 < limit) {s t : State Row Reader} (consistent : Consistent s)
    (held : NothingSkipped reader s) {actions : List (Action Row Reader)} (quiet : ∀ id, .commit id ∉ actions)
    (enough : 2 * behind reader s ≤ actions.countP (Action.isOf reader))
    (reached : Transition.run (step limit) s actions = some t) :
    (t.places reader).given = since t.table.committed 0 := by
  have always := (nothingSkipped_iff_ahead reader consistent held reached).mpr (ahead_of_quiet reader quiet s)
  have short : lag reader t ≤ lag reader s - actions.countP (Action.isOf reader) :=
    lag_run positive quiet consistent reached
  have most : lag reader s ≤ 2 * behind reader s := Nat.sub_le _ _
  exact given_eq_of_lag (consistent_run consistent reached) (always.last reached) (by omega)

end Cursor
