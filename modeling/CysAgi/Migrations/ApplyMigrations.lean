import Mathlib.Data.List.Infix
import Mathlib.Data.List.Sort
import Mathlib.Data.String.Basic
import Mathlib.Logic.Function.Basic
import CysAgi.Base.Transition

namespace CysAgi

/-- The `*.sql` files of one directory, and what each does to a database, nothing where it fails. -/
structure Migrations (Db : Type) where
  listing : List String
  unique : listing.Nodup
  sql : String → Db → Option Db

namespace Migrations

variable {Db : Type} (migrations : Migrations Db)

/-- `sorted(root.glob("*.sql"))`. -/
def files : List String := migrations.listing.insertionSort (· ≤ ·)

theorem nodup_files : migrations.files.Nodup := (List.perm_insertionSort _ _).nodup_iff.mpr migrations.unique

end Migrations

/-- The database with its `schema_migrations`, whose rows stand in the order of their commits. There are none before
    the table is made. -/
structure MigratedDb (Db : Type) where
  db : Db
  table : Option (List String) := none

namespace MigratedDb

variable {Db : Type}

def names (d : MigratedDb Db) : List String := d.table.getD []

theorem table_eq {d : MigratedDb Db} (there : d.table.isSome) : { d with table := some d.names } = d := by
  obtain ⟨stored, held⟩ := Option.isSome_iff_exists.mp there
  have same : d.names = stored := by
    rw [names, held]
    rfl
  rw [same, ← held]

end MigratedDb

/-- Where a call of `apply_migrations` is. What it applied so far is lost when it fails. -/
inductive MigrationRun where
  | idle
  | connected
  | created
  | applying (existing rest applied : List String)
  | returned (applied : List String)
  | failed (applied : List String)

namespace MigrationRun

def applied : MigrationRun → List String
  | .applying _ _ applied | .returned applied | .failed applied => applied
  | _ => []

end MigrationRun

structure MigrationSystem (Db : Type) where
  database : MigratedDb Db
  runs : Nat → MigrationRun := fun _ => .idle

inductive MigrationStep where
  | connect
  | createTable
  | readExisting
  | skip
  | migrate
  | finish
  | fail

namespace MigrationSystem

variable {Db : Type} (migrations : Migrations Db)

def move (s : MigrationSystem Db) (run : Nat) (state : MigrationRun) : MigrationSystem Db :=
  { s with runs := Function.update s.runs run state }

def transaction (d : MigratedDb Db) (name : String) : Option (MigratedDb Db) :=
  match migrations.sql name d.db, d.table with
  | some db, some names => if name ∈ names then none else some { db, table := some (names ++ [name]) }
  | _, _ => none

def step (s : MigrationSystem Db) (action : Nat × MigrationStep) : Option (MigrationSystem Db) :=
  match action.2, s.runs action.1 with
  | .connect, .idle => some (s.move action.1 .connected)
  | .createTable, .connected =>
    some { s.move action.1 .created with database := { s.database with table := some s.database.names } }
  | .readExisting, .created => some (s.move action.1 (.applying s.database.names migrations.files []))
  | .skip, .applying existing (name :: rest) applied =>
    if name ∈ existing then some (s.move action.1 (.applying existing rest applied)) else none
  | .migrate, .applying existing (name :: rest) applied =>
    if name ∈ existing then none
    else
      match transaction migrations s.database name with
      | some database =>
        some { s.move action.1 (.applying existing rest (applied ++ [name])) with database }
      | none => some (s.move action.1 (.failed applied))
  | .finish, .applying _ [] applied => some (s.move action.1 (.returned applied))
  | .fail, .connected => some (s.move action.1 (.failed []))
  | .fail, .created => some (s.move action.1 (.failed []))
  | .fail, .applying _ _ applied => some (s.move action.1 (.failed applied))
  | _, _ => none

inductive Quiet (names : List String) : MigrationRun → MigrationRun → Prop where
  | connect : Quiet names .idle .connected
  | createTable : Quiet names .connected .created
  | readExisting : Quiet names .created (.applying names migrations.files [])
  | skip {existing rest applied : List String} {name : String} (known : name ∈ existing) :
      Quiet names (.applying existing (name :: rest) applied) (.applying existing rest applied)
  | finish {existing applied : List String} : Quiet names (.applying existing [] applied) (.returned applied)
  | fail {run : MigrationRun} : Quiet names run (.failed run.applied)

def Tabled : MigrationRun → Prop
  | .created | .applying _ _ _ | .returned _ => True
  | _ => False

variable {migrations}

theorem Quiet.tabled {names : List String} {before after : MigrationRun} (moved : Quiet migrations names before after)
    (tabled : Tabled after) : Tabled before ∨ after = .created := by
  cases moved with
  | createTable => exact .inr rfl
  | connect => cases tabled
  | fail => cases tabled
  | _ => exact .inl trivial

theorem transaction_eq {d next : MigratedDb Db} {name : String} (done : transaction migrations d name = some next) :
    ∃ db, migrations.sql name d.db = some db ∧ name ∉ d.names ∧ next = { db, table := some (d.names ++ [name]) } := by
  unfold transaction at done
  split at done
  · next db names ran made =>
    split at done
    · cases done
    · next fresh =>
      cases done
      have same : d.names = names := by rw [MigratedDb.names, made]; rfl
      rw [same]
      exact ⟨db, ran, fresh, rfl⟩
  · cases done

theorem step_cases {s t : MigrationSystem Db} {run : Nat} {action : MigrationStep}
    (taken : step migrations s (run, action) = some t) :
    (t.database.db = s.database.db ∧ t.database.names = s.database.names ∧
      ∃ state, t.runs = Function.update s.runs run state ∧ Quiet migrations s.database.names (s.runs run) state ∧
        (s.database.table.isSome → t.database = s.database) ∧ (state = .created → t.database.table.isSome)) ∨
    ∃ existing name rest applied db, s.runs run = .applying existing (name :: rest) applied ∧ name ∉ existing ∧
      migrations.sql name s.database.db = some db ∧ name ∉ s.database.names ∧
        t = { database := { db, table := some (s.database.names ++ [name]) }
              runs := Function.update s.runs run (.applying existing rest (applied ++ [name])) } := by
  have failed : ∀ {state : MigrationRun}, s.runs run = state →
      Quiet migrations s.database.names (s.runs run) (.failed state.applied) := by
    rintro state rfl
    exact .fail
  unfold step at taken
  dsimp only at taken
  split at taken
  · next here =>
    cases taken
    exact .inl ⟨rfl, rfl, _, rfl, here ▸ .connect, fun _ => rfl, nofun⟩
  · next here =>
    cases taken
    exact .inl ⟨rfl, rfl, _, rfl, here ▸ .createTable, MigratedDb.table_eq, fun _ => rfl⟩
  · next here =>
    cases taken
    exact .inl ⟨rfl, rfl, _, rfl, here ▸ .readExisting, fun _ => rfl, nofun⟩
  · next existing name rest applied here =>
    split at taken
    · next known =>
      cases taken
      exact .inl ⟨rfl, rfl, _, rfl, here ▸ .skip known, fun _ => rfl, nofun⟩
    · cases taken
  · next existing name rest applied here =>
    split at taken
    · cases taken
    · next unknown =>
      split at taken
      · next database committed =>
        cases taken
        obtain ⟨db, ran, fresh, rfl⟩ := transaction_eq committed
        exact .inr ⟨existing, name, rest, applied, db, here, unknown, ran, fresh, rfl⟩
      · cases taken
        exact .inl ⟨rfl, rfl, _, rfl, failed here, fun _ => rfl, nofun⟩
  · next existing applied here =>
    cases taken
    exact .inl ⟨rfl, rfl, _, rfl, here ▸ .finish, fun _ => rfl, nofun⟩
  · next here =>
    cases taken
    exact .inl ⟨rfl, rfl, _, rfl, failed here, fun _ => rfl, nofun⟩
  · next here =>
    cases taken
    exact .inl ⟨rfl, rfl, _, rfl, failed here, fun _ => rfl, nofun⟩
  · next existing rest applied here =>
    cases taken
    exact .inl ⟨rfl, rfl, _, rfl, failed here, fun _ => rfl, nofun⟩
  · cases taken

def replay (migrations : Migrations Db) (names : List String) (db : Db) : Option Db :=
  names.foldlM (fun db name => migrations.sql name db) db

theorem prefix_eq_of_next {names done rest : List String} {name : String} (nodup : done.Nodup)
    (before : names <+: done ++ name :: rest) (inside : ∀ other ∈ done, other ∈ names) (outside : name ∉ names) :
    names = done := by
  rcases List.prefix_or_prefix_of_prefix before (List.prefix_append done _) with shorter | longer
  · have size := (List.subperm_of_subset nodup inside).length_le
    exact shorter.eq_of_length_le size
  · obtain ⟨more, rfl⟩ := longer
    have next := (List.prefix_append_right_inj done).mp before
    cases more with
    | nil => exact List.append_nil done
    | cons first more =>
      have same := (List.cons_prefix_cons.mp next).1
      rw [same] at outside
      exact absurd (List.mem_append_right _ List.mem_cons_self) outside

def Tracks (migrations : Migrations Db) (names : List String) : MigrationRun → Prop
  | .applying existing rest applied =>
    (∃ done, migrations.files = done ++ rest ∧ (∀ name ∈ done, name ∈ names) ∧ applied.Sublist done) ∧
      (∀ name ∈ existing, name ∈ names) ∧ ∀ name ∈ applied, name ∉ existing
  | .returned applied => (∀ name ∈ migrations.files, name ∈ names) ∧ applied.Sublist migrations.files
  | .failed applied => ∀ name ∈ applied, name ∈ names
  | _ => True

theorem Tracks.applied {names : List String} {run : MigrationRun} (tracks : Tracks migrations names run) :
    ∀ name ∈ run.applied, name ∈ names := by
  intro name member
  cases run with
  | applying existing rest applied =>
    obtain ⟨⟨done, -, inside, part⟩, -, -⟩ := tracks
    exact inside name (part.subset member)
  | returned applied => exact tracks.1 name (tracks.2.subset member)
  | failed applied => exact tracks name member
  | _ => cases member

theorem Tracks.more {names more : List String} {run : MigrationRun} (tracks : Tracks migrations names run) :
    Tracks migrations (names ++ more) run := by
  have grown : ∀ {name : String}, name ∈ names → name ∈ names ++ more := fun member => List.mem_append_left _ member
  cases run with
  | applying existing rest applied =>
    obtain ⟨⟨done, split, inside, part⟩, known, fresh⟩ := tracks
    exact ⟨⟨done, split, fun name member => grown (inside name member), part⟩,
      fun name member => grown (known name member), fresh⟩
  | returned applied => exact ⟨fun name member => grown (tracks.1 name member), tracks.2⟩
  | failed applied => exact fun name member => grown (tracks name member)
  | _ => trivial

theorem Tracks.quiet {names : List String} {before after : MigrationRun} (tracks : Tracks migrations names before)
    (moved : Quiet migrations names before after) : Tracks migrations names after := by
  cases moved with
  | connect => trivial
  | createTable => trivial
  | readExisting => exact ⟨⟨[], rfl, nofun, List.Sublist.refl _⟩, fun _ member => member, nofun⟩
  | @skip existing rest applied name known =>
    obtain ⟨⟨done, split, inside, part⟩, held, fresh⟩ := tracks
    have recorded : ∀ other ∈ done ++ [name], other ∈ names :=
      List.forall_mem_append.mpr ⟨inside, List.forall_mem_singleton.mpr (held name known)⟩
    refine ⟨⟨done ++ [name], ?_, recorded, part.trans (List.sublist_append_left _ _)⟩, held, fresh⟩
    rw [split, List.append_assoc, List.singleton_append]
  | finish =>
    obtain ⟨⟨done, split, inside, part⟩, -, -⟩ := tracks
    rw [List.append_nil] at split
    exact ⟨fun name member => inside name (split ▸ member), split ▸ part⟩
  | fail => exact tracks.applied

theorem Quiet.applied {names : List String} {before after : MigrationRun}
    (moved : Quiet migrations names before after) : after.applied = before.applied := by
  cases moved <;> rfl

structure Sound (migrations : Migrations Db) (start : Db) (s : MigrationSystem Db) : Prop where
  ordered : s.database.names <+: migrations.files
  replayed : replay migrations s.database.names start = some s.database.db
  tracks : ∀ run, Tracks migrations s.database.names (s.runs run)
  apart : ∀ run other, run ≠ other → ∀ name ∈ (s.runs run).applied, name ∉ (s.runs other).applied

theorem sound_start (start : Db) : Sound migrations start { database := { db := start } } :=
  ⟨List.nil_prefix, rfl, fun _ => trivial, fun _ _ _ _ member => by cases member⟩

theorem update_apart {runs : Nat → MigrationRun} {run : Nat} {state : MigrationRun}
    {R : MigrationRun → MigrationRun → Prop} (symm : ∀ a b, R a b → R b a)
    (held : ∀ one other, one ≠ other → R (runs one) (runs other)) (moved : ∀ other, other ≠ run → R state (runs other)) :
    ∀ one other, one ≠ other → R (Function.update runs run state one) (Function.update runs run state other) := by
  intro one other ne
  by_cases first : one = run
  · rw [first] at ne ⊢
    rw [Function.update_self, Function.update_of_ne (Ne.symm ne)]
    exact moved other (Ne.symm ne)
  · rw [Function.update_of_ne first]
    by_cases second : other = run
    · rw [second, Function.update_self]
      exact symm _ _ (moved one first)
    · rw [Function.update_of_ne second]
      exact held one other ne

theorem apart_symm (a b : MigrationRun) (apart : ∀ name ∈ a.applied, name ∉ b.applied) :
    ∀ name ∈ b.applied, name ∉ a.applied :=
  fun name member other => apart name other member

theorem Sound.quiet {start : Db} {s t : MigrationSystem Db} {run : Nat} {state : MigrationRun}
    (sound : Sound migrations start s) (db : t.database.db = s.database.db)
    (names : t.database.names = s.database.names) (runs : t.runs = Function.update s.runs run state)
    (moved : Quiet migrations s.database.names (s.runs run) state) : Sound migrations start t := by
  constructor
  · rw [names]
    exact sound.ordered
  · rw [names, db]
    exact sound.replayed
  · intro other
    rw [names, runs]
    by_cases same : other = run
    · rw [same, Function.update_self]
      exact (sound.tracks run).quiet moved
    · rw [Function.update_of_ne same]
      exact sound.tracks other
  · rw [runs]
    apply update_apart apart_symm sound.apart
    intro other ne
    rw [moved.applied]
    exact sound.apart run other (Ne.symm ne)

theorem Sound.committed {start db : Db} {s : MigrationSystem Db} {run : Nat} {existing rest applied : List String}
    {name : String} (sound : Sound migrations start s) (here : s.runs run = .applying existing (name :: rest) applied)
    (unknown : name ∉ existing) (ran : migrations.sql name s.database.db = some db)
    (fresh : name ∉ s.database.names) :
    Sound migrations start
      { database := { db, table := some (s.database.names ++ [name]) }
        runs := Function.update s.runs run (.applying existing rest (applied ++ [name])) } := by
  obtain ⟨⟨done, split, inside, part⟩, known, new⟩ := (here ▸ sound.tracks run : Tracks migrations _ (.applying ..))
  have nodup := migrations.nodup_files
  rw [split] at nodup
  have ordered := sound.ordered
  rw [split] at ordered
  -- all that comes before the file is recorded, and it is not
  have exactly : s.database.names = done :=
    prefix_eq_of_next (List.nodup_append.mp nodup).1 ordered inside fresh
  have whole : migrations.files = (s.database.names ++ [name]) ++ rest := by
    rw [split, exactly, List.append_assoc, List.singleton_append]
  constructor
  · rw [whole]
    exact List.prefix_append _ _
  · have replayed := sound.replayed
    change replay migrations (s.database.names ++ [name]) start = some db
    unfold replay at replayed ⊢
    rw [List.foldlM_append, replayed]
    simp [ran]
  · intro other
    change Tracks migrations (s.database.names ++ [name]) (Function.update s.runs run _ other)
    by_cases same : other = run
    · rw [same, Function.update_self]
      refine ⟨⟨s.database.names ++ [name], whole, fun _ member => member, ?_⟩, ?_, ?_⟩
      · rw [exactly]
        exact part.append (List.Sublist.refl _)
      · exact fun other member => List.mem_append_left _ (known other member)
      · exact List.forall_mem_append.mpr ⟨new, List.forall_mem_singleton.mpr unknown⟩
    · rw [Function.update_of_ne same]
      exact (sound.tracks other).more
  · apply update_apart apart_symm sound.apart
    intro other ne
    change ∀ one ∈ applied ++ [name], one ∉ (s.runs other).applied
    refine List.forall_mem_append.mpr ⟨?_, ?_⟩
    · have before := sound.apart run other (Ne.symm ne)
      rw [here] at before
      exact before
    · rw [List.forall_mem_singleton]
      exact fun member => fresh ((sound.tracks other).applied name member)

theorem sound_step {start : Db} (s : MigrationSystem Db) (action : Nat × MigrationStep) (t : MigrationSystem Db)
    (sound : Sound migrations start s) (taken : step migrations s action = some t) : Sound migrations start t := by
  obtain ⟨run, action⟩ := action
  rcases step_cases taken with ⟨db, names, state, runs, moved, -, -⟩ |
    ⟨existing, name, rest, applied, db, here, unknown, ran, fresh, rfl⟩
  · exact sound.quiet db names runs moved
  · exact sound.committed here unknown ran fresh

theorem Sound.returned {start : Db} {s : MigrationSystem Db} (sound : Sound migrations start s) {run : Nat}
    {applied : List String} (returned : s.runs run = .returned applied) :
    s.database.names = migrations.files ∧ applied.Sublist migrations.files := by
  have tracks : Tracks migrations s.database.names (.returned applied) := returned ▸ sound.tracks run
  have size := (List.subperm_of_subset migrations.nodup_files tracks.1).length_le
  exact ⟨sound.ordered.eq_of_length_le size, tracks.2⟩

/-- In every run of any number of calls, each of which may fail anywhere: the recorded names are the first of the sorted
    files, the database is what their scripts made of it, each run once and in that order, no two calls applied a
    file both, and a call that returned has all files recorded and the ones it applied in order. -/
theorem recorded_in_order {start : Db} {actions : List (Nat × MigrationStep)} {s : MigrationSystem Db}
    (reached : Transition.run (step migrations) { database := { db := start } } actions = some s) :
    s.database.names <+: migrations.files ∧
      replay migrations s.database.names start = some s.database.db ∧
      (∀ run other, run ≠ other → ∀ name ∈ (s.runs run).applied, name ∉ (s.runs other).applied) ∧
      ∀ run applied, s.runs run = .returned applied →
        s.database.names = migrations.files ∧ applied.Sublist migrations.files := by
  have sound := Transition.invariant_run sound_step (sound_start start) reached
  exact ⟨sound.ordered, sound.replayed, sound.apart, fun _ _ returned => sound.returned returned⟩

theorem tabled_step (s : MigrationSystem Db) (action : Nat × MigrationStep) (t : MigrationSystem Db)
    (tabled : ∀ run, Tabled (s.runs run) → s.database.table.isSome) (taken : step migrations s action = some t) :
    ∀ run, Tabled (t.runs run) → t.database.table.isSome := by
  obtain ⟨run, action⟩ := action
  rcases step_cases taken with ⟨-, -, state, runs, moved, same, created⟩ | ⟨_, _, _, _, _, -, -, -, -, rfl⟩
  · have kept : s.database.table.isSome → t.database.table.isSome := fun there => by rwa [same there]
    intro other needed
    rw [runs] at needed
    by_cases moving : other = run
    · rw [moving, Function.update_self] at needed
      rcases moved.tabled needed with before | made
      · exact kept (tabled run before)
      · exact created made
    · rw [Function.update_of_ne moving] at needed
      exact kept (tabled other needed)
  · exact fun _ _ => rfl

theorem settled_step {start : Db} {s t : MigrationSystem Db} {action : Nat × MigrationStep}
    (sound : Sound migrations start s) (all : s.database.names = migrations.files) (tabled : s.database.table.isSome)
    (taken : step migrations s action = some t) :
    t.database = s.database ∧ ∀ run, (t.runs run).applied = (s.runs run).applied := by
  obtain ⟨run, action⟩ := action
  rcases step_cases taken with
    ⟨-, -, state, runs, moved, same, -⟩ | ⟨existing, name, rest, applied, db, here, -, -, fresh, -⟩
  · refine ⟨same tabled, ?_⟩
    intro other
    rw [runs]
    by_cases moving : other = run
    · rw [moving, Function.update_self]
      exact moved.applied
    · rw [Function.update_of_ne moving]
  · obtain ⟨⟨done, split, -, -⟩, -, -⟩ := (here ▸ sound.tracks run : Tracks migrations _ (.applying ..))
    rw [all, split] at fresh
    exact absurd (List.mem_append_right _ List.mem_cons_self) fresh

/-- Once a call has returned, no later step of any call changes the database or the recorded names, and a call that
    starts then returns that it applied nothing. -/
theorem rerun_applies_nothing {start : Db} {actions more : List (Nat × MigrationStep)} {s t : MigrationSystem Db}
    (reached : Transition.run (step migrations) { database := { db := start } } actions = some s) {run : Nat}
    {applied : List String} (returned : s.runs run = .returned applied)
    (went : Transition.run (step migrations) s more = some t) :
    t.database = s.database ∧
      ∀ later answer, s.runs later = .idle → t.runs later = .returned answer → answer = [] := by
  have sound := Transition.invariant_run sound_step (sound_start start) reached
  have tables := Transition.invariant_run tabled_step (fun _ needed => by cases needed) reached
  have tabled : s.database.table.isSome := tables run (by rw [returned]; trivial)
  have all := (sound.returned returned).1
  have settled := Transition.invariant_run
    (P := fun u => Sound migrations start u ∧ u.database = s.database ∧
      ∀ run, (u.runs run).applied = (s.runs run).applied)
    (fun u action v held taken => by
      obtain ⟨sound, same, kept⟩ := held
      obtain ⟨still, moved⟩ := settled_step sound (same ▸ all) (same ▸ tabled) taken
      exact ⟨sound_step u action v sound taken, still.trans same, fun run => (moved run).trans (kept run)⟩)
    ⟨sound, rfl, fun _ => rfl⟩ went
  refine ⟨settled.2.1, ?_⟩
  intro later answer idle answered
  have same := settled.2.2 later
  rw [idle, answered] at same
  exact same

def twoScripts : Migrations (List String) where
  listing := ["002_b.sql", "001_a.sql"]
  unique := by decide
  sql name db := some (db ++ [name])

def takenUp : List (Nat × MigrationStep) :=
  [(1, .connect), (1, .createTable), (1, .readExisting), (2, .connect), (2, .createTable), (1, .migrate),
    (2, .readExisting), (1, .fail), (2, .skip), (2, .migrate), (2, .finish)]

theorem recorded_in_order_takenUp : ∃ s : MigrationSystem (List String),
    Transition.run (step twoScripts) { database := { db := [] } } takenUp = some s ∧
      s.runs 2 = .returned ["002_b.sql"] ∧
        s.database.names <+: twoScripts.files ∧
          replay twoScripts s.database.names [] = some s.database.db ∧
          (∀ run other, run ≠ other → ∀ name ∈ (s.runs run).applied, name ∉ (s.runs other).applied) ∧
          ∀ run applied, s.runs run = .returned applied →
            s.database.names = twoScripts.files ∧ applied.Sublist twoScripts.files := by
  have ordered : ∀ s : MigrationSystem (List String),
      Transition.run (step twoScripts) { database := { db := [] } } takenUp = some s → _ :=
    fun s reached => recorded_in_order reached
  exact ⟨_, rfl, rfl, ordered _ rfl⟩

def again : List (Nat × MigrationStep) :=
  [(3, .connect), (3, .createTable), (3, .readExisting), (3, .skip), (3, .skip), (3, .finish)]

theorem rerun_applies_nothing_again : ∃ s t : MigrationSystem (List String),
    Transition.run (step twoScripts) { database := { db := [] } } takenUp = some s ∧
      Transition.run (step twoScripts) s again = some t ∧ t.runs 3 = .returned [] ∧
        t.database = s.database ∧
          ∀ later answer, s.runs later = .idle → t.runs later = .returned answer → answer = [] := by
  have nothing : ∀ s t : MigrationSystem (List String),
      Transition.run (step twoScripts) { database := { db := [] } } takenUp = some s →
        s.runs 2 = .returned ["002_b.sql"] → Transition.run (step twoScripts) s again = some t → _ :=
    fun s t reached returned went => rerun_applies_nothing reached returned went
  exact ⟨_, _, rfl, rfl, rfl, nothing _ _ rfl rfl rfl⟩

end MigrationSystem

end CysAgi
