import CysAgi.Base.PosixPath
import CysAgi.Base.Transition
import CysAgi.Base.WordRuns
import CysAgi.Runs.ManageRun

namespace CysAgi

open Py

/-- `uuid4().hex[:12]`. -/
def isHex12 (hex : String) : Bool :=
  hex.toList.length = 12 && hex.toList.all fun c => ('0' ≤ c && c ≤ '9') || ('a' ≤ c && c ≤ 'f')

def newJobContext (hex tenantId : String) (mode : Option InteractionMode) (profileId : String) : RunContext :=
  { contextId := "run-" ++ hex, kind := .job, tenantId, mode, profileId }

def newSessionContext (hex tenantId : String) (mode : Option InteractionMode) (profileId : String) : RunContext :=
  .fromSessionId ("session-" ++ hex) tenantId mode profileId

structure Attachment where
  tenantId : String
  runId : String
  filename : String
  data : List UInt8

/-- A `FilesystemAttachmentStore`, with the working directory of its process. -/
structure AttachmentStore where
  words : WordClass
  cwd : List String
  root : String

abbrev Files := Dict (List String) Attachment

namespace AttachmentStore

variable (store : AttachmentStore)

def safeFilename (name : String) : String :=
  let base := (PurePath.ofText name).name
  orElse (String.ofList (subRuns (fun c => !(store.words.isWord c || c == '.' || c == '-')) ['_'] base.toList))
    "attachment.bin"

def tenantDir (tenantId : String) : PurePath := (PurePath.ofText store.root).join tenantId

def runDir (tenantId runId : String) : PurePath := (store.tenantDir tenantId).join runId

def dest (tenantId runId filename : String) : PurePath :=
  (store.runDir tenantId runId).join (store.safeFilename filename)

def writesTo (tenantId runId filename : String) : Option (List String) :=
  let dest := store.dest tenantId runId filename
  if dest.name = ".." then none else some (dest.resolve store.cwd)

/-- `save`, and whether the file system refuses it for a reason of its own. -/
def save (attachment : Attachment) (refused : Option PyExc) (files : Files) : Except PyExc (Files × List String) :=
  match refused, store.writesTo attachment.tenantId attachment.runId attachment.filename with
  | some raised, _ => .error raised
  | none, none => .error (.exception "Is a directory")
  | none, some place => .ok (files.set place attachment, place)

end AttachmentStore

structure RunFiles where
  stores : RunStores := {}
  files : Files := .empty

/-- A call of the API: a run or a session is created under a new id, some call stores the state of a run that is
    there, or a file is uploaded. -/
inductive FileAction where
  | createRun (hex tenantId goal : String) (mode : Option InteractionMode) (profileId : String)
  | createSession (hex tenantId goal : String) (mode : Option InteractionMode) (profileId : String)
  | stepped (state : RunState)
  | upload (tenantId runId : String) (filename : Option String) (data : List UInt8) (refused : Option PyExc)

namespace RunFiles

variable (store : AttachmentStore)

/-- No run has the id yet, which `uuid4` is trusted for. -/
def fresh (s : RunFiles) (runId : String) : Bool := s.stores.states.rows.entries.all fun row => row.1.2.1 ≠ runId

/-- `file.filename or "attachment.bin"`. -/
def uploadName (filename : Option String) : String := orElse (filename.getD "") "attachment.bin"

def attached (s : RunFiles) (context : RunContext) (tenantId runId filename path : String) : RunStores :=
  match s.stores.states.get (tenantId, runId, context.kind) with
  | none => s.stores
  | some state =>
    let entry := Json.obj [("path", .str path), ("name", .str filename)]
    s.stores.upsert { state with attachments := state.attachments ++ [entry] }

def uploadAttachment (tenantId runId : String) (filename : Option String) (data : List UInt8) (refused : Option PyExc)
    (s : RunFiles) : RunFiles :=
  match ManageRun.contextOf s.stores tenantId runId with
  | none => s
  | some context =>
    let name := uploadName filename
    match store.save { tenantId, runId, filename := name, data } refused s.files with
    | .error _ => s
    | .ok (files, place) =>
      { stores := s.attached context tenantId runId name ("/" ++ "/".intercalate place), files }

def create (hex : String) (context : RunContext) (goal : String) (s : RunFiles) : Option RunFiles :=
  if isHex12 hex && s.fresh context.contextId then
    some { s with stores := final (ManageRun.saveContext context goal) s.stores }
  else none

def next (s : RunFiles) : FileAction → Option RunFiles
  | .createRun hex tenantId goal mode profileId => s.create hex (newJobContext hex tenantId mode profileId) goal
  | .createSession hex tenantId goal mode profileId => s.create hex (newSessionContext hex tenantId mode profileId) goal
  | .stepped state =>
    if (s.stores.states.get state.runContext.key).isSome then some { s with stores := s.stores.upsert state } else none
  | .upload tenantId runId filename data refused => some (s.uploadAttachment store tenantId runId filename data refused)

/-- An upload under these names writes strictly inside the root, and on no file that was saved under others. -/
def SafeUpload (s : RunFiles) (tenantId runId filename : String) : Prop :=
  ∀ place, store.writesTo tenantId runId filename = some place →
    ((PurePath.ofText store.root).resolve store.cwd <+: place ∧
        place ≠ (PurePath.ofText store.root).resolve store.cwd) ∧
      ∀ other, s.files.get? place = some other →
        other.tenantId = tenantId ∧ other.runId = runId ∧ other.filename = filename

/-- The tenant leads from the root to the root or below it, or to its parent, where the run has the root's own name. -/
def LeadsInside (tenantId runId : String) : Prop :=
  let root := (PurePath.ofText store.root).resolve store.cwd
  let tenant := (store.tenantDir tenantId).resolve store.cwd
  root <+: tenant ∨ root = tenant ++ [runId]

/-- No file of the run has been saved under another name that has the same safe name. -/
def Unclaimed (s : RunFiles) (runId filename : String) : Prop :=
  ∀ place other, s.files.get? place = some other → other.runId = runId →
    store.safeFilename other.filename = store.safeFilename filename → other.filename = filename

/-- `Path(filename).name` is the parent directory, so that nothing is written. -/
def NamesParent (filename : String) : Prop := (PurePath.ofText filename).name = ".."

end RunFiles

namespace AttachmentStore

variable (store : AttachmentStore)

theorem safeFilename_parent {filename : String} (parent : RunFiles.NamesParent filename) :
    store.safeFilename filename = ".." := by
  unfold RunFiles.NamesParent at parent
  unfold safeFilename
  dsimp only
  rw [parent, subRuns_of_none (by simp)]
  rfl

theorem plain_safeFilename {filename : String} (named : ¬RunFiles.NamesParent filename) :
    PlainName (store.safeFilename filename) := by
  unfold RunFiles.NamesParent at named
  unfold safeFilename
  dsimp only
  rcases PurePath.name_cases filename with empty | parent | plain
  · rw [empty]
    exact (⟨by decide, by decide, by decide, by decide⟩ : PlainName "attachment.bin")
  · exact absurd parent named
  · generalize (PurePath.ofText filename).name = base at plain ⊢
    let refused (c : Char) : Bool := !(store.words.isWord c || c == '.' || c == '-')
    change PlainName (orElse (String.ofList (subRuns refused ['_'] base.toList)) "attachment.bin")
    have slash : '/' ∉ subRuns refused ['_'] base.toList := by
      intro member
      rcases mem_subRuns member with ⟨-, kept⟩ | fresh
      · have word : store.words.isWord '/' = false := store.words.ascii (by decide)
        simp [refused, word] at kept
      · simp at fresh
    by_cases clean : ∀ c ∈ base.toList, refused c = false
    · rw [subRuns_of_none clean, String.ofList_toList]
      unfold orElse
      rw [if_neg plain.nonempty]
      exact plain
    · obtain ⟨c, member, hit⟩ := not_forall₂.mp clean
      have under : '_' ∈ subRuns refused ['_'] base.toList :=
        new_mem_subRuns member (Bool.not_eq_false _ ▸ hit) (List.mem_singleton_self _)
      generalize subRuns refused ['_'] base.toList = out at slash under
      have other {text : String} (without : '_' ∉ text.toList) : String.ofList out ≠ text := by
        rintro rfl
        exact without (by simpa using under)
      unfold orElse
      rw [if_neg (other (by decide))]
      exact ⟨other (by decide), other (by decide), other (by decide), by simpa using slash⟩

theorem writesTo_parent {filename : String} (parent : RunFiles.NamesParent filename) (tenantId runId : String) :
    store.writesTo tenantId runId filename = none := by
  unfold writesTo dest
  dsimp only
  rw [store.safeFilename_parent parent]
  apply if_pos
  unfold PurePath.join
  rw [if_neg (by decide)]
  simp [PurePath.name, show segments ".." = [".."] by decide]

theorem writesTo_plain {runId filename : String} (run : PlainName runId) (named : ¬RunFiles.NamesParent filename)
    (tenantId : String) :
    store.writesTo tenantId runId filename =
      some ((store.tenantDir tenantId).resolve store.cwd ++ [runId, store.safeFilename filename]) := by
  have plain := store.plain_safeFilename named
  unfold writesTo dest
  dsimp only
  rw [PurePath.name_join_plain plain, if_neg plain.notParent, PurePath.resolve_join_plain plain]
  unfold runDir
  rw [PurePath.resolve_join_plain run, List.append_assoc]
  rfl

end AttachmentStore

namespace RunFiles

variable {store : AttachmentStore} {s t : RunFiles}

def known (s : RunFiles) (key : RunKey) : Bool := (s.stores.states.get key).isSome

structure Sound (store : AttachmentStore) (s : RunFiles) : Prop where
  plain : ∀ key, s.known key = true → PlainName key.2.1
  tenants : ∀ key other, s.known key = true → s.known other = true → key.2.1 = other.2.1 → key.1 = other.1
  files : ∀ place other, s.files.get? place = some other →
    store.writesTo other.tenantId other.runId other.filename = some place ∧
      ∃ kind, s.known (other.tenantId, other.runId, kind) = true

theorem known_upsert (state : RunState) (key : RunKey) :
    ({ s with stores := s.stores.upsert state } : RunFiles).known key =
      (decide (key = state.runContext.key) || s.known key) := by
  unfold known
  change ((s.stores.states.upsert state).get key).isSome = _
  rw [RunStateStore.get_upsert]
  split <;> simp [*]

theorem Sound.same (sound : Sound store s) (known : ∀ key, t.known key = s.known key) (files : t.files = s.files) :
    Sound store t := by
  have same : t.known = s.known := funext known
  refine ⟨?_, ?_, ?_⟩
  · rw [same]
    exact sound.plain
  · rw [same]
    exact sound.tenants
  · rw [same, files]
    exact sound.files

theorem known_upsert_known {state : RunState} (here : s.known state.runContext.key = true) (key : RunKey) :
    ({ s with stores := s.stores.upsert state } : RunFiles).known key = s.known key := by
  rw [known_upsert]
  by_cases same : key = state.runContext.key
  · rw [same, here]
    simp
  · simp [same]

theorem not_known_of_fresh {runId : String} (fresh : s.fresh runId = true) (tenantId : String) (kind : ContextKind) :
    s.known (tenantId, runId, kind) = false := by
  unfold known RunStateStore.get
  cases found : s.stores.states.rows.get? (tenantId, runId, kind) with
  | none => rfl
  | some state =>
    have row := List.all_eq_true.mp fresh _ (s.stores.states.rows.mem_entries_iff.mpr found)
    simp at row

theorem plain_runId {hex start : String} (digits : isHex12 hex = true) (first : '/' ∉ start.toList)
    (long : 2 < start.toList.length) : PlainName (start ++ hex) := by
  have slash : '/' ∉ hex.toList := by
    intro member
    have digit := List.all_eq_true.mp (Bool.and_eq_true_iff.mp digits).2 '/' member
    exact absurd digit (by decide)
  have longer {text : String} (short : text.toList.length ≤ 2) : start ++ hex ≠ text := by
    rintro rfl
    rw [String.toList_append, List.length_append] at short
    omega
  refine ⟨longer (by decide), longer (by decide), longer (by decide), ?_⟩
  rw [String.toList_append, List.mem_append, not_or]
  exact ⟨first, slash⟩

theorem Sound.create {hex goal : String} {context : RunContext} (sound : Sound store s)
    (named : isHex12 hex = true → PlainName context.contextId) (created : s.create hex context goal = some t) :
    Sound store t := by
  unfold RunFiles.create at created
  split at created
  · rename_i allowed
    obtain ⟨digits, fresh⟩ := Bool.and_eq_true_iff.mp allowed
    cases created
    have key : (ManageRun.saved s.stores context goal).runContext.key = context.key := by
      unfold ManageRun.saved
      split <;> rfl
    have known (other : RunKey) :
        ({ s with stores := final (ManageRun.saveContext context goal) s.stores } : RunFiles).known other = true ↔
          other = context.key ∨ s.known other = true := by
      rw [← key]
      exact (Bool.eq_iff_iff.mp (known_upsert _ other)).trans (by simp)
    have unknown {other : RunKey} (here : s.known other = true) : other.2.1 ≠ context.contextId := by
      rintro same
      have absent := not_known_of_fresh fresh other.1 other.2.2
      rw [← same] at absent
      exact Bool.false_ne_true (absent.symm.trans here)
    refine ⟨?_, ?_, ?_⟩
    · intro other here
      rcases (known other).mp here with rfl | before
      · exact named digits
      · exact sound.plain other before
    · intro one other first second sameId
      rcases (known one).mp first with rfl | before <;> rcases (known other).mp second with rfl | earlier
      · rfl
      · exact absurd sameId.symm (unknown earlier)
      · exact absurd sameId (unknown before)
      · exact sound.tenants one other before earlier sameId
    · intro place other stored
      obtain ⟨written, kind, here⟩ := sound.files place other stored
      exact ⟨written, kind, (known _).mpr (.inr here)⟩
  · cases created

theorem known_of_contextOf {tenantId runId : String} (found : (ManageRun.contextOf s.stores tenantId runId).isSome) :
    ∃ kind, s.known (tenantId, runId, kind) = true := by
  obtain ⟨context, found⟩ := Option.isSome_iff_exists.mp found
  obtain ⟨kind, -, here⟩ := List.exists_of_findSome?_eq_some found
  refine ⟨kind, ?_⟩
  unfold known
  cases state : s.stores.states.get (tenantId, runId, kind) with
  | none =>
    rw [state] at here
    cases here
  | some state => rfl

theorem known_attached (context : RunContext) (tenantId runId filename path : String) (files : Files) (key : RunKey) :
    ({ stores := s.attached context tenantId runId filename path, files } : RunFiles).known key = s.known key := by
  unfold attached
  cases found : s.stores.states.get (tenantId, runId, context.kind) with
  | none => rfl
  | some state =>
    have keyed : state.runContext.key = (tenantId, runId, context.kind) := RunStateStore.key_of_get found
    refine known_upsert_known (s := s) ?_ key
    change s.known state.runContext.key = true
    rw [keyed]
    exact Option.isSome_iff_exists.mpr ⟨state, found⟩

theorem save_eq_ok {attachment : Attachment} {refused : Option PyExc} {files after : Files} {place : List String}
    (saved : store.save attachment refused files = .ok (after, place)) :
    store.writesTo attachment.tenantId attachment.runId attachment.filename = some place ∧
      after = files.set place attachment := by
  unfold AttachmentStore.save at saved
  split at saved
  · cases saved
  · cases saved
  · rename_i written
    cases saved
    exact ⟨written, rfl⟩

theorem Sound.uploadAttachment (sound : Sound store s) (tenantId runId : String) (filename : Option String)
    (data : List UInt8) (refused : Option PyExc) :
    Sound store (s.uploadAttachment store tenantId runId filename data refused) := by
  unfold RunFiles.uploadAttachment
  cases found : ManageRun.contextOf s.stores tenantId runId with
  | none => exact sound
  | some context =>
    dsimp only
    cases saved : store.save { tenantId, runId, filename := uploadName filename, data } refused s.files with
    | error raised => exact sound
    | ok result =>
      obtain ⟨files, place⟩ := result
      obtain ⟨written, rfl⟩ := save_eq_ok saved
      obtain ⟨kind, here⟩ := known_of_contextOf (Option.isSome_iff_exists.mpr ⟨context, found⟩)
      dsimp only
      have known := known_attached (s := s) context tenantId runId (uploadName filename)
        ("/" ++ "/".intercalate place) (s.files.set place { tenantId, runId, filename := uploadName filename, data })
      refine ⟨fun key => ?_, fun key other => ?_, ?_⟩
      · rw [known]
        exact sound.plain key
      · rw [known, known]
        exact sound.tenants key other
      · intro at' other stored
        rw [Dict.get?_set] at stored
        split at stored
        · rename_i same
          cases stored
          rw [same]
          exact ⟨written, kind, (known _).trans here⟩
        · obtain ⟨wrote, kind, before⟩ := sound.files at' other stored
          exact ⟨wrote, kind, (known _).trans before⟩

theorem sound_next {action : FileAction} (sound : Sound store s) (taken : s.next store action = some t) :
    Sound store t := by
  cases action with
  | createRun hex tenantId goal mode profileId =>
    exact sound.create (fun digits => plain_runId digits (by decide) (by decide)) taken
  | createSession hex tenantId goal mode profileId =>
    exact sound.create (fun digits => plain_runId digits (by decide) (by decide)) taken
  | stepped state =>
    unfold RunFiles.next at taken
    dsimp only at taken
    split at taken
    · rename_i here
      cases taken
      exact sound.same (known_upsert_known here) rfl
    · cases taken
  | upload tenantId runId filename data refused =>
    cases taken
    exact sound.uploadAttachment tenantId runId filename data refused

theorem sound_run {actions : List FileAction} (reached : Transition.run (next store) {} actions = some t) :
    Sound store t := by
  apply Transition.invariant_run (P := Sound store) (fun s action t sound taken => sound_next sound taken) _ reached
  refine ⟨?_, ?_, ?_⟩
  · rintro key ⟨⟩
  · rintro key other ⟨⟩
  · rintro place other ⟨⟩

theorem inside_iff (root tenant : List String) (runId filename : String) :
    (root <+: tenant ++ [runId, filename] ∧ tenant ++ [runId, filename] ≠ root) ↔
      root <+: tenant ∨ root = tenant ++ [runId] := by
  have last : tenant ++ [runId, filename] = tenant ++ [runId] ++ [filename] := by simp
  rw [last, List.prefix_concat_iff, List.prefix_concat_iff]
  constructor
  · rintro ⟨same | inside, other⟩
    · exact absurd same.symm other
    · exact inside.symm
  · intro inside
    refine ⟨.inr inside.symm, fun same => ?_⟩
    have short : root.length ≤ tenant.length + 1 := by
      rcases inside with below | rfl
      · exact below.length_le.trans (Nat.le_succ _)
      · simp
    rw [← same] at short
    simp at short

theorem Sound.owner (sound : Sound store s) {tenantId runId filename : String} {kind : ContextKind}
    (here : s.known (tenantId, runId, kind) = true) (named : ¬NamesParent filename) {place : List String}
    {other : Attachment} (stored : s.files.get? place = some other) :
    store.writesTo tenantId runId filename = some place ↔
      other.tenantId = tenantId ∧ other.runId = runId ∧
        store.safeFilename other.filename = store.safeFilename filename := by
  obtain ⟨written, otherKind, there⟩ := sound.files place other stored
  have otherNamed : ¬NamesParent other.filename := by
    intro parent
    rw [store.writesTo_parent parent] at written
    cases written
  rw [store.writesTo_plain (sound.plain _ there) otherNamed] at written
  rw [store.writesTo_plain (sound.plain _ here) named, ← written, Option.some.injEq]
  constructor
  · intro same
    obtain ⟨-, tail⟩ := List.append_inj' same (by simp)
    have ids : runId = other.runId := (List.cons.inj tail).1
    have names : store.safeFilename filename = store.safeFilename other.filename :=
      (List.cons.inj (List.cons.inj tail).2).1
    exact ⟨(sound.tenants _ _ here there ids).symm, ids.symm, names.symm⟩
  · rintro ⟨rfl, rfl, names⟩
    rw [names]

theorem Sound.safeUpload_iff (sound : Sound store s) {tenantId runId : String} {kind : ContextKind}
    (here : s.known (tenantId, runId, kind) = true) (filename : String) :
    s.SafeUpload store tenantId runId filename ↔
      NamesParent filename ∨ LeadsInside store tenantId runId ∧ s.Unclaimed store runId filename := by
  unfold SafeUpload
  by_cases named : NamesParent filename
  · rw [store.writesTo_parent named]
    exact ⟨fun _ => .inl named, fun _ place none => by cases none⟩
  · have written := store.writesTo_plain (sound.plain _ here) named tenantId
    have inside := inside_iff ((PurePath.ofText store.root).resolve store.cwd)
      ((store.tenantDir tenantId).resolve store.cwd) runId (store.safeFilename filename)
    constructor
    · intro safe
      obtain ⟨contained, alone⟩ := safe _ written
      refine .inr ⟨inside.mp contained, fun place other stored sameRun sameName => ?_⟩
      obtain ⟨-, otherKind, there⟩ := sound.files place other stored
      have sameTenant := sound.tenants _ _ there here sameRun
      have writes := (sound.owner here named stored).mpr ⟨sameTenant, sameRun, sameName⟩
      rw [Option.some.inj (written.symm.trans writes)] at alone
      exact (alone other stored).2.2
    · rintro (parent | ⟨leads, unclaimed⟩) place writes
      · exact absurd parent named
      · cases written.symm.trans writes
        refine ⟨inside.mpr leads, fun other stored => ?_⟩
        obtain ⟨tenant, run, name⟩ := (sound.owner here named stored).mp writes
        exact ⟨tenant, run, unclaimed _ other stored run name⟩

/-- In every state that the API can reach, for a run that it finds: an upload stays inside the root, and on its own
    file, if and only if its tenant leads inside and no other name of the run has the same safe name. -/
theorem upload_safe_iff (store : AttachmentStore) (actions : List FileAction) {s : RunFiles}
    (reached : Transition.run (next store) {} actions = some s) {tenantId runId : String}
    (found : (ManageRun.contextOf s.stores tenantId runId).isSome) (filename : String) :
    s.SafeUpload store tenantId runId filename ↔
      NamesParent filename ∨ LeadsInside store tenantId runId ∧ s.Unclaimed store runId filename := by
  obtain ⟨kind, here⟩ := known_of_contextOf found
  exact (sound_run reached).safeUpload_iff here filename

def tmpStore : AttachmentStore where
  words := plainWords
  cwd := ["app"]
  root := "/tmp/egregore-attachments"

def created (tenantId : String) : FileAction := .createRun "0123456789ab" tenantId "triage" none "cybersec-soc"

def uploaded (tenantId filename : String) : FileAction :=
  .upload tenantId "run-0123456789ab" (some filename) [1] none

/-- A tenant climbs out of the root, and a name takes the file of another. -/
theorem tenant_climbs_out :
    (∃ s, Transition.run (next tmpStore) {} [created ".."] = some s ∧
      (ManageRun.contextOf s.stores ".." "run-0123456789ab").isSome ∧
      ¬s.SafeUpload tmpStore ".." "run-0123456789ab" "report.txt") ∧
    ∃ s, Transition.run (next tmpStore) {} [created "acme", uploaded "acme" "a b"] = some s ∧
      (ManageRun.contextOf s.stores "acme" "run-0123456789ab").isSome ∧
      ¬s.SafeUpload tmpStore "acme" "run-0123456789ab" "a_b" := by
  refine ⟨⟨_, rfl, rfl, fun safe => ?_⟩, ⟨_, rfl, rfl, fun safe => ?_⟩⟩
  · have outside := (safe ["tmp", "run-0123456789ab", "report.txt"] (by decide)).1.1
    exact absurd outside (by decide)
  · have taken := (safe ["tmp", "egregore-attachments", "acme", "run-0123456789ab", "a_b"] (by decide)).2 _ rfl
    exact absurd taken.2.2 (by decide)

theorem upload_safe_acme :
    ∃ s, Transition.run (next tmpStore) {} [created "acme", uploaded "acme" "a_b"] = some s ∧
      (s.SafeUpload tmpStore "acme" "run-0123456789ab" "report.txt" ↔
        NamesParent "report.txt" ∨ LeadsInside tmpStore "acme" "run-0123456789ab" ∧
          s.Unclaimed tmpStore "run-0123456789ab" "report.txt") :=
  ⟨_, rfl, upload_safe_iff tmpStore [created "acme", uploaded "acme" "a_b"] rfl rfl "report.txt"⟩

end RunFiles

end CysAgi
