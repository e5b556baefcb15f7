import CysAgi.Base.Padding
import CysAgi.Base.Splitting
import CysAgi.Base.Transition
import CysAgi.Runtime.BlockedGlobs

namespace CysAgi

open Py

structure SandboxRun where
  persona : String
  runId : String
  deriving DecidableEq

structure SandboxRuns where
  runs : List SandboxRun
  unique : ∀ x ∈ runs, ∀ y ∈ runs, x.runId = y.runId → x = y

namespace K8sSandbox

section

variable (lowering : Lowering)

def rawName (run : SandboxRun) : List Char :=
  (replaceAll "_" "-" (lowering.lower s!"worker-{run.persona}-{run.runId}")).toList

theorem rawName_plain (run : SandboxRun)
    (plain : ∀ c ∈ (s!"worker-{run.persona}-{run.runId}").toList,
      c.toNat < 128 ∧ ¬('A' ≤ c ∧ c ≤ 'Z') ∧ c ≠ '_') :
    rawName lowering run = (s!"worker-{run.persona}-{run.runId}").toList := by
  have lowered : (lowering.lower s!"worker-{run.persona}-{run.runId}").toList =
      (s!"worker-{run.persona}-{run.runId}").toList := by
    unfold Lowering.lower
    rw [String.toList_ofList, lowering.lowerFrom_of_fixed]
    intro c member
    exact lowering.fixed_of_ascii (plain c member).1 (plain c member).2.1
  unfold rawName
  rw [toList_replaceAll_absent rfl, lowered]
  rw [lowered]
  exact fun member => (plain '_' member).2.2 rfl

def jobName (run : SandboxRun) : String := String.ofList (((rawName lowering run).take 63).rdropWhile (· = '-'))

/-- Among the first 63 characters, where dashes follow a name that is shorter, there is one in which the two differ. -/
def DifferEarly (x y : SandboxRun) : Prop :=
  ∃ i < 63, (rawName lowering x).getD i '-' ≠ (rawName lowering y).getD i '-'

theorem length_jobName (run : SandboxRun) : (jobName lowering run).toList.length ≤ 63 := by
  have cut := (List.rdropWhile_prefix (· = '-') ((rawName lowering run).take 63)).length_le
  unfold jobName
  rw [String.toList_ofList]
  exact cut.trans (List.length_take_le 63 _)

theorem jobName_ne_iff (x y : SandboxRun) : jobName lowering x ≠ jobName lowering y ↔ DifferEarly lowering x y := by
  unfold jobName DifferEarly
  rw [ne_eq, String.ofList_inj, rdropWhile_take_eq_iff]
  simp only [not_forall, exists_prop]

end

end K8sSandbox

/-- The namespace in the cluster, whose jobs name their run in their body, and the connector of each worker process:
    the job names that it holds and the sandboxes of its fallback. -/
structure SandboxCluster where
  jobs : Dict String SandboxRun := .empty
  jobNames : Nat → Dict String String := fun _ => .empty
  fallback : Nat → Dict String SandboxCredentials := fun _ => .empty

inductive SandboxAction where
  | create (process : Nat) (run : SandboxRun) (hex : String) (refused : Bool)
  | destroy (process : Nat) (run : SandboxRun) (refused : Bool)
  | expire (name : String)

namespace SandboxCluster

variable (lowering : Lowering) (k8sNamespace : String)

/-- `LocalSandboxConnector.create`. -/
def localCredentials (run : SandboxRun) (hex : String) : SandboxCredentials where
  sandboxId := s!"local-{run.runId}-{hex}"
  endpoint := s!"sandbox://local/{run.persona}/{run.runId}"
  token := s!"tok-default-{run.runId}"

/-- `create`. The API takes a job of a name that is new. -/
def create (process : Nat) (run : SandboxRun) (hex : String) (refused : Bool) (s : SandboxCluster) :
    SandboxCluster × SandboxCredentials :=
  let name := K8sSandbox.jobName lowering run
  if refused || (s.jobs.get? name).isSome then
    let credentials := localCredentials run hex
    ({ s with fallback := Function.update s.fallback process ((s.fallback process).set run.runId credentials) },
      { credentials with sandboxId := s!"k8s-fallback-{credentials.sandboxId}" })
  else
    ({ s with
        jobs := s.jobs.set name run
        jobNames := Function.update s.jobNames process ((s.jobNames process).set run.runId name) },
      { sandboxId := s!"k8s-{name}", endpoint := s!"kubernetes://{k8sNamespace}/job/{name}"
        token := s!"tok-default-{hex}" })

/-- `destroy`, by the id of the run only. -/
def destroy (process : Nat) (runId : String) (refused : Bool) (s : SandboxCluster) : SandboxCluster :=
  let popped := { s with
    jobNames := Function.update s.jobNames process ((s.jobNames process).erase runId)
    fallback := Function.update s.fallback process ((s.fallback process).erase runId) }
  match (s.jobNames process).get? runId with
  | none => popped
  | some name => if refused then popped else { popped with jobs := s.jobs.erase name }

def next (s : SandboxCluster) : SandboxAction → Option SandboxCluster
  | .create process run hex refused => some (s.create lowering k8sNamespace process run hex refused).1
  | .destroy process run refused => some (s.destroy process run.runId refused)
  | .expire name => some { s with jobs := s.jobs.erase name }

/-- What the action of one sandbox leaves of the jobs of the others, and that a sandbox gets its own job where the API
    does not refuse it. -/
def Isolated (s : SandboxCluster) : SandboxAction → Prop
  | .create process run hex refused =>
    let t := (s.create lowering k8sNamespace process run hex refused).1
    (∀ name other, other ≠ run → s.jobs.get? name = some other → t.jobs.get? name = some other) ∧
      (refused = false → t.jobs.get? (K8sSandbox.jobName lowering run) = some run)
  | .destroy process run refused =>
    ∀ name other, other ≠ run → s.jobs.get? name = some other →
      (s.destroy process run.runId refused).jobs.get? name = some other
  | .expire _ => True

end SandboxCluster

def SandboxAction.Of (runs : List SandboxRun) : SandboxAction → Prop
  | .create _ run _ _ => run ∈ runs
  | .destroy _ run _ => run ∈ runs
  | .expire _ => True

namespace SandboxCluster

variable (lowering : Lowering) (k8sNamespace : String)

/-- The names of the runs are different, and however their sandboxes are created and destroyed, none affects
    another's. -/
structure NamesIsolate (runs : List SandboxRun) : Prop where
  distinct : ∀ x ∈ runs, ∀ y ∈ runs, x ≠ y → K8sSandbox.jobName lowering x ≠ K8sSandbox.jobName lowering y
  isolated : ∀ actions, (∀ action ∈ actions, action.Of runs) →
    Transition.Guarded (next lowering k8sNamespace) (Isolated lowering k8sNamespace) {} actions

structure Named (runs : List SandboxRun) (s : SandboxCluster) : Prop where
  jobs : ∀ name run, s.jobs.get? name = some run → run ∈ runs ∧ name = K8sSandbox.jobName lowering run
  held : ∀ process runId name, (s.jobNames process).get? runId = some name →
    ∃ run ∈ runs, run.runId = runId ∧ name = K8sSandbox.jobName lowering run

variable {lowering k8sNamespace} {runs : SandboxRuns} {s t : SandboxCluster}

theorem Named.create (named : Named lowering runs.runs s) {run : SandboxRun} (here : run ∈ runs.runs) (process : Nat)
    (hex : String) (refused : Bool) :
    Named lowering runs.runs (s.create lowering k8sNamespace process run hex refused).1 := by
  unfold SandboxCluster.create
  dsimp only
  split
  · exact ⟨named.jobs, named.held⟩
  · constructor
    · intro name other found
      dsimp only at found
      rw [Dict.get?_set] at found
      split at found
      · rename_i same
        cases found
        exact ⟨here, same⟩
      · exact named.jobs name other found
    · intro owner runId name found
      dsimp only at found
      by_cases same : owner = process
      · rw [same, Function.update_self, Dict.get?_set] at found
        split at found
        · rename_i own
          exact ⟨run, here, own.symm, (Option.some.inj found).symm⟩
        · exact named.held process runId name found
      · rw [Function.update_of_ne same] at found
        exact named.held owner runId name found

theorem Named.erase (named : Named lowering runs.runs s) (name : String) :
    Named lowering runs.runs { s with jobs := s.jobs.erase name } := by
  refine ⟨fun other run found => ?_, named.held⟩
  dsimp only at found
  rw [Dict.get?_erase] at found
  split at found
  · cases found
  · exact named.jobs other run found

theorem Named.pop (named : Named lowering runs.runs s) (process : Nat) (runId : String)
    (fallback : Nat → Dict String SandboxCredentials) :
    Named lowering runs.runs
      { s with jobNames := Function.update s.jobNames process ((s.jobNames process).erase runId), fallback } := by
  refine ⟨named.jobs, fun owner other name found => ?_⟩
  dsimp only at found
  by_cases same : owner = process
  · rw [same, Function.update_self, Dict.get?_erase] at found
    split at found
    · cases found
    · exact named.held process other name found
  · rw [Function.update_of_ne same] at found
    exact named.held owner other name found

theorem Named.destroy (named : Named lowering runs.runs s) (process : Nat) (runId : String) (refused : Bool) :
    Named lowering runs.runs (s.destroy process runId refused) := by
  have popped := named.pop process runId (Function.update s.fallback process ((s.fallback process).erase runId))
  unfold SandboxCluster.destroy
  dsimp only
  split
  · exact popped
  · split
    · exact popped
    · exact popped.erase _

theorem named_next {action : SandboxAction} (named : Named lowering runs.runs s) (about : action.Of runs.runs)
    (taken : next lowering k8sNamespace s action = some t) : Named lowering runs.runs t := by
  cases action with
  | create process run hex refused =>
    cases taken
    exact named.create about process hex refused
  | destroy process run refused =>
    cases taken
    exact named.destroy process run.runId refused
  | expire name =>
    cases taken
    exact named.erase name

variable (distinct : ∀ x ∈ runs.runs, ∀ y ∈ runs.runs, x ≠ y →
  K8sSandbox.jobName lowering x ≠ K8sSandbox.jobName lowering y)

include distinct in
theorem Named.isolated (named : Named lowering runs.runs s) {action : SandboxAction} (about : action.Of runs.runs) :
    Isolated lowering k8sNamespace s action := by
  cases action with
  | create process run hex refused =>
    unfold Isolated SandboxCluster.create
    dsimp only
    split
    · rename_i kept
      refine ⟨fun name other _ found => found, fun taken => ?_⟩
      rw [taken, Bool.false_or] at kept
      obtain ⟨owner, found⟩ := Option.isSome_iff_exists.mp kept
      obtain ⟨known, called⟩ := named.jobs _ owner found
      have same : owner = run := by
        by_contra ne
        exact distinct owner known run about ne called.symm
      rw [← same] at found ⊢
      exact found
    · refine ⟨fun name other ne found => ?_, fun _ => Dict.get?_set_self _ _ _⟩
      obtain ⟨known, called⟩ := named.jobs name other found
      have other_name : name ≠ K8sSandbox.jobName lowering run := by
        rw [called]
        exact distinct other known run about ne
      rw [Dict.get?_set_of_ne _ _ other_name]
      exact found
  | destroy process run refused =>
    intro name other ne found
    obtain ⟨inside, names⟩ := named.jobs name other found
    unfold SandboxCluster.destroy
    dsimp only
    split
    · exact found
    · rename_i held holds
      split
      · exact found
      · obtain ⟨owner, known, sameId, called⟩ := named.held process run.runId held holds
        have same : owner = run := runs.unique owner known run about sameId
        have other_name : name ≠ held := by
          rw [names, called, same]
          exact distinct other inside run about ne
        dsimp only
        rw [Dict.get?_erase, if_neg other_name]
        exact found
  | expire name => trivial

include distinct in
theorem isolated_run (named : Named lowering runs.runs s) {actions : List SandboxAction}
    (about : ∀ action ∈ actions, action.Of runs.runs) :
    Transition.Guarded (next lowering k8sNamespace) (Isolated lowering k8sNamespace) s actions := by
  induction actions generalizing s with
  | nil => trivial
  | cons action rest ih =>
    have first := about action List.mem_cons_self
    refine ⟨named.isolated distinct first, fun t taken => ?_⟩
    exact ih (named_next named first taken) fun later member => about later (List.mem_cons_of_mem action member)

theorem named_empty : Named lowering runs.runs {} := ⟨nofun, nofun⟩

/-- No job name is too long, and the sandboxes of a set of runs are apart if and only if every two of the runs differ
    in what the cut leaves of their names. -/
theorem names_isolate_iff (lowering : Lowering) (k8sNamespace : String) (runs : SandboxRuns) :
    (∀ run ∈ runs.runs, (K8sSandbox.jobName lowering run).toList.length ≤ 63) ∧
      (NamesIsolate lowering k8sNamespace runs.runs ↔
        ∀ x ∈ runs.runs, ∀ y ∈ runs.runs, x ≠ y → K8sSandbox.DifferEarly lowering x y) := by
  refine ⟨fun run _ => K8sSandbox.length_jobName lowering run, ?_, ?_⟩
  · intro isolate x hx y hy ne
    exact (K8sSandbox.jobName_ne_iff lowering x y).mp (isolate.distinct x hx y hy ne)
  · intro differ
    have distinct : ∀ x ∈ runs.runs, ∀ y ∈ runs.runs, x ≠ y →
        K8sSandbox.jobName lowering x ≠ K8sSandbox.jobName lowering y := by
      intro x hx y hy ne
      exact (K8sSandbox.jobName_ne_iff lowering x y).mpr (differ x hx y hy ne)
    exact ⟨distinct, fun actions about => isolated_run distinct named_empty about⟩

def complianceRun (hex : String) : SandboxRun where
  persona := "compliance"
  runId := "compliance-00000000-0000-4000-8000-000000000000-" ++ hex

theorem rawName_complianceRun (hex : String)
    (plain : (hex.toList.all fun c => c.toNat < 128 ∧ ¬('A' ≤ c ∧ c ≤ 'Z') ∧ c ≠ '_') = true) :
    K8sSandbox.rawName asciiLowering (complianceRun hex) =
      "worker-compliance-compliance-00000000-0000-4000-8000-000000000000-".toList ++ hex.toList := by
  have spelled : (s!"worker-{(complianceRun hex).persona}-{(complianceRun hex).runId}").toList =
      "worker-compliance-compliance-00000000-0000-4000-8000-000000000000-".toList ++ hex.toList := by
    change ("worker-" ++ "compliance" ++ "-" ++ ("compliance-00000000-0000-4000-8000-000000000000-" ++ hex)).toList = _
    simp
  rw [K8sSandbox.rawName_plain, spelled]
  rw [spelled]
  intro c member
  rcases List.mem_append.mp member with stem | inside
  · have small : ("worker-compliance-compliance-00000000-0000-4000-8000-000000000000-".toList.all fun c =>
        c.toNat < 128 ∧ ¬('A' ≤ c ∧ c ≤ 'Z') ∧ c ≠ '_') = true := by decide
    exact of_decide_eq_true (List.all_eq_true.mp small c stem)
  · exact of_decide_eq_true (List.all_eq_true.mp plain c inside)

/-- Two jobs of one persona for one event have one job name: the hexes that tell them apart are cut off. -/
theorem compliance_runs_collide :
    complianceRun "11111111" ≠ complianceRun "22222222" ∧
      K8sSandbox.jobName asciiLowering (complianceRun "11111111") =
        K8sSandbox.jobName asciiLowering (complianceRun "22222222") := by
  constructor
  · decide
  · unfold K8sSandbox.jobName
    rw [rawName_complianceRun _ (by decide), rawName_complianceRun _ (by decide),
      List.take_append_of_le_length (by decide), List.take_append_of_le_length (by decide)]

end SandboxCluster

end CysAgi
