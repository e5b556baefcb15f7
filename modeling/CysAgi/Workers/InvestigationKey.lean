import CysAgi.Runs.SpawnChain
import CysAgi.Workers.SequentialChains

namespace CysAgi

open Py

structure WorkerJob.DependsOn (dependent job : WorkerJob) : Prop where
  persona : dependent.dependsOnPersona = job.persona
  tenantId : dependent.tenantId = job.tenantId
  correlationId : dependent.correlationId = job.correlationId
  eventId : dependent.eventId = job.eventId
  payload : dependent.payload = job.payload

namespace Routing

variable {routing : Routing} {job dependent : WorkerJob}

theorem given_jobsFrom {previous : String} {personas : List (String × String)}
    (member : job ∈ routing.jobsFrom previous personas) :
    job.tenantId = routing.tenantId ∧ job.correlationId = orElse routing.correlationId routing.eventId ∧
      job.eventId = routing.eventId ∧ job.payload = routing.payload := by
  induction personas generalizing previous with
  | nil => cases member
  | cons entry rest ih =>
    rcases List.mem_cons.mp member with same | member
    · rw [same]
      exact ⟨rfl, rfl, rfl, rfl⟩
    · exact ih member

theorem dependsOn_of_jobs {personas : List (String × String)} (first : job ∈ routing.jobs personas)
    (later : dependent ∈ routing.jobs personas) (persona : dependent.dependsOnPersona = job.persona) :
    dependent.DependsOn job := by
  have ⟨tenant, correlation, event, payload⟩ := given_jobsFrom first
  have ⟨tenant', correlation', event', payload'⟩ := given_jobsFrom later
  exact ⟨persona, tenant'.trans tenant.symm, correlation'.trans correlation.symm, event'.trans event.symm,
    payload'.trans payload.symm⟩

end Routing

namespace RunWorkerJob

variable (deps : WorkerDeps) (job : WorkerJob) (key : String)

def RecordsUnder : Prop :=
  ∀ finding w, JsonDict.has finding "error" = false →
    (final (appendFinding deps job (.obj finding)) w).investigations.findings job.tenantId key =
      w.investigations.findings job.tenantId key ++
        [[("persona", .str job.persona), ("job_id", .str job.jobId), ("finding", .obj finding)]]

def RemembersUnder : Prop :=
  ∀ append finding w, ∀ p ∈ (final (remember { deps with appendPendingFinding := some append } job (.obj finding))
    w).pendingFindings, p ∈ w.pendingFindings ∨ p.investigationId = key

def MarksUnder : Prop :=
  ∀ w, job.persona ∈ (final (markPersonaTerminal deps job) w).completed job.tenantId key

def ReadsUnder : Prop :=
  ∀ query other w v, query job.tenantId key = other job.tenantId key →
    w.investigations.get job.tenantId key = v.investigations.get job.tenantId key →
    outcome (investigationContext { deps with queryInvestigation := some query } job) w =
      outcome (investigationContext { deps with queryInvestigation := some other } job) v

def ChecksUnder (dependent : WorkerJob) (key : String) : Prop :=
  ∀ w : World, w.DependencyReady dependent ↔
    dependent.dependsOnPersona = "" ∨ dependent.dependsOnPersona ∈ w.completed dependent.tenantId key

/-- All that the job's execution writes to an investigation and all that the job and those that depend on it
    read there is under this key. -/
structure OneKey : Prop where
  records : RecordsUnder deps job key
  remembers : RemembersUnder deps job key
  marks : MarksUnder deps job key
  reads : ReadsUnder deps job key
  dependents : ∀ dependent : WorkerJob, dependent.DependsOn job →
    ReadsUnder deps dependent key ∧ ChecksUnder dependent key

variable {deps job key}

theorem recordsUnder_iff (wired : deps.hasInvestigationStore = true) :
    RecordsUnder deps job key ↔ key = memoryInvestigationId deps job := by
  have appended : ∀ finding w, JsonDict.has finding "error" = false →
      (final (appendFinding deps job (.obj finding)) w).investigations =
        w.investigations.appendFinding job.tenantId (memoryInvestigationId deps job)
          [("persona", .str job.persona), ("job_id", .str job.jobId), ("finding", .obj finding)] := by
    intro finding w clean
    have stored : deps.hasInvestigationStore = true ∧ ¬JsonDict.has finding "error" = true :=
      ⟨wired, by rw [clean]; exact Bool.false_ne_true⟩
    rw [final, run_appendFinding, if_pos stored]
    rfl
  constructor
  · intro records
    by_contra other
    have grown := records [] {} rfl
    have apart : (job.tenantId, key) ≠ (job.tenantId, memoryInvestigationId deps job) :=
      fun same => other (Prod.mk.inj same).2
    rw [appended [] {} rfl, InMemoryInvestigationStateStore.findings_appendFinding_of_ne _ _ _ _ apart] at grown
    exact List.cons_ne_nil _ _ (List.self_eq_append_right.mp grown)
  · intro same finding w clean
    rw [same, appended finding w clean]
    exact InMemoryInvestigationStateStore.findings_appendFinding_self ..

theorem remembersUnder_self : RemembersUnder deps job (memoryInvestigationId deps job) := by
  intro append finding w p member
  unfold remember at member
  rw [final_bind, outcome_resultOf, final_resultOf] at member
  cases written : append _ with
  | error e =>
    rw [written] at member
    exact .inl member
  | ok stored =>
    rw [written] at member
    cases stored with
    | false => exact .inl member
    | true =>
      rcases List.mem_append.mp member with member | member
      · exact .inl member
      · rw [List.mem_singleton.mp member]
        exact .inr rfl

theorem marksUnder_iff (wired : deps.hasInvestigationStore = true) :
    MarksUnder deps job key ↔ key = job.investigationId := by
  have marked : ∀ w, job.persona ∈ (final (markPersonaTerminal deps job) w).completed job.tenantId key ↔
      job.persona ∈ w.completed job.tenantId key ∨ key = job.investigationId := by
    intro w
    rw [final, run_markPersonaTerminal, if_pos wired]
    refine (InMemoryInvestigationStateStore.mem_completed_markPersonaDone ..).trans (or_congr_right ?_)
    simp
  constructor
  · intro marks
    rcases (marked {}).mp (marks {}) with stored | same
    · cases stored
    · exact same
  · intro same w
    exact (marked w).mpr (.inr same)

variable (deps job) in
def told (state : Option InvestigationState) (entries : List MemoryEntry) : JsonDict :=
  [("investigation_id", .str (memoryInvestigationId deps job)), ("tenant_id", .str job.tenantId)] ++
    (state.map fun state => ("state", deps.dumpState state)).toList ++
    if entries.isEmpty then [] else [("prior_findings", .arr (entries.map priorFinding))]

variable (deps job) in
def storedState (w : World) : Option InvestigationState :=
  if deps.hasInvestigationStore then w.investigations.get job.tenantId (memoryInvestigationId deps job) else none

theorem outcome_investigationContext {query : String → String → Except PyExc (List MemoryEntry)}
    (asks : deps.queryInvestigation = some query) (w : World) :
    outcome (investigationContext deps job) w =
      (query job.tenantId (memoryInvestigationId deps job)).map (told deps job (storedState deps job w)) := by
  unfold investigationContext
  rw [asks]
  cases answer : query job.tenantId (memoryInvestigationId deps job) with
  | error e =>
    simp only [answer]
    rfl
  | ok entries =>
    simp only [answer]
    rfl

theorem readsUnder_iff : ReadsUnder deps job key ↔ key = memoryInvestigationId deps job := by
  have answers : ∀ query w, outcome (investigationContext { deps with queryInvestigation := some query } job) w =
      (query job.tenantId (memoryInvestigationId deps job)).map (told deps job (storedState deps job w)) :=
    fun _ w => outcome_investigationContext rfl w
  constructor
  · intro reads
    by_contra other
    have alike := reads (fun _ _ => .ok []) (fun _ id => if id = key then .ok [] else .error (.exception "")) {} {}
      (by rw [if_pos rfl]) rfl
    rw [answers, answers, if_neg (Ne.symm other)] at alike
    cases alike
  · intro same query other w v asked stored
    rw [same] at asked stored
    rw [answers, answers, asked, storedState, storedState, stored]

theorem checksUnder_self (dependent : WorkerJob) : ChecksUnder dependent dependent.investigationId :=
  fun _ => Iff.rfl

theorem oneKey_iff_same (wired : deps.hasInvestigationStore = true) :
    (∃ key, OneKey deps job key) ↔ memoryInvestigationId deps job = job.investigationId := by
  constructor
  · intro found
    obtain ⟨key, one⟩ := found
    have memory := (recordsUnder_iff wired).mp one.records
    have marks := (marksUnder_iff wired).mp one.marks
    exact memory.symm.trans marks
  · intro same
    refine ⟨job.investigationId, (recordsUnder_iff wired).mpr same.symm, same ▸ remembersUnder_self,
      (marksUnder_iff wired).mpr rfl, readsUnder_iff.mpr same.symm, ?_⟩
    intro dependent depends
    have marked : dependent.investigationId = job.investigationId := by
      rw [WorkerJob.investigationId, depends.correlationId, depends.eventId, WorkerJob.investigationId]
    have remembered : memoryInvestigationId deps dependent = memoryInvestigationId deps job := by
      rw [memoryInvestigationId, depends.payload, marked, memoryInvestigationId]
    rw [← marked]
    exact ⟨readsUnder_iff.mpr (marked.trans (same.symm.trans remembered.symm)), checksUnder_self dependent⟩

/-- A job's execution keeps to one key of its investigation exactly when the job has no parent's correlation key,
    or has the correlation id (the event id where that is empty) for one. -/
theorem oneKey_iff (deps : WorkerDeps) (job : WorkerJob) (wired : deps.hasInvestigationStore = true) :
    (∃ key, OneKey deps job key) ↔
      let parentKey := JsonDict.getD job.payload "parent_correlation_key" .null
      parentKey.truthy = true → deps.str parentKey = orElse job.correlationId job.eventId := by
  rw [oneKey_iff_same wired, memoryInvestigationId]
  dsimp only
  split
  · rename_i given
    exact ⟨fun same _ => same, fun same => same given⟩
  · rename_i absent
    exact ⟨fun _ given => absurd given absent, fun _ => rfl⟩

theorem oneKey_spawned_iff (wired : deps.hasInvestigationStore = true) (texts : ∀ text, deps.str (.str text) = text)
    (payload : SpawnWorkerPayload) (hex eventId : String) (named : payload.parentContext.contextId ≠ "") :
    (∃ key, OneKey deps (SubagentSpawnBroker.toWorkerJob payload hex eventId) key) ↔
      payload.parentContext.correlationKey = payload.parentContext.contextId := by
  have given : (Json.str payload.parentContext.correlationKey).truthy = true :=
    bne_iff_ne.mpr payload.parentContext.filled
  have parentKey : JsonDict.getD (SubagentSpawnBroker.toWorkerJob payload hex eventId).payload
      "parent_correlation_key" .null = .str payload.parentContext.correlationKey := rfl
  have marks : (SubagentSpawnBroker.toWorkerJob payload hex eventId).investigationId =
      payload.parentContext.contextId := if_neg named
  rw [oneKey_iff_same wired, marks, memoryInvestigationId, parentKey, if_pos given, texts]

def keyedDeps : WorkerDeps :=
  { sampleDeps { outcome := .ok (.obj [("verdict", .str "benign")]) } with
    str := fun
      | .str text => text
      | _ => "" }

def sessionTriage : SpawnWorkerPayload := .parse SubagentSpawnBroker.agentSession "soc" "triage" "" ""

def spawnedJob : WorkerJob := SubagentSpawnBroker.toWorkerJob sessionTriage "0123456789ab"

/-- The findings of a job that a session spawned are under "session:s1", its mark under "s1". -/
theorem spawned_job_under_two_keys :
    SubagentSpawnBroker.plainBroker.validate SubagentSpawnBroker.anyAgent sessionTriage
        (some .agent) = .ok none ∧
      ¬∃ key, OneKey keyedDeps spawnedJob key := by
  refine ⟨by decide +kernel, ?_⟩
  intro one
  have same := (oneKey_spawned_iff rfl (fun _ => rfl) _ _ _ (by decide)).mp one
  exact absurd same (by decide)

def routedChain : List WorkerJob :=
  Routing.jobs { eventId := "evt-1", sequential := true } [("soc", "ab"), ("network", "cd")]

def routedJob : WorkerJob := { jobId := "soc-evt-1-ab", eventId := "evt-1", persona := "soc", correlationId := "evt-1" }

def waitingJob : WorkerJob :=
  { routedJob with jobId := "network-evt-1-cd", persona := "network", dependsOnPersona := "soc" }

theorem routed_job_under_one_key : routedChain = [routedJob, waitingJob] ∧
    ∃ key, OneKey keyedDeps routedJob key ∧ ReadsUnder keyedDeps waitingJob key ∧ ChecksUnder waitingJob key := by
  have listed : routedChain = [routedJob, waitingJob] := rfl
  have first : routedJob ∈ routedChain := by
    rw [listed]
    exact List.mem_cons_self
  have later : waitingJob ∈ routedChain := by
    rw [listed]
    exact List.mem_cons_of_mem _ List.mem_cons_self
  obtain ⟨key, one⟩ := (oneKey_iff keyedDeps routedJob rfl).mpr fun given => absurd given (by decide)
  exact ⟨listed, key, one, one.dependents waitingJob (Routing.dependsOn_of_jobs first later rfl)⟩

end RunWorkerJob

end CysAgi
