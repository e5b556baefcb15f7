import CysAgi.Workers.Execution

namespace CysAgi

open Py

namespace RunWorkerJob

/-- No collaborator of a worker raises a `BaseException`, as a task's cancellation does. -/
structure Uncancelled (deps : WorkerDeps) : Prop where
  arun : ∀ call e, (deps.arun call).outcome = .error e → e.caught
  registry : ∀ name e, deps.registry name = .error e → e.caught
  acreate : ∀ runId persona e, deps.acreate runId persona = .error e → e.caught
  sanitize : ∀ text e, deps.sanitize text = .error e → e.caught
  queryInvestigation : ∀ query, deps.queryInvestigation = some query →
    ∀ tenantId investigationId e, query tenantId investigationId = .error e → e.caught
  appendPendingFinding : ∀ append, deps.appendPendingFinding = some append →
    ∀ finding e, append finding = .error e → e.caught
  sendMessage : ∀ sender recipient payload e, deps.sendMessage sender recipient payload = .error e → e.caught
  receiveMessage : ∀ recipient envelope e, deps.receiveMessage recipient envelope = .error e → e.caught
  publish : ∀ channel envelope e, deps.publish channel envelope = .error e → e.caught
  validateSchema : ∀ schema result e, deps.validateSchema schema result = .error e → e.caught
  parseJsonText : ∀ text e, deps.parseJsonText text = .error e → e.caught

section

variable {deps : WorkerDeps} {job : WorkerJob} {prepared : Prepared}

theorem toolRegistry_raises (tools : ToolRegistry) (name : String) (e : PyExc) (raised : tools.get name = .error e) :
    e.caught := by
  unfold ToolRegistry.get at raised
  split at raised <;> cases raised
  rfl

theorem resolveTools_raises (creds : SandboxCredentials) (defn : AgentDefinition) :
    ∀ e, resolveTools deps job creds defn = .error e → e.caught := by
  have bound : ∀ {make : String → BoundTool} (name : String) (e : PyExc),
      (do return make (← deps.toolRegistry.get name) : Except PyExc BoundTool) = .error e → e.caught := by
    intro make name
    exact except_bind_raises (toolRegistry_raises deps.toolRegistry name) (fun _ _ returned => by cases returned)
  unfold resolveTools
  by_cases gateway : deps.useToolGateway = true
  · rw [if_pos gateway]
    refine except_bind_raises ?_ (fun _ _ returned => by cases returned)
    refine except_bind_raises ?_ (fun _ => mapM_raises bound _)
    intro e denied
    unfold requireSandbox at denied
    split at denied <;> cases denied
    rfl
  · rw [if_neg gateway]
    exact except_bind_raises (mapM_raises bound _) (fun _ _ returned => by cases returned)

theorem prepare_raises (calm : Uncancelled deps) (job : WorkerJob) (sessionId : String) :
    Raises (·.caught) (prepare deps job sessionId) := by
  have reading : ∀ job, Raises (·.caught) (jobInput deps job) :=
    jobInput_compositional (Raises.compositional (·.caught)) Raises.get fun query reader tenantId investigationId =>
      Raises.resultOf (calm.queryInvestigation query reader tenantId investigationId)
  exact prepare_compositional (Raises.compositional (·.caught)) (Raises.resultOf (calm.acreate _ _))
    (Raises.update _) reading (fun text => Raises.resultOf (calm.sanitize text)) (Raises.resultOf (calm.registry _))
    fun creds defn => Raises.resultOf (resolveTools_raises creds defn)

theorem awaitAgent_raises (calm : Uncancelled deps) (call : AgentCall) :
    Raises (·.caught) (awaitAgent (deps.arun call)) :=
  Raises.bind (Raises.update _) fun _ => Raises.resultOf (calm.arun call)

theorem schemas_raises (schemas : SchemaRegistry) (name : String) (e : PyExc)
    (raised : schemas.get name = .error e) : e.caught := by
  unfold SchemaRegistry.get at raised
  split at raised
  · cases raised
  · split at raised <;> cases raised
    rfl

theorem unwrapRawResponse_raises (calm : Uncancelled deps) (result : Json) (e : PyExc)
    (raised : unwrapRawResponse deps result = .error e) : e.caught := by
  cases result with
  | obj result =>
    simp only [unwrapRawResponse] at raised
    split at raised
    · refine except_bind_raises (calm.parseJsonText _) (fun parsed e returned => ?_) e raised
      cases parsed <;> cases returned
    · cases raised
  | _ => cases raised

theorem validated_raises (calm : Uncancelled deps) (schema : Option String) (result : Json) (e : PyExc)
    (raised : validated deps schema result = .error e) : e.caught := by
  cases result with
  | obj result =>
    simp only [validated] at raised
    split at raised
    · cases raised
    cases schema with
    | none => cases raised
    | some schema =>
      dsimp only at raised
      cases checked : deps.validateSchema schema (addSgrMetadata result) with
      | ok data =>
        rw [checked] at raised
        cases raised
      | error other =>
        have caught := calm.validateSchema _ _ _ checked
        rw [checked] at raised
        cases other with
        | securityViolation message =>
          dsimp only at raised
          split at raised <;> cases raised
          rfl
        | _ =>
          cases raised
          exact caught
  | _ => cases raised

theorem findingOf_raises (calm : Uncancelled deps) (job : WorkerJob) (prepared : Prepared) (result : Json) :
    Raises (·.caught) (findingOf deps job prepared result) :=
  findingOf_compositional (Raises.compositional (·.caught)) (awaitAgent_raises calm)
    (fun result => Raises.resultOf (unwrapRawResponse_raises calm result))
    (fun name => Raises.resultOf (schemas_raises deps.schemas name))
    (fun schema result => Raises.resultOf (validated_raises calm schema result)) result

theorem publishTo_raises (calm : Uncancelled deps) (job : WorkerJob) (payload : JsonDict) (recipient : String)
    (e : PyExc) (raised : publishTo deps job payload recipient = .error e) : e.caught := by
  refine except_bind_raises (calm.sendMessage _ _ _) (fun envelope e failed => ?_) e raised
  refine except_bind_raises (calm.receiveMessage _ _) (fun _ e failed => ?_) e failed
  exact except_bind_raises (calm.publish _ _) (fun _ _ returned => by cases returned) e failed

theorem publishFinding_raises (calm : Uncancelled deps) (job : WorkerJob) (prepared : Prepared) (result : Json) :
    Raises (·.caught) (publishFinding deps job prepared result) :=
  publishFinding_compositional (Raises.compositional (·.caught))
    (fun payload recipient => Raises.resultOf (publishTo_raises calm job payload recipient))
    (fun _ => Raises.update _) result

theorem recordFinding_raises (calm : Uncancelled deps) (job : WorkerJob) (prepared : Prepared) (result : Json) :
    Raises (·.caught) (recordFinding deps job prepared result) := by
  have remembering : Raises (·.caught) (remember deps job result) :=
    remember_compositional (Raises.compositional (·.caught))
      (fun append writer finding => Raises.resultOf (calm.appendPendingFinding append writer finding))
      (fun _ => Raises.update _) result
  have appending : Raises (·.caught) (appendFinding deps job result) :=
    appendFinding_compositional (Raises.compositional (·.caught)) (fun _ _ _ => Raises.update _) result
  have ended : Raises (·.caught) (resultOf (succeeded job prepared result) : Effect RunResult) := by
    apply Raises.resultOf
    intro e failed
    cases result <;> cases failed <;> rfl
  exact recordFinding_compositional (Raises.compositional (·.caught)) remembering appending (Raises.update _)
    (Raises.update _) ended

theorem body_raises (calm : Uncancelled deps) (job : WorkerJob) (sessionId : String) :
    Raises (·.caught) (body deps job sessionId) := by
  apply Raises.bind (prepare_raises calm job sessionId)
  intro prepared
  apply Raises.bind (awaitAgent_raises calm prepared.call)
  intro result
  apply Raises.bind (findingOf_raises calm job prepared result)
  intro finding
  apply Raises.bind (publishFinding_raises calm job prepared finding)
  intro _
  exact recordFinding_raises calm job prepared finding

def Marked (job : WorkerJob) (w : World) : Prop := job.persona ∈ w.completed job.tenantId job.investigationId

theorem marked_failedWorld (wired : deps.hasInvestigationStore = true) (job : WorkerJob) (w : World) :
    Marked job (failedWorld deps job w) := by
  unfold failedWorld
  rw [if_pos wired]
  exact World.completed_markPersonaDone_self (w.markFailed job.jobId) job

theorem onFailure_marks (wired : deps.hasInvestigationStore = true) (job : WorkerJob) {e : PyExc} (caught : e.caught)
    (w : World) : Marked job (final (onFailure deps job e) w) := by
  have expected : ∀ e v, Marked job (final (onExpected deps job e) v) := by
    intro e v
    unfold onExpected
    rw [final, run_bind, run_markFailed]
    exact marked_failedWorld wired job v
  have unexpected : ∀ e v, Marked job (final (onUnexpected deps job e) v) := by
    intro e v
    have sending : Preserves (Marked job) (sendToDlq deps job e >>= fun _ => pure (failed job e)) := by
      refine Preserves.bind ?_ fun _ => Preserves.pure _
      unfold sendToDlq
      cases deps.sendToDlq with
      | none => exact Preserves.pure _
      | some send => exact Preserves.bind (Preserves.resultOf _) fun _ => Preserves.update fun w held => held
    have marked := marked_failedWorld wired job (v.recordAgentFailure job.persona)
    unfold onUnexpected
    rw [final, run_bind, run_modify]
    dsimp only
    rw [run_bind, run_markFailed]
    exact sending _ marked
  cases e with
  | baseException message => cases caught
  | jobBudgetExceeded message => exact expected _ w
  | securityViolation message => exact expected _ w
  | _ => exact unexpected _ w

theorem body_marks (wired : deps.hasInvestigationStore = true) {sessionId : String} {w t : World} {run : RunResult}
    (done : body deps job sessionId w = .ok run t) : Marked job t := by
  obtain ⟨prepared, u, -, rest⟩ := run_bind_ok.mp done
  obtain ⟨result, v, -, finished⟩ := run_bind_ok.mp rest
  obtain ⟨finding, before, -, -, -, -, -, investigated⟩ := finish_ok finished
  unfold Marked World.completed
  rw [investigated]
  exact completed_recorded wired finding before.investigations

theorem settle_marks (wired : deps.hasInvestigationStore = true) (job : WorkerJob) {part : Effect RunResult}
    {w : World} (returns : ∀ run t, part w = .ok run t → Marked job t) (raises : ∀ e t, part w = .error e t → e.caught) :
    Marked job (final (settle deps job part) w) := by
  have destroying : Preserves (Marked job) (destroySandbox deps job) :=
    Preserves.bind (Preserves.resultOf _) fun _ => Preserves.update fun w held => held
  unfold settle
  rw [final_ensuring]
  apply destroying
  rw [final, run_tryCatch]
  cases ran : part w with
  | ok run t => exact returns run t ran
  | error e t => exact onFailure_marks wired job (raises e t ran) t

theorem execute_marks (calm : Uncancelled deps) (wired : deps.hasInvestigationStore = true) (job : WorkerJob)
    (sessionId : String) (w : World) : Marked job (final (execute deps job sessionId) w) := by
  apply settle_marks wired job
  · intro run t returned
    exact body_marks wired returned
  · intro e t raised
    apply body_raises calm job sessionId w e
    rw [outcome, raised]

end

end RunWorkerJob

end CysAgi
