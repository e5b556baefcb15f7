import CysAgi.Base.Transition
import CysAgi.Runs.RunHistory

namespace CysAgi

open Py RunHistory

inductive RunAction where
  | create (context : RunContext) (userInput persona : String)
  | step (runId message tenantId : String) (mode : Option InteractionMode) (persona : String)
  | approve (runId : String) (approval : PlanApproval) (tenantId : String)

namespace RunAction

variable (deps : RunStepDeps)

def call : RunAction → RunEffect StepResult
  | .create context userInput persona => ManageRun.createAndStep deps context userInput persona
  | .step runId message tenantId mode persona => ManageRun.step deps runId message tenantId mode persona
  | .approve runId approval tenantId => ManageRun.approvePlan deps runId approval tenantId

/-- Every call is taken; one that raises leaves what it had done. -/
def next (s : RunStores) (action : RunAction) : Option RunStores := some (final (action.call deps) s)

def stepContext (context : RunContext) (mode : Option InteractionMode) : RunContext :=
  match mode with
  | some mode => context.withMode (some mode)
  | none => context

def stepStores (s : RunStores) (context : RunContext) (mode : Option InteractionMode) : RunStores :=
  match mode with
  | some mode => s.upsert (ManageRun.saved s (context.withMode (some mode)) "")
  | none => s

def approvedStores (s : RunStores) (context : RunContext) (approval : PlanApproval) : RunStores :=
  let recorded := s.record (.decided context.key approval.decision)
  let agent := context.withMode (some .agent)
  ManageRun.takePlan agent approval (recorded.upsert (ManageRun.saved recorded agent ""))

variable {deps} {s : RunStores}

theorem history_takePlan (context : RunContext) (approval : PlanApproval) (s : RunStores) :
    (ManageRun.takePlan context approval s).history = s.history := by
  unfold ManageRun.takePlan
  cases s.states.get context.key with
  | none => rfl
  | some state =>
    dsimp only
    split <;> rfl

theorem final_getContext {α : Type} (tenantId runId : String) (rest : RunContext → RunEffect α) (s : RunStores) :
    final (ManageRun.getContext tenantId runId >>= rest) s =
      match ManageRun.contextOf s tenantId runId with
      | none => s
      | some context => final (rest context) s := by
  unfold ManageRun.getContext
  rw [final_bind, outcome_bind, final_bind]
  simp only [outcome, final, run_get]
  cases ManageRun.contextOf s tenantId runId with
  | none => rfl
  | some context => rfl

theorem final_createAndStep (context : RunContext) (userInput persona : String) (s : RunStores) :
    final (ManageRun.createAndStep deps context userInput persona) s =
      final (RunStep.execute deps context userInput persona) (s.upsert (ManageRun.saved s context userInput)) := by
  unfold ManageRun.createAndStep
  rw [final_bind]
  rfl

theorem final_step (runId message tenantId : String) (mode : Option InteractionMode) (persona : String)
    (s : RunStores) :
    final (ManageRun.step deps runId message tenantId mode persona) s =
      match ManageRun.contextOf s tenantId runId with
      | none => s
      | some context =>
        final (RunStep.execute deps (stepContext context mode) message persona) (stepStores s context mode) := by
  unfold ManageRun.step
  rw [final_getContext]
  cases ManageRun.contextOf s tenantId runId with
  | none => rfl
  | some context =>
    cases mode with
    | none => rfl
    | some mode =>
      dsimp only
      rw [final_bind]
      rfl

theorem final_approvePlan (runId : String) (approval : PlanApproval) (tenantId : String) (s : RunStores) :
    final (ManageRun.approvePlan deps runId approval tenantId) s =
      match ManageRun.contextOf s tenantId runId with
      | none => s
      | some context =>
        if approval.decision = .reject then
          (s.record (.decided context.key approval.decision)).upsert { runContext := context, status := .closed }
        else
          final (RunStep.execute deps (context.withMode (some .agent)) "execute approved plan" "conductor")
            (approvedStores s context approval) := by
  unfold ManageRun.approvePlan
  rw [final_getContext]
  cases ManageRun.contextOf s tenantId runId with
  | none => rfl
  | some context =>
    dsimp only
    rw [final_bind]
    simp only [outcome, run_modify]
    by_cases rejected : approval.decision = .reject
    · rw [if_pos rejected, if_pos rejected]
      rfl
    · rw [if_neg rejected, if_neg rejected, final_bind]
      change final (_ >>= _) _ = _
      rw [final_bind]
      rfl

end RunAction

namespace RunHistory

/-- How far the calls on a run have got: no plan is open, a step in plan mode was asked for, a plan was rejected. -/
inductive Phase where
  | free
  | planned
  | closed
  deriving DecidableEq

/-- The phases know of every rejection and of every plan that may await approval. -/
def Covers (phase : RunKey → Phase) (history : List RunEvent) : Prop :=
  ∀ key, (Rejected history key → phase key = .closed) ∧ (Awaits key history → phase key ≠ .free)

def asked (phase : RunKey → Phase) (context : RunContext) : RunKey → Phase :=
  if context.effectiveMode = .plan then Function.update phase context.key .planned else phase

def decided (phase : RunKey → Phase) (key : RunKey) (decision : PlanDecision) : RunKey → Phase :=
  Function.update phase key (if decision = .reject then .closed else .free)

variable {phase : RunKey → Phase} {history : List RunEvent}

theorem Covers.allowed (covers : Covers phase history) {context : RunContext} (running : phase context.key ≠ .closed)
    (careful : phase context.key = .planned → context.effectiveMode ≠ .agent) : Allowed history context := by
  constructor
  · intro rejected
    exact running ((covers context.key).1 rejected)
  · intro awaits
    have busy := (covers context.key).2 awaits
    cases known : phase context.key with
    | free => exact absurd known busy
    | planned => exact careful known
    | closed => exact absurd known running

theorem Covers.asked (covers : Covers phase history) {context : RunContext} (running : phase context.key ≠ .closed) :
    Covers (asked phase context) history := by
  unfold RunHistory.asked
  split
  · intro key
    by_cases same : key = context.key
    · rw [same, Function.update_self]
      exact ⟨fun rejected => absurd ((covers context.key).1 rejected) running, fun _ => by decide⟩
    · rw [Function.update_of_ne same]
      exact covers key
  · exact covers

theorem Covers.executions (covers : Covers phase history) {context : RunContext} {log : List RunEvent}
    (executions : Executions context log) : Covers phase (log ++ history) := by
  intro key
  obtain ⟨rejected, awaits⟩ := executions_quiet executions history key
  rw [rejected, awaits]
  exact covers key

theorem Covers.left (covers : Covers phase history) {key : RunKey} {status : RunStatus}
    (planned : status = .awaitingPlanApproval → phase key ≠ .free) : Covers phase (.left key status :: history) := by
  intro other
  refine ⟨fun rejected => (covers other).1 (by simpa [Rejected] using rejected), ?_⟩
  rintro (⟨rfl, awaits⟩ | before)
  · exact planned awaits
  · exact (covers other).2 before

theorem Covers.decided (covers : Covers phase history) {key : RunKey} {decision : PlanDecision}
    (running : decision ≠ .reject → phase key ≠ .closed) :
    Covers (decided phase key decision) (.decided key decision :: history) := by
  unfold RunHistory.decided
  intro other
  by_cases same : other = key
  · rw [same, Function.update_self]
    by_cases rejects : decision = .reject
    · rw [if_pos rejects]
      exact ⟨fun _ => rfl, fun _ => by decide⟩
    · rw [if_neg rejects]
      constructor
      · intro rejected
        have before : Rejected history key := by simpa [Rejected, Ne.symm rejects] using rejected
        exact absurd ((covers key).1 before) (running rejects)
      · intro awaits
        exact absurd ⟨rfl, rejects⟩ awaits.1
  · rw [Function.update_of_ne same]
    refine ⟨fun rejected => (covers other).1 (by simpa [Rejected, same] using rejected), ?_⟩
    exact fun awaits => (covers other).2 awaits.2

theorem execute_kept (deps : RunStepDeps) {s : RunStores} {context : RunContext} (sound : Sound s.history)
    (covers : Covers phase s.history) (running : phase context.key ≠ .closed)
    (careful : phase context.key = .planned → context.effectiveMode ≠ .agent) (userInput persona : String) :
    Sound (final (RunStep.execute deps context userInput persona) s).history ∧
      Covers (asked phase context) (final (RunStep.execute deps context userInput persona) s).history := by
  obtain ⟨calls, executions, -, leaves⟩ := RunStep.execute_spec deps context userInput persona s
  have called : Sound (calls ++ s.history) := sound_executions executions sound (covers.allowed running careful)
  have covered : Covers (asked phase context) (calls ++ s.history) := (covers.asked running).executions executions
  rcases leaves with ⟨history, -⟩ | ⟨state, left, history, -⟩
  · rw [history]
    exact ⟨called, covered⟩
  · rw [history]
    refine ⟨called, covered.left fun awaits => ?_⟩
    rw [asked, if_pos (left.planned awaits), left.key, Function.update_self]
    decide

end RunHistory

namespace RunAction

open RunHistory

variable (deps : RunStepDeps)

def Careful (phase : RunKey → Phase) (context : RunContext) : Prop :=
  phase context.key ≠ .closed ∧ (phase context.key = .planned → context.effectiveMode ≠ .agent)

/-- No call but a rejection is made for a run whose plan was rejected, and none in agent mode for one with a plan that is
    open, unless it approves or edits the plan. -/
def Admitted (known : (RunKey → Phase) × RunStores) : RunAction → Prop
  | .create context _ _ => Careful known.1 context
  | .step runId _ tenantId mode _ =>
    ∀ context ∈ ManageRun.contextOf known.2 tenantId runId, Careful known.1 (stepContext context mode)
  | .approve runId approval tenantId =>
    approval.decision ≠ .reject → ∀ context ∈ ManageRun.contextOf known.2 tenantId runId, known.1 context.key ≠ .closed

def advance (known : (RunKey → Phase) × RunStores) : RunAction → RunKey → Phase
  | .create context _ _ => asked known.1 context
  | .step runId _ tenantId mode _ =>
    match ManageRun.contextOf known.2 tenantId runId with
    | none => known.1
    | some context => asked known.1 (stepContext context mode)
  | .approve runId approval tenantId =>
    match ManageRun.contextOf known.2 tenantId runId with
    | none => known.1
    | some context => decided known.1 context.key approval.decision

/-- The stores, and the phases of their runs by the calls alone. -/
def nextPhased (known : (RunKey → Phase) × RunStores) (action : RunAction) : Option ((RunKey → Phase) × RunStores) :=
  (next deps known.2 action).map fun t => (advance known action, t)

def forget : Transition.Embedding (nextPhased deps) (next deps) where
  state := Prod.snd
  action := id
  Inv _ := True
  invariant _ _ _ _ _ := trivial
  commutes _ _ _ := rfl

instance (phase : RunKey → Phase) (context : RunContext) : Decidable (Careful phase context) :=
  inferInstanceAs (Decidable (_ ∧ _))

instance (known : (RunKey → Phase) × RunStores) : (action : RunAction) → Decidable (Admitted known action)
  | .create context _ _ => inferInstanceAs (Decidable (Careful known.1 context))
  | .step runId _ tenantId mode _ =>
    inferInstanceAs (Decidable
      (∀ context ∈ ManageRun.contextOf known.2 tenantId runId, Careful known.1 (stepContext context mode)))
  | .approve runId approval tenantId =>
    inferInstanceAs (Decidable (approval.decision ≠ .reject →
      ∀ context ∈ ManageRun.contextOf known.2 tenantId runId, known.1 context.key ≠ .closed))

variable {deps} {known : (RunKey → Phase) × RunStores} (sound : Sound known.2.history)
  (covers : Covers known.1 known.2.history)

include sound covers

theorem kept_step {runId message tenantId persona : String} {mode : Option InteractionMode}
    (admitted : Admitted known (.step runId message tenantId mode persona)) :
    Sound (final (ManageRun.step deps runId message tenantId mode persona) known.2).history ∧
      Covers (advance known (.step runId message tenantId mode persona))
        (final (ManageRun.step deps runId message tenantId mode persona) known.2).history := by
  simp only [Admitted] at admitted
  simp only [advance]
  rw [final_step]
  cases found : ManageRun.contextOf known.2 tenantId runId with
  | none => exact ⟨sound, covers⟩
  | some context =>
    rw [found] at admitted
    obtain ⟨running, careful⟩ := admitted context rfl
    have same : (stepStores known.2 context mode).history = known.2.history := by cases mode <;> rfl
    rw [← same] at sound covers
    exact execute_kept deps sound covers running careful message persona

theorem kept_approve {runId tenantId : String} {approval : PlanApproval}
    (admitted : Admitted known (.approve runId approval tenantId)) :
    Sound (final (ManageRun.approvePlan deps runId approval tenantId) known.2).history ∧
      Covers (advance known (.approve runId approval tenantId))
        (final (ManageRun.approvePlan deps runId approval tenantId) known.2).history := by
  simp only [Admitted] at admitted
  simp only [advance]
  rw [final_approvePlan]
  cases found : ManageRun.contextOf known.2 tenantId runId with
  | none => exact ⟨sound, covers⟩
  | some context =>
    rw [found] at admitted
    dsimp only
    by_cases rejected : approval.decision = .reject
    · rw [if_pos rejected]
      exact ⟨sound, covers.decided fun accepted => absurd rejected accepted⟩
    · rw [if_neg rejected]
      have running : known.1 context.key ≠ .closed := admitted rejected context rfl
      have same : (approvedStores known.2 context approval).history =
          .decided context.key approval.decision :: known.2.history := history_takePlan _ _ _
      have settled : Covers (decided known.1 context.key approval.decision)
          (.decided context.key approval.decision :: known.2.history) := covers.decided fun _ => running
      have sound' : Sound (approvedStores known.2 context approval).history := by
        rw [same]
        exact sound
      rw [← same] at settled
      have free : decided known.1 context.key approval.decision context.key = .free := by
        rw [decided, Function.update_self, if_neg rejected]
      have agent : asked (decided known.1 context.key approval.decision) (context.withMode (some .agent)) =
          decided known.1 context.key approval.decision := if_neg (show InteractionMode.agent ≠ .plan by decide)
      have open' : decided known.1 context.key approval.decision (context.withMode (some .agent)).key = .free := free
      have kept := execute_kept deps sound' settled (by rw [open']; decide) (by rw [open']; nofun)
        "execute approved plan" "conductor"
      rw [agent] at kept
      exact kept

theorem kept_next {t : RunStores} {action : RunAction} (admitted : Admitted known action)
    (taken : next deps known.2 action = some t) : Sound t.history ∧ Covers (advance known action) t.history := by
  cases taken
  cases action with
  | create context userInput persona =>
    obtain ⟨running, careful⟩ := admitted
    change Sound (final (ManageRun.createAndStep deps context userInput persona) known.2).history ∧ Covers _
      (final (ManageRun.createAndStep deps context userInput persona) known.2).history
    rw [final_createAndStep]
    exact execute_kept deps (s := known.2.upsert _) sound covers running careful userInput persona
  | step runId message tenantId mode persona => exact kept_step sound covers admitted
  | approve runId approval tenantId => exact kept_approve sound covers admitted

omit sound covers in
/-- Where the calls keep to the phases of their runs, no plan is executed before it is approved and no rejected run is
    executed again. -/
theorem sound_of_admitted {phase : RunKey → Phase} {s : RunStores} {actions : List RunAction} (start : Sound s.history)
    (covers : Covers phase s.history)
    (admitted : Transition.Guarded (nextPhased deps) Admitted (phase, s) actions) :
    Transition.Always (next deps) (fun t => Sound t.history) s actions := by
  have always : Transition.Always (nextPhased deps) (fun known => Sound known.2.history) (phase, s) actions := by
    apply Transition.always_of_guarded (fun known => Sound known.2.history ∧ Covers known.1 known.2.history) _ _
      ⟨start, covers⟩ admitted
    · exact fun _ kept => kept.1
    · intro known action later kept admitted taken
      obtain ⟨t, went, rfl⟩ := Option.map_eq_some_iff.mp taken
      exact kept_next kept.1 kept.2 admitted went
  have same : Transition.Always (next deps) (fun t => Sound t.history) s (actions.map (forget deps).action) ↔
      Transition.Always (nextPhased deps) (fun known => Sound known.2.history) (phase, s) actions :=
    (forget deps).always_map (P := fun known => Sound known.2.history) (s := (phase, s)) (fun _ _ => Iff.rfl) trivial
      actions
  rw [show actions.map (forget deps).action = actions from List.map_id actions] at same
  exact same.mpr always

end RunAction

namespace RunHistory

def Backed (history : List RunEvent) (key : RunKey) (status : RunStatus) : Prop :=
  (status = .awaitingPlanApproval → .left key .awaitingPlanApproval ∈ history) ∧
    (status = .closed → Rejected history key)

def Recorded (s : RunStores) : Prop :=
  ∀ key state, s.states.get key = some state → Backed s.history key state.status

variable {s t : RunStores}

theorem Backed.mono {history later : List RunEvent} {key : RunKey} {status : RunStatus}
    (backed : Backed history key status) (grown : history ⊆ later) : Backed later key status :=
  ⟨fun awaiting => grown (backed.1 awaiting), fun closed => grown (backed.2 closed)⟩

theorem Recorded.grow (recorded : Recorded s) (history : s.history ⊆ t.history)
    (stored : ∀ key state, t.states.get key = some state →
      s.states.get key = some state ∨ Backed t.history key state.status) : Recorded t := by
  intro key state found
  rcases stored key state found with kept | backed
  · exact (recorded key state kept).mono history
  · exact backed

theorem Recorded.upsert (recorded : Recorded s) {state : RunState}
    (backed : Backed s.history state.runContext.key state.status) : Recorded (s.upsert state) := by
  refine recorded.grow (fun _ => id) fun key other found => ?_
  change (s.states.upsert state).get key = some other at found
  rw [RunStateStore.get_upsert] at found
  split at found
  · rename_i same
    cases found
    rw [same]
    exact .inr backed
  · exact .inl found

theorem Recorded.saved (recorded : Recorded s) (context : RunContext) (goal : String) :
    Recorded (s.upsert (ManageRun.saved s context goal)) := by
  apply recorded.upsert
  unfold ManageRun.saved
  cases found : s.states.get context.key with
  | none => simp [Backed]
  | some state => exact recorded context.key state found

theorem Recorded.takePlan (recorded : Recorded s) (context : RunContext) (approval : PlanApproval) :
    Recorded (ManageRun.takePlan context approval s) := by
  unfold ManageRun.takePlan
  cases found : s.states.get context.key with
  | none => exact recorded
  | some state =>
    have backed : Backed s.history state.runContext.key state.status := by
      rw [RunStateStore.key_of_get found]
      exact recorded context.key state found
    dsimp only
    split
    · exact Recorded.upsert (s := s.replaceTodos context _) recorded backed
    · exact recorded.upsert backed

theorem Recorded.leaves (recorded : Recorded s) {calls : List RunEvent} {context : RunContext}
    (leaves : LeavesAfter context calls s t) :
    Recorded t := by
  rcases leaves with ⟨history, states⟩ | ⟨state, left, history, states⟩
  · refine recorded.grow (by simp [history]) fun key other found => .inl ?_
    rwa [states] at found
  · have before : s.history ⊆ t.history := by
      rw [history]
      exact fun event member => List.mem_cons_of_mem _ (List.mem_append_right _ member)
    refine recorded.grow before fun key other found => ?_
    rw [states, RunStateStore.get_upsert] at found
    split at found
    · rename_i same
      cases found
      refine .inr ⟨fun awaiting => ?_, fun closed => absurd closed left.unclosed⟩
      rw [history, same, awaiting]
      exact List.mem_cons_self ..
    · exact .inl found

theorem Recorded.execute (recorded : Recorded s) (deps : RunStepDeps) (context : RunContext)
    (userInput persona : String) : Recorded (final (RunStep.execute deps context userInput persona) s) := by
  obtain ⟨calls, -, -, leaves⟩ := RunStep.execute_spec deps context userInput persona s
  exact recorded.leaves leaves

theorem Recorded.record (recorded : Recorded s) (event : RunEvent) : Recorded (s.record event) :=
  recorded.grow (fun _ => List.mem_cons_of_mem _) fun _ _ => .inl

end RunHistory

namespace RunAction

variable {deps : RunStepDeps} {s t : RunStores}

theorem recorded_next {action : RunAction} (recorded : Recorded s) (taken : next deps s action = some t) :
    Recorded t := by
  cases taken
  cases action with
  | create context userInput persona =>
    change Recorded (final (ManageRun.createAndStep deps context userInput persona) s)
    rw [final_createAndStep]
    exact (recorded.saved context userInput).execute deps context userInput persona
  | step runId message tenantId mode persona =>
    change Recorded (final (ManageRun.step deps runId message tenantId mode persona) s)
    rw [final_step]
    cases ManageRun.contextOf s tenantId runId with
    | none => exact recorded
    | some context =>
      have before : Recorded (stepStores s context mode) := by
        cases mode with
        | none => exact recorded
        | some mode => exact recorded.saved _ ""
      exact before.execute deps _ message persona
  | approve runId approval tenantId =>
    change Recorded (final (ManageRun.approvePlan deps runId approval tenantId) s)
    rw [final_approvePlan]
    cases ManageRun.contextOf s tenantId runId with
    | none => exact recorded
    | some context =>
      have decided := recorded.record (.decided context.key approval.decision)
      dsimp only
      split
      · rename_i rejected
        refine decided.upsert ⟨fun awaiting => (by cases awaiting), fun _ => ?_⟩
        rw [rejected]
        exact List.mem_cons_self ..
      · exact ((decided.saved _ "").takePlan _ approval).execute deps _ _ _

theorem recorded_run {actions : List RunAction} (reached : Transition.run (next deps) {} actions = some t) :
    Recorded t := by
  refine Transition.invariant_run (fun s action t recorded taken => recorded_next recorded taken) ?_ reached
  intro key state found
  cases found

def planningDeps : RunStepDeps where
  arun _ _ := .ok (.obj [("plan", .obj [("rationale", .str "steps")])])
  dumps _ := "{}"
  str _ := ""
  validatePlan _ := .ok { rationale := "steps" }
  validateTodo _ := .error (.exception "no todo")
  typeError _ := "object is not iterable"

def planTask : RunAction := .create (.fromSessionId "session-1" "default" (some .plan)) "plan task" "conductor"

theorem always_next_iff {deps : RunStepDeps} {P : RunStores → Prop} {s : RunStores} {actions : List RunAction} :
    Transition.Always (next deps) P s actions ↔
      match actions with
      | [] => P s
      | action :: rest => P s ∧ Transition.Always (next deps) P (final (action.call deps) s) rest := by
  cases actions <;> simp [Transition.Always, next]

theorem sound_of_admitted_approved :
    Transition.Always (next planningDeps) (fun t => Sound t.history) {}
      [planTask, .approve "session-1" { decision := .approve } "default",
        .step "session-1" "go on" "default" (some .agent) "conductor",
        .step "session-1" "plan again" "default" (some .plan) "conductor",
        .step "session-1" "explain" "default" (some .ask) "conductor",
        .approve "session-1" { decision := .reject } "default"] := by
  have start : Sound (RunStores.history {}) := trivial
  have covers : Covers (fun _ => .free) (RunStores.history {}) := fun key => ⟨nofun, nofun⟩
  exact sound_of_admitted start covers (by decide +kernel)

/-- A step in agent mode executes the plan that awaits approval, and a rejected run steps on. -/
theorem unapproved_plan_executed :
    ¬ Transition.Always (next planningDeps) (fun t => Sound t.history) {}
        [planTask, .step "session-1" "go on" "default" (some .agent) "conductor"] ∧
      ¬ Transition.Always (next planningDeps) (fun t => Sound t.history) {}
        [planTask, .approve "session-1" { decision := .reject } "default",
          .step "session-1" "go on" "default" none "conductor"] := by
  simp only [always_next_iff]
  decide +kernel

end RunAction

end CysAgi
