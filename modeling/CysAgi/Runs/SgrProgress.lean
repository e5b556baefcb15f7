import CysAgi.Base.Text
import CysAgi.Runs.RunHistory

namespace CysAgi

open Py

/-- What `enrich_conductor_result` uses of Python: `str.lower`, `json.dumps`, `float` of a string, and whether a dict
    is a valid `ConductorStepResult`. -/
structure EnrichLibrary where
  lower : String → String
  dumps : Json → String
  parseFloat : String → Except PyExc Rat
  validates : JsonDict → Bool

namespace EnrichLibrary

variable (python : EnrichLibrary)

/-- `detect_output_schema` without a persona. -/
def detectOutputSchema (goal : String) : String :=
  let lower := python.lower goal
  if ["severity", "priority", "p0", "p1"].any (contains lower) then "finding"
  else if contains lower "timeline" then "timeline"
  else if contains lower "ioc" || contains lower "indicator" then "ioc_list"
  else if ["gaia", "answer", "question"].any (contains lower) then "gaia_answer"
  else "summary"

/-- `int(value)` of a float. -/
def truncate (value : Rat) : Int := value.num.tdiv value.den

def isObject : Json → Bool
  | .obj _ => true
  | _ => false

def mergeStructuredIntoResult (result structured : JsonDict) : JsonDict :=
  if isObject (JsonDict.getD result "structured_deliverable" .null) then result
  else
    let merged := JsonDict.set result "structured_deliverable" (.obj structured)
    let payload := JsonDict.getD structured "payload" .null
    if JsonDict.has merged "reply" && payload.truthy && !(JsonDict.getD merged "reply" .null).truthy then
      JsonDict.set merged "reply" (.str (python.dumps payload))
    else merged

def enrichConductorResult (result : JsonDict) (goal : String) : Except PyExc JsonDict :=
  if python.validates result then
    match JsonDict.getD result "reply" (.str "") with
    | .str summary =>
      if strip summary = "" then .ok result
      else do
        let confidence ← Json.toFloat (.exception "float() argument must be a string or a real number")
          python.parseFloat (JsonDict.getD result "confidence" (.float 0))
        return python.mergeStructuredIntoResult result
          [("schema_type", .str (python.detectOutputSchema goal)), ("confidence", .int (truncate (confidence * 100))),
            ("weaknesses", .arr []),
            ("payload", .obj [("summary", .str summary), ("plan_delta", JsonDict.getD result "plan_delta" (.obj []))])]
    | _ => .error (.exception "object has no attribute \x27strip\x27")
  else .ok result

end EnrichLibrary

def RunStepDeps.answerTo (deps : RunStepDeps) (event : RunEvent) (earlier : List RunEvent) : Option JsonDict :=
  match event, deps.arun event earlier with
  | .executed .., .ok result => some (RunStep.asDict result)
  | _, _ => none

/-- The results of the runtime since the first `known` events, newest first. -/
def RunStepDeps.answersSince (deps : RunStepDeps) (known : Nat) : List RunEvent → List JsonDict
  | [] => []
  | event :: earlier =>
    if earlier.length < known then [] else (deps.answerTo event earlier).toList ++ deps.answersSince known earlier

def plansOn (result : JsonDict) : Bool := (JsonDict.getD result "plan_status" .null).truthy

/-- Of the fields that `persist_sgr_fields_to_state` takes from results, newest first, the newest values stand in the
    stored result under the names that it gives them. -/
structure SgrKept (results : List JsonDict) (stored : JsonDict) : Prop where
  planStatus : ∀ result, results.find? plansOn = some result →
    JsonDict.get? stored "sgr_plan_status" = JsonDict.get? result "plan_status"
  enoughData : ∀ enough, results.findSome? (JsonDict.get? · "enough_data") = some enough →
    JsonDict.get? stored "sgr_enough_data" = some enough

def SgrSilent (results : List JsonDict) : Prop :=
  ∀ result ∈ results, plansOn result = false ∧ JsonDict.get? result "enough_data" = none

/-- The newest result has the fields already under the names of the stored ones; in plan mode, which stores the plan
    only, no result has them. -/
def CarriesItself (mode : InteractionMode) (results : List JsonDict) : Prop :=
  if mode = .plan then SgrSilent results else SgrKept results (results.headD [])

/-- The stored state of the run has the progress that the results of the step between the stores told. -/
def SgrStored (deps : RunStepDeps) (context : RunContext) (s t : RunStores) : Prop :=
  ∃ stored, t.states.get context.key = some stored ∧
    SgrKept (deps.answersSince s.history.length t.history) stored.lastResult

/-- What `_run_conductor` writes into a result. -/
def conductorKeys : List String :=
  ["structured_deliverable", "reply", "spawn_requests", "trace_critic", "trace_critic_escalation", "status"]

/-- Two results that are the same but for what `_run_conductor` writes. -/
def SameAnswer (result other : JsonDict) : Prop :=
  ∀ key, key ∉ conductorKeys → JsonDict.get? result key = JsonDict.get? other key

theorem get?_set_conductorKey {result : JsonDict} {key other : String} (own : key ∈ conductorKeys)
    (outside : other ∉ conductorKeys) (value : Json) :
    JsonDict.get? (JsonDict.set result key value) other = JsonDict.get? result other := by
  unfold JsonDict.get? JsonDict.set
  rw [Assoc.lookup_set, if_neg]
  rintro rfl
  exact outside own

theorem SameAnswer.set {result other : JsonDict} (same : SameAnswer result other) {key : String}
    (own : key ∈ conductorKeys) (value : Json) : SameAnswer (JsonDict.set result key value) other :=
  fun _ outside => (get?_set_conductorKey own outside value).trans (same _ outside)

theorem SameAnswer.symm {result other : JsonDict} (same : SameAnswer result other) : SameAnswer other result :=
  fun key outside => (same key outside).symm

theorem SameAnswer.sgrKept {result other : JsonDict} (same : SameAnswer result other) {results : List JsonDict}
    (kept : SgrKept results other) : SgrKept results result := by
  have status := same "sgr_plan_status" (by decide)
  have enough := same "sgr_enough_data" (by decide)
  constructor
  · intro newest found
    rw [status]
    exact kept.planStatus newest found
  · intro value found
    rw [enough]
    exact kept.enoughData value found

theorem SameAnswer.sgrKept_iff {result other : JsonDict} (same : SameAnswer result other) (results : List JsonDict) :
    SgrKept results result ↔ SgrKept results other := ⟨same.symm.sgrKept, same.sgrKept⟩

theorem EnrichLibrary.sameAnswer (python : EnrichLibrary) {result enriched : JsonDict} {goal : String}
    (done : python.enrichConductorResult result goal = .ok enriched) : SameAnswer enriched result := by
  unfold EnrichLibrary.enrichConductorResult at done
  split at done
  · split at done
    · split at done
      · cases done
        exact fun _ _ => rfl
      · obtain ⟨confidence, -, made⟩ := except_bind_ok.mp done
        cases made
        unfold EnrichLibrary.mergeStructuredIntoResult
        have same : SameAnswer result result := fun _ _ => rfl
        split
        · exact same
        · dsimp only
          split
          · exact (same.set (by decide) _).set (by decide) _
          · exact same.set (by decide) _
    · cases done
  · cases done
    exact fun _ _ => rfl

namespace RunStep

variable {deps : RunStepDeps} {context : RunContext}

theorem arun_eq_ok {persona sessionId prompt : String} {answer : Json} {s t : RunStores} {known : Nat}
    (ran : arun deps context persona sessionId prompt s = .ok answer t) (before : known ≤ s.history.length) :
    (deps.answersSince known t.history).headD [] = asDict answer ∧ known ≤ t.history.length := by
  have called := final_arun deps context persona sessionId prompt s
  unfold final at called
  rw [ran] at called
  dsimp only at called
  unfold arun at ran
  obtain ⟨read, s', got, ran⟩ := run_bind_ok.mp ran
  cases got
  obtain ⟨_, s'', recorded, ran⟩ := run_bind_ok.mp ran
  cases recorded
  obtain ⟨answered, -⟩ := resultOf_ok.mp ran
  have newest : t.history = .executed context persona sessionId prompt :: s.history := by rw [called]; rfl
  rw [newest]
  refine ⟨?_, Nat.le_succ_of_le before⟩
  unfold RunStepDeps.answersSince RunStepDeps.answerTo
  rw [if_neg (by omega), answered]
  rfl

theorem runConductor_eq_ok {python : EnrichLibrary} (real : deps.enrichConductorResult = python.enrichConductorResult)
    {persona sessionId : String} {reruns : Nat} {prompt : String} {state : RunState} {todos : List WorkTodo}
    {s t : RunStores} {known : Nat} {result : JsonDict} {later : RunState} (before : known ≤ s.history.length)
    (ran : runConductor deps context persona sessionId reruns prompt state todos s = .ok (result, later) t) :
    SameAnswer result ((deps.answersSince known t.history).headD []) ∧ known ≤ t.history.length := by
  induction reruns using Nat.strongRecOn generalizing prompt state todos s with
  | ind reruns again =>
    unfold runConductor at ran
    obtain ⟨answer, s₁, called, ran⟩ := run_bind_ok.mp ran
    obtain ⟨merged, s₂, read, ran⟩ := run_bind_ok.mp ran
    obtain ⟨-, rfl⟩ := resultOf_ok.mp read
    obtain ⟨_, s₃, replaced, ran⟩ := run_bind_ok.mp ran
    cases replaced
    obtain ⟨enriched, s₄, done, ran⟩ := run_bind_ok.mp ran
    obtain ⟨made, rfl⟩ := resultOf_ok.mp done
    rw [real] at made
    have same := (python.sameAnswer made).set (show "spawn_requests" ∈ conductorKeys by decide)
      (.arr (filterSpawnRequestsBySgr enriched))
    obtain ⟨last, after⟩ := arun_eq_ok called before
    rw [← last] at same
    dsimp only at ran
    split at ran
    · cases ran
      exact ⟨same, after⟩
    · obtain ⟨verdict, s₅, judged, ran⟩ := run_bind_ok.mp ran
      obtain ⟨-, rfl⟩ := resultOf_ok.mp judged
      split at ran
      · have critic := same.set (show "trace_critic" ∈ conductorKeys by decide) (.obj verdict.modelDump)
        cases reruns with
        | zero =>
          dsimp only at ran
          split at ran
          · cases ran
            exact ⟨(critic.set (by decide) _).set (by decide) _, after⟩
          · cases ran
            exact ⟨critic, after⟩
        | succ fewer =>
          obtain ⟨prompt, s₆, built, ran⟩ := run_bind_ok.mp ran
          obtain ⟨-, rfl⟩ := resultOf_ok.mp built
          have same := again fewer (Nat.lt_succ_self fewer) (by exact after) ran
          exact same
      · cases ran
        exact ⟨same, after⟩

theorem finish_stores {state : RunState} {s t : RunStores} {out : StepResult}
    (ran : finish context state s = .ok out t) (key : state.runContext.key = context.key) :
    t.states.get context.key = some state := by
  cases ran
  change (s.states.upsert state).get context.key = some state
  rw [RunStateStore.get_upsert, if_pos key.symm]

theorem answersSince_finish {state : RunState} {s t : RunStores} {known : Nat} {out : StepResult}
    (ran : finish context state s = .ok out t) (before : known ≤ s.history.length) :
    deps.answersSince known t.history = deps.answersSince known s.history := by
  cases ran
  change deps.answersSince known (.left _ _ :: s.history) = _
  rw [RunStepDeps.answersSince, if_neg (by omega)]
  rfl

theorem finishPlan_stores {state : RunState} {plan : WorkPlan} {s t : RunStores} {out : StepResult}
    (ran : finishPlan context state plan s = .ok out t) (key : state.runContext.key = context.key) :
    ∃ stored, t.states.get context.key = some stored ∧ stored.lastResult = [("plan", plan.modelDump)] := by
  unfold finishPlan at ran
  split at ran
  · have stored := finish_stores ran key
    exact ⟨_, stored, rfl⟩
  · obtain ⟨_, s', replaced, ran⟩ := run_bind_ok.mp ran
    cases replaced
    have stored := finish_stores ran key
    exact ⟨_, stored, rfl⟩

theorem plansOn_of_absent {result : JsonDict} (absent : JsonDict.get? result "plan_status" = none) :
    plansOn result = false := by
  simp [plansOn, JsonDict.getD, absent, Json.truthy]

theorem SgrSilent.kept {results : List JsonDict} (silent : SgrSilent results) (stored : JsonDict) :
    SgrKept results stored := by
  constructor
  · intro result found
    have := (silent result (List.mem_of_find?_eq_some found)).1
    rw [List.find?_some found] at this
    cases this
  · intro enough found
    obtain ⟨result, listed, had⟩ := List.exists_of_findSome?_eq_some found
    rw [(silent result listed).2] at had
    cases had

theorem sgrKept_plan_iff (results : List JsonDict) (plan : Json) :
    SgrKept results [("plan", plan)] ↔ SgrSilent results := by
  constructor
  · rintro ⟨planStatus, enoughData⟩ result listed
    constructor
    · cases found : results.find? plansOn with
      | none => simpa using List.find?_eq_none.mp found result listed
      | some newest =>
        have silent := plansOn_of_absent (planStatus newest found).symm
        rw [List.find?_some found] at silent
        cases silent
    · cases found : results.findSome? (JsonDict.get? · "enough_data") with
      | none => exact List.findSome?_eq_none_iff.mp found result listed
      | some enough => cases enoughData enough found
  · exact fun silent => SgrSilent.kept silent _

theorem execute_eq_ok (python : EnrichLibrary) (real : deps.enrichConductorResult = python.enrichConductorResult)
    {userInput persona : String} {s t : RunStores} {out : StepResult}
    (ran : execute deps context userInput persona s = .ok out t) :
    ∃ stored, t.states.get context.key = some stored ∧
      (SgrKept (deps.answersSince s.history.length t.history) stored.lastResult ↔
        CarriesItself context.effectiveMode (deps.answersSince s.history.length t.history)) := by
  unfold execute at ran
  obtain ⟨stores, s', got, ran⟩ := run_bind_ok.mp ran
  cases got
  obtain ⟨⟨state, todos, prompt⟩, s', ready, ran⟩ := run_bind_ok.mp ran
  obtain ⟨prepared, rfl⟩ := resultOf_ok.mp ready
  have key := prepare_runContext prepared
  have before := Nat.le_refl s.history.length
  unfold CarriesItself
  dsimp only at ran
  by_cases plan : context.effectiveMode = .plan
  · rw [if_pos plan] at ran
    obtain ⟨answer, s₁, called, ran⟩ := run_bind_ok.mp ran
    obtain ⟨parsed, s₂, read, ran⟩ := run_bind_ok.mp ran
    obtain ⟨-, rfl⟩ := resultOf_ok.mp read
    obtain ⟨stored, kept, planned⟩ := finishPlan_stores ran key
    refine ⟨stored, kept, ?_⟩
    rw [planned, if_pos plan]
    exact sgrKept_plan_iff _ _
  · rw [if_neg plan] at ran
    split at ran
    · obtain ⟨⟨result, later⟩, s₁, conducted, ran⟩ := run_bind_ok.mp ran
      obtain ⟨same, after⟩ := runConductor_eq_ok real before conducted
      have sameContext := runConductor_runContext conducted
      obtain ⟨summarized, s₂, summed, ran⟩ := run_bind_ok.mp ran
      obtain ⟨summary, rfl⟩ := resultOf_ok.mp summed
      obtain ⟨context', lastResult, -⟩ := maybeFailedSummary_kept summary
      have keyed : summarized.runContext.key = context.key := by rw [context', ← key, ← sameContext]
      refine ⟨summarized, finish_stores ran keyed, ?_⟩
      rw [lastResult, if_neg plan, answersSince_finish ran after]
      exact same.sgrKept_iff _
    · obtain ⟨answer, s₁, called, ran⟩ := run_bind_ok.mp ran
      obtain ⟨last, after⟩ := arun_eq_ok called before
      refine ⟨_, finish_stores ran key, ?_⟩
      rw [if_neg plan, answersSince_finish ran after, last]

theorem answersSince_enrich (deps : RunStepDeps) (enrich : JsonDict → String → Except PyExc JsonDict) (known : Nat)
    (history : List RunEvent) :
    RunStepDeps.answersSince { deps with enrichConductorResult := enrich } known history =
      deps.answersSince known history := by
  induction history with
  | nil => rfl
  | cons event earlier ih =>
    unfold RunStepDeps.answersSince
    rw [ih]
    rfl

/-- The fields that `persist_sgr_fields_to_state` writes into the last result are lost when `execute` overwrites it: the
    stored state has them just when the last answer of the runtime had them itself. -/
theorem sgrStored_iff (deps : RunStepDeps) (python : EnrichLibrary) {context : RunContext} {userInput persona : String}
    {s t : RunStores} {out : StepResult}
    (ran : execute { deps with enrichConductorResult := python.enrichConductorResult } context userInput persona s =
      .ok out t) :
    SgrStored deps context s t ↔
      CarriesItself context.effectiveMode (deps.answersSince s.history.length t.history) := by
  obtain ⟨stored, found, kept⟩ := execute_eq_ok python rfl ran
  rw [answersSince_enrich] at kept
  rw [← kept]
  constructor
  · rintro ⟨other, also, has⟩
    rw [Option.some.inj (found.symm.trans also)]
    exact has
  · exact fun has => ⟨stored, found, has⟩

def plainEnrich : EnrichLibrary where
  lower goal := goal
  dumps _ := "{}"
  parseFloat _ := .error (.exception "could not convert string to float")
  validates _ := false

def answering (answer : JsonDict) : RunStepDeps where
  arun _ _ := .ok (.obj answer)
  dumps _ := "{}"
  str _ := ""
  validatePlan _ := .ok { rationale := "steps" }
  validateTodo _ := .error (.exception "no todo")
  typeError _ := "object is not iterable"
  enrichConductorResult := plainEnrich.enrichConductorResult

def agentContext : RunContext := .fromSessionId "session-1" "default" (some .agent)

def progress : JsonDict := [("plan_status", .str "step 1 of 3 done"), ("enough_data", .bool false)]

def agentStep (answer : JsonDict) : RunStores :=
  final (execute (answering answer) agentContext "triage" "conductor") {}

def doubledProgress : JsonDict :=
  progress ++ [("sgr_plan_status", .str "step 1 of 3 done"), ("sgr_enough_data", .bool false)]

theorem sgrStored_reply :
    SgrStored (answering doubledProgress) agentContext {} (agentStep doubledProgress) := by
  have ran : ∃ out, execute (answering doubledProgress) agentContext "triage" "conductor" {} =
      .ok out (agentStep doubledProgress) := ⟨_, rfl⟩
  obtain ⟨out, ran⟩ := ran
  refine (sgrStored_iff (answering doubledProgress) plainEnrich ran).mpr ⟨?_, ?_⟩
  · intro newest found
    cases (found : some doubledProgress = some newest)
    rfl
  · intro enough found
    cases (found : some (Json.bool false) = some enough)
    rfl

theorem sgr_progress_lost :
    (∃ out, execute (answering progress) agentContext "triage" "conductor" {} = .ok out (agentStep progress)) ∧
      ¬ SgrStored (answering progress) agentContext {} (agentStep progress) := by
  refine ⟨⟨_, rfl⟩, ?_⟩
  rintro ⟨stored, found, kept⟩
  have planStatus := kept.planStatus progress rfl
  have lost : stored = _ := (Option.some.inj found).symm
  rw [lost] at planStatus
  cases planStatus

end RunStep

end CysAgi
