import CysAgi.Base.Transition
import CysAgi.Runtime.SgrPolicy
import CysAgi.Runtime.ToolStack

namespace CysAgi

open Py

inductive SgrStage where
  | gated
  | running
  deriving DecidableEq

inductive SgrEvent where
  | modelCalled
  | started (call : ToolCall)
  | refused (call : ToolCall) (content : String)
  | reasoned (call : ToolCall)

/-- The session that both middlewares share, the calls that wait, and what has happened, newest first. -/
structure SgrTurns where
  turn : TurnState := {}
  inFlight : List (ToolCall × SgrStage) := []
  history : List SgrEvent := []

inductive SgrStep where
  | model
  | call (call : ToolCall)
  | proceed (index : Nat)
  | returns (index : Nat)
  /-- The call raises, or is cancelled where it waits. -/
  | raises (index : Nat)

def TurnState.resetTurn (turn : TurnState) : TurnState := { turn with reasoningDone := false, actionTools := 0 }

def TurnState.markReasoning (turn : TurnState) : TurnState := { turn with reasoningDone := true }

namespace SgrOneToolMiddleware

def wrapToolCall (turn : TurnState) (toolName : String) : TurnState × Option String :=
  if toolName = reasoningStepTool then (turn, none)
  else if turn.actionTools ≥ 1 then (turn, some "Only one action tool per turn is allowed after reasoning_step.")
  else ({ turn with actionTools := turn.actionTools + 1 }, none)

variable {turn turn' : TurnState} {toolName : String}

theorem wrapToolCall_refused {content : String} (answered : wrapToolCall turn toolName = (turn', some content)) :
    turn' = turn ∧ toolName ≠ reasoningStepTool ∧ 1 ≤ turn.actionTools := by
  unfold wrapToolCall at answered
  by_cases reasoning : toolName = reasoningStepTool
  · rw [if_pos reasoning] at answered
    cases answered
  · rw [if_neg reasoning] at answered
    by_cases used : turn.actionTools ≥ 1
    · rw [if_pos used] at answered
      cases answered
      exact ⟨rfl, reasoning, used⟩
    · rw [if_neg used] at answered
      cases answered

theorem wrapToolCall_started (lets : wrapToolCall turn toolName = (turn', none)) :
    (toolName = reasoningStepTool ∧ turn' = turn) ∨
      toolName ≠ reasoningStepTool ∧ turn.actionTools = 0 ∧ turn' = { turn with actionTools := 1 } := by
  unfold wrapToolCall at lets
  by_cases reasoning : toolName = reasoningStepTool
  · rw [if_pos reasoning] at lets
    cases lets
    exact .inl ⟨reasoning, rfl⟩
  · rw [if_neg reasoning] at lets
    by_cases used : turn.actionTools ≥ 1
    · rw [if_pos used] at lets
      cases lets
    · have unused : turn.actionTools = 0 := by omega
      rw [if_neg used, unused] at lets
      cases lets
      exact .inr ⟨reasoning, unused, rfl⟩

end SgrOneToolMiddleware

structure SchemaGuidedReasoningMiddleware where
  policy : ResolvedSgrPolicy
  validatesReasoning : JsonDict → Bool

namespace SchemaGuidedReasoningMiddleware

variable (mw : SchemaGuidedReasoningMiddleware)

def refusal (turn : TurnState) (toolName : String) : Option String :=
  if ¬mw.policy.enabled then none
  else if toolName = reasoningStepTool then none
  else if mw.policy.requireBeforeAction ∧ ¬turn.reasoningDone then
    some s!"Call {reasoningStepTool} before using {toolName}."
  else none

variable {mw} in
theorem refusal_none (enabled : mw.policy.enabled = true) (required : mw.policy.requireBeforeAction = true)
    (turn : TurnState) (toolName : String) :
    mw.refusal turn toolName = none ↔ toolName = reasoningStepTool ∨ turn.reasoningDone = true := by
  unfold refusal
  rw [if_neg (not_not_intro enabled), required]
  by_cases reasoning : toolName = reasoningStepTool
  · simp [reasoning]
  · by_cases done : turn.reasoningDone = true
    · simp [reasoning, done]
    · simp [reasoning, done]

def Reasons (call : ToolCall) : Prop := call.name = reasoningStepTool ∧ mw.validatesReasoning call.args = true

instance (call : ToolCall) : Decidable (mw.Reasons call) := inferInstanceAs (Decidable (_ ∧ _))

def step (s : SgrTurns) : SgrStep → Option SgrTurns
  | .model =>
    -- the next model call is made when every call of the turn has been answered
    if s.inFlight = [] then some { s with turn := s.turn.resetTurn, history := .modelCalled :: s.history } else none
  | .call call =>
    match mw.refusal s.turn call.name with
    | some content => some { s with history := .refused call content :: s.history }
    | none => some { s with inFlight := s.inFlight ++ [(call, .gated)] }
  | .proceed index =>
    match s.inFlight[index]? with
    | some (call, .gated) =>
      match SgrOneToolMiddleware.wrapToolCall s.turn call.name with
      | (turn, some content) => some
          { turn, inFlight := s.inFlight.eraseIdx index, history := .refused call content :: s.history }
      | (turn, none) => some
          { turn, inFlight := s.inFlight.set index (call, .running), history := .started call :: s.history }
    | _ => none
  | .returns index =>
    match s.inFlight[index]? with
    | some (call, .running) =>
      if mw.policy.enabled ∧ mw.Reasons call then some
        { turn := s.turn.markReasoning, inFlight := s.inFlight.eraseIdx index
          history := .reasoned call :: s.history }
      else some { s with inFlight := s.inFlight.eraseIdx index }
    | _ => none
  | .raises index =>
    match s.inFlight[index]? with
    | some _ => some { s with inFlight := s.inFlight.eraseIdx index }
    | none => none

variable {mw} {s t : SgrTurns} {index : Nat}

theorem step_model (taken : mw.step s .model = some t) :
    s.inFlight = [] ∧ t = { s with turn := s.turn.resetTurn, history := .modelCalled :: s.history } := by
  unfold step at taken
  by_cases idle : s.inFlight = []
  · rw [if_pos idle] at taken
    exact ⟨idle, (Option.some.inj taken).symm⟩
  · rw [if_neg idle] at taken
    cases taken

theorem step_call {call : ToolCall} (taken : mw.step s (.call call) = some t) :
    (∃ content, mw.refusal s.turn call.name = some content ∧
        t = { s with history := .refused call content :: s.history }) ∨
      (mw.refusal s.turn call.name = none ∧ t = { s with inFlight := s.inFlight ++ [(call, .gated)] }) := by
  unfold step at taken
  dsimp only at taken
  cases refused : mw.refusal s.turn call.name with
  | some content =>
    rw [refused] at taken
    exact Or.inl ⟨content, rfl, (Option.some.inj taken).symm⟩
  | none =>
    rw [refused] at taken
    exact Or.inr ⟨rfl, (Option.some.inj taken).symm⟩

theorem step_proceed (taken : mw.step s (.proceed index) = some t) :
    ∃ call turn, (call, .gated) ∈ s.inFlight ∧
      ((∃ content, SgrOneToolMiddleware.wrapToolCall s.turn call.name = (turn, some content) ∧ t =
          { turn, inFlight := s.inFlight.eraseIdx index, history := .refused call content :: s.history }) ∨
        (SgrOneToolMiddleware.wrapToolCall s.turn call.name = (turn, none) ∧ t =
          { turn, inFlight := s.inFlight.set index (call, .running), history := .started call :: s.history })) := by
  unfold step at taken
  dsimp only at taken
  cases place : s.inFlight[index]? with
  | none =>
    rw [place] at taken
    cases taken
  | some waiting =>
    obtain ⟨call, stage⟩ := waiting
    rw [place] at taken
    cases stage with
    | running => cases taken
    | gated =>
      dsimp only at taken
      rcases wrapped : SgrOneToolMiddleware.wrapToolCall s.turn call.name with ⟨turn, answer⟩
      rw [wrapped] at taken
      refine ⟨call, turn, List.mem_of_getElem? place, ?_⟩
      cases answer with
      | some content => exact Or.inl ⟨content, wrapped, (Option.some.inj taken).symm⟩
      | none => exact Or.inr ⟨wrapped, (Option.some.inj taken).symm⟩

theorem step_returns (taken : mw.step s (.returns index) = some t) :
    ∃ call, (call, .running) ∈ s.inFlight ∧ t =
      if mw.policy.enabled ∧ mw.Reasons call then
        { turn := s.turn.markReasoning, inFlight := s.inFlight.eraseIdx index, history := .reasoned call :: s.history }
      else { s with inFlight := s.inFlight.eraseIdx index } := by
  unfold step at taken
  dsimp only at taken
  cases place : s.inFlight[index]? with
  | none =>
    rw [place] at taken
    cases taken
  | some waiting =>
    obtain ⟨call, stage⟩ := waiting
    rw [place] at taken
    cases stage with
    | gated => cases taken
    | running =>
      dsimp only at taken
      rw [← apply_ite some] at taken
      refine ⟨call, List.mem_of_getElem? place, ?_⟩
      exact (Option.some.inj taken).symm

theorem step_raises (taken : mw.step s (.raises index) = some t) :
    t = { s with inFlight := s.inFlight.eraseIdx index } := by
  unfold step at taken
  dsimp only at taken
  cases place : s.inFlight[index]? with
  | none =>
    rw [place] at taken
    cases taken
  | some waiting =>
    rw [place] at taken
    exact (Option.some.inj taken).symm

end SchemaGuidedReasoningMiddleware

namespace SgrEvent

def isModelCall : SgrEvent → Bool
  | .modelCalled => true
  | _ => false

def isAction : SgrEvent → Bool
  | .started call => call.name ≠ reasoningStepTool
  | _ => false

/-- What has happened since the model was last called. -/
def thisTurn (history : List SgrEvent) : List SgrEvent := history.takeWhile fun event => !event.isModelCall

def Reasoned (turn : List SgrEvent) : Prop := ∃ call, .reasoned call ∈ turn

/-- How an event follows on what happened in its turn. An action is started as the turn's first, after a reasoning
    step; a call is refused only where an action was started before, or no reasoning step was completed. -/
def Follows (mw : SchemaGuidedReasoningMiddleware) (turn : List SgrEvent) : SgrEvent → Prop
  | .modelCalled => True
  | .started call => call.name ≠ reasoningStepTool → (∀ event ∈ turn, event.isAction = false) ∧ Reasoned turn
  | .refused call _ =>
    call.name ≠ reasoningStepTool ∧ ((∃ event ∈ turn, event.isAction = true) ∨ ¬Reasoned turn)
  | .reasoned call => mw.Reasons call ∧ .started call ∈ turn

def Disciplined (mw : SchemaGuidedReasoningMiddleware) (history : List SgrEvent) : Prop :=
  ∀ later event earlier, history = later ++ event :: earlier → event.Follows mw (thisTurn earlier)

variable {mw : SchemaGuidedReasoningMiddleware} {history : List SgrEvent} {event : SgrEvent}

theorem Disciplined.cons (disciplined : Disciplined mw history) (follows : event.Follows mw (thisTurn history)) :
    Disciplined mw (event :: history) := by
  intro later event' earlier split
  cases later with
  | nil =>
    cases split
    exact follows
  | cons first later =>
    cases split
    exact disciplined later event' earlier rfl

theorem Disciplined.tail (disciplined : Disciplined mw (event :: history)) : Disciplined mw history :=
  fun later event' earlier split => disciplined (event :: later) event' earlier (by rw [split, List.cons_append])

theorem thisTurn_modelCalled : thisTurn (.modelCalled :: history) = [] := rfl

theorem thisTurn_cons (inside : event.isModelCall = false) : thisTurn (event :: history) = event :: thisTurn history := by
  unfold thisTurn
  rw [List.takeWhile_cons, inside]
  rfl

theorem Disciplined.one_action (disciplined : Disciplined mw history) : (thisTurn history).countP isAction ≤ 1 := by
  induction history with
  | nil => exact Nat.zero_le 1
  | cons event history ih =>
    have before := ih disciplined.tail
    have follows := disciplined [] event history rfl
    cases event with
    | modelCalled => exact Nat.zero_le 1
    | started call =>
      rw [thisTurn_cons rfl, List.countP_cons]
      by_cases action : call.name = reasoningStepTool
      · simpa [isAction, action] using before
      · have first : (thisTurn history).countP isAction = 0 := by
          apply List.countP_eq_zero.mpr
          intro event member acted
          rw [(follows action).1 event member] at acted
          cases acted
        rw [first]
        split <;> omega
    | refused call content =>
      rw [thisTurn_cons rfl, List.countP_cons]
      exact before
    | reasoned call =>
      rw [thisTurn_cons rfl, List.countP_cons]
      exact before

theorem mem_thisTurn_cons (inside : event.isModelCall = false) {older : SgrEvent} (member : older ∈ thisTurn history) :
    older ∈ thisTurn (event :: history) := by
  rw [thisTurn_cons inside]
  exact List.mem_cons_of_mem _ member

theorem Reasoned.cons (inside : event.isModelCall = false) (reasoned : Reasoned (thisTurn history)) :
    Reasoned (thisTurn (event :: history)) := by
  obtain ⟨call, member⟩ := reasoned
  exact ⟨call, mem_thisTurn_cons inside member⟩

theorem reasoned_cons_iff (inside : event.isModelCall = false) (other : ∀ call, event ≠ .reasoned call) :
    Reasoned (thisTurn (event :: history)) ↔ Reasoned (thisTurn history) := by
  constructor
  · intro reasoned
    obtain ⟨call, member⟩ := reasoned
    rw [thisTurn_cons inside] at member
    rcases List.mem_cons.mp member with same | member
    · exact absurd same.symm (other call)
    · exact ⟨call, member⟩
  · exact Reasoned.cons inside

end SgrEvent

namespace SgrTurns

open SgrEvent

/-- What every reached state keeps: the session says what has happened in the turn, and a call waits only for what
    it was let on to. -/
structure Keeps (mw : SchemaGuidedReasoningMiddleware) (s : SgrTurns) : Prop where
  disciplined : Disciplined mw s.history
  done : s.turn.reasoningDone = true ↔ Reasoned (thisTurn s.history)
  counted : s.turn.actionTools = (thisTurn s.history).countP isAction
  ready : ∀ call, (call, .gated) ∈ s.inFlight → call.name ≠ reasoningStepTool → Reasoned (thisTurn s.history)
  begun : ∀ call, (call, .running) ∈ s.inFlight → .started call ∈ thisTurn s.history

variable {mw : SchemaGuidedReasoningMiddleware} {s t : SgrTurns}

theorem Keeps.start : Keeps mw {} where
  disciplined := by
    intro later event earlier split
    cases later <;> cases split
  done := by simp [Reasoned, thisTurn]
  counted := rfl
  ready := fun _ member => by cases member
  begun := fun _ member => by cases member

theorem Keeps.model (keeps : Keeps mw s) :
    Keeps mw { s with turn := s.turn.resetTurn, inFlight := [], history := .modelCalled :: s.history } where
  disciplined := keeps.disciplined.cons trivial
  done := by simp [Reasoned, thisTurn_modelCalled, TurnState.resetTurn]
  counted := rfl
  ready := fun _ member => by cases member
  begun := fun _ member => by cases member

theorem Keeps.note {event : SgrEvent} (keeps : Keeps mw s) (follows : event.Follows mw (thisTurn s.history))
    (inside : event.isModelCall = false) (other : ∀ call, event ≠ .reasoned call) (idle : event.isAction = false) :
    Keeps mw { s with history := event :: s.history } where
  disciplined := keeps.disciplined.cons follows
  done := keeps.done.trans (reasoned_cons_iff inside other).symm
  counted := by
    rw [thisTurn_cons inside, List.countP_cons, idle]
    exact keeps.counted
  ready := fun call member action => (keeps.ready call member action).cons inside
  begun := fun call member => mem_thisTurn_cons inside (keeps.begun call member)

theorem Keeps.fewer {inFlight : List (ToolCall × SgrStage)} (keeps : Keeps mw s) (left : inFlight ⊆ s.inFlight) :
    Keeps mw { s with inFlight } where
  disciplined := keeps.disciplined
  done := keeps.done
  counted := keeps.counted
  ready := fun call member => keeps.ready call (left member)
  begun := fun call member => keeps.begun call (left member)

theorem Keeps.started {call : ToolCall} {turn : TurnState} (keeps : Keeps mw s) (index : Nat)
    (waits : (call, .gated) ∈ s.inFlight)
    (lets : SgrOneToolMiddleware.wrapToolCall s.turn call.name = (turn, none)) :
    Keeps mw { turn, inFlight := s.inFlight.set index (call, .running), history := .started call :: s.history } where
  disciplined := by
    apply keeps.disciplined.cons
    intro action
    obtain ⟨reasoning, -⟩ | ⟨-, unused, -⟩ := SgrOneToolMiddleware.wrapToolCall_started lets
    · exact absurd reasoning action
    · rw [keeps.counted, List.countP_eq_zero] at unused
      exact ⟨fun event member => eq_false_of_ne_true (unused event member), keeps.ready call waits action⟩
  done := by
    have same : turn.reasoningDone = s.turn.reasoningDone := by
      obtain ⟨-, rfl⟩ | ⟨-, -, rfl⟩ := SgrOneToolMiddleware.wrapToolCall_started lets
      · rfl
      · rfl
    rw [same]
    exact keeps.done.trans (reasoned_cons_iff rfl fun _ same => by cases same).symm
  counted := by
    rw [thisTurn_cons rfl, List.countP_cons, ← keeps.counted]
    obtain ⟨reasoning, rfl⟩ | ⟨action, unused, rfl⟩ := SgrOneToolMiddleware.wrapToolCall_started lets
    · simp [isAction, reasoning]
    · simp [isAction, action, unused]
  ready := by
    intro other member action
    rcases List.mem_or_eq_of_mem_set member with held | same
    · exact (keeps.ready other held action).cons rfl
    · cases same
  begun := by
    intro other member
    rcases List.mem_or_eq_of_mem_set member with held | same
    · exact mem_thisTurn_cons rfl (keeps.begun other held)
    · cases same
      rw [thisTurn_cons rfl]
      exact List.mem_cons_self

theorem Keeps.called {call : ToolCall} (enabled : mw.policy.enabled = true)
    (required : mw.policy.requireBeforeAction = true) (keeps : Keeps mw s)
    (taken : mw.step s (.call call) = some t) : Keeps mw t := by
  have lets := SchemaGuidedReasoningMiddleware.refusal_none enabled required s.turn call.name
  rcases SchemaGuidedReasoningMiddleware.step_call taken with ⟨content, refused, rfl⟩ | ⟨passed, rfl⟩
  · rw [refused] at lets
    have stopped := not_or.mp fun either => absurd (lets.mpr either) (Option.some_ne_none content)
    have unreasoned : ¬Reasoned (thisTurn s.history) := fun reasoned => stopped.2 (keeps.done.mpr reasoned)
    exact keeps.note ⟨stopped.1, .inr unreasoned⟩ rfl nofun rfl
  · exact { keeps with
      ready := by
        intro other member action
        rcases List.mem_append.mp member with held | new
        · exact keeps.ready other held action
        · cases List.mem_singleton.mp new
          exact keeps.done.mp ((lets.mp passed).resolve_left action)
      begun := by
        intro other member
        rcases List.mem_append.mp member with held | new
        · exact keeps.begun other held
        · cases List.mem_singleton.mp new }

theorem Keeps.proceeded {index : Nat} (keeps : Keeps mw s) (taken : mw.step s (.proceed index) = some t) :
    Keeps mw t := by
  obtain ⟨call, turn, waits, passed⟩ := SchemaGuidedReasoningMiddleware.step_proceed taken
  rcases passed with ⟨content, wrapped, rfl⟩ | ⟨wrapped, rfl⟩
  · obtain ⟨rfl, action, used⟩ := SgrOneToolMiddleware.wrapToolCall_refused wrapped
    rw [keeps.counted] at used
    obtain ⟨event, happened, acted⟩ := List.countP_pos_iff.mp used
    have noted : Keeps mw { s with history := .refused call content :: s.history } :=
      keeps.note ⟨action, .inl ⟨event, happened, acted⟩⟩ rfl nofun rfl
    exact noted.fewer List.eraseIdx_subset
  · exact keeps.started index waits wrapped

theorem Keeps.returned {index : Nat} (keeps : Keeps mw s) (taken : mw.step s (.returns index) = some t) :
    Keeps mw t := by
  obtain ⟨call, runs, rfl⟩ := SchemaGuidedReasoningMiddleware.step_returns taken
  have left : Keeps mw { s with inFlight := s.inFlight.eraseIdx index } := keeps.fewer List.eraseIdx_subset
  have begun := keeps.begun call runs
  by_cases reasons : mw.policy.enabled = true ∧ mw.Reasons call
  · rw [if_pos reasons]
    exact {
      disciplined := left.disciplined.cons ⟨reasons.2, begun⟩
      done := ⟨fun _ => ⟨call, by rw [thisTurn_cons rfl]; exact List.mem_cons_self⟩, fun _ => rfl⟩
      counted := left.counted
      ready := fun other member action => (left.ready other member action).cons rfl
      begun := fun other member => mem_thisTurn_cons rfl (left.begun other member) }
  · rw [if_neg reasons]
    exact left

theorem Keeps.step {action : SgrStep} (enabled : mw.policy.enabled = true)
    (required : mw.policy.requireBeforeAction = true) (keeps : Keeps mw s) (taken : mw.step s action = some t) :
    Keeps mw t := by
  cases action with
  | model =>
    obtain ⟨idle, rfl⟩ := SchemaGuidedReasoningMiddleware.step_model taken
    have left := keeps.model
    rw [← idle] at left
    exact left
  | call call => exact keeps.called enabled required taken
  | proceed index => exact keeps.proceeded taken
  | returns index => exact keeps.returned taken
  | raises index =>
    obtain rfl := SchemaGuidedReasoningMiddleware.step_raises taken
    exact keeps.fewer List.eraseIdx_subset

end SgrTurns

namespace SchemaGuidedReasoningMiddleware

open SgrEvent

/-- In every interleaving of the calls of every turn, an action is started as its turn's first and after a
    reasoning step of the turn, and only started actions count as the turn's action. -/
theorem turn_discipline (mw : SchemaGuidedReasoningMiddleware) (enabled : mw.policy.enabled = true)
    (required : mw.policy.requireBeforeAction = true) (steps : List SgrStep) (s : SgrTurns)
    (reached : Transition.run mw.step {} steps = some s) :
    Disciplined mw s.history ∧ (∀ later earlier, s.history = later ++ earlier → (thisTurn earlier).countP isAction ≤ 1) ∧
      s.turn.actionTools = (thisTurn s.history).countP isAction := by
  have keeps : SgrTurns.Keeps mw s :=
    Transition.invariant_run (fun _ _ _ keeps taken => SgrTurns.Keeps.step enabled required keeps taken)
      SgrTurns.Keeps.start reached
  refine ⟨keeps.disciplined, ?_, keeps.counted⟩
  intro later earlier split
  have before : Disciplined mw earlier := by
    intro newer event older parts
    exact keeps.disciplined (later ++ newer) event older (by rw [split, parts, List.append_assoc])
  exact before.one_action

theorem guard_wrap_eq (mw : SchemaGuidedReasoningMiddleware) (enabled : mw.policy.enabled = true) (turn : TurnState)
    (toolName : String) :
    (TurnGuard.sgr mw.policy.requireBeforeAction).wrap turn toolName =
      match mw.refusal turn toolName with
      | some content => (turn, some content)
      | none => SgrOneToolMiddleware.wrapToolCall turn toolName := by
  unfold TurnGuard.wrap refusal SgrOneToolMiddleware.wrapToolCall
  rw [if_neg (not_not_intro enabled)]
  dsimp only
  split
  · rfl
  · split <;> rfl

theorem guard_record_eq (mw : SchemaGuidedReasoningMiddleware) (turn : TurnState) (call : ToolCall)
    (message : ToolMessage) :
    (TurnGuard.sgr mw.policy.requireBeforeAction).record turn (mw.Reasons call) (.ok message) =
      if mw.Reasons call then turn.markReasoning else turn := rfl

def hybrid : SchemaGuidedReasoningMiddleware where
  policy := { enabled := true, mode := .sgrHybrid, requireBeforeAction := true }
  validatesReasoning args := args ≠ []

def reasoningCall : ToolCall := { name := reasoningStepTool, args := [("enough_data", .bool false)] }

def lookupCall : ToolCall := { id := "c1", name := "read_document" }

theorem hybrid_turn :
    Disciplined hybrid
      [.refused lookupCall "Only one action tool per turn is allowed after reasoning_step.", .started lookupCall,
        .reasoned reasoningCall, .refused lookupCall "Call reasoning_step before using read_document.",
        .started reasoningCall, .modelCalled] := by
  have turns := turn_discipline hybrid rfl rfl
    [.model, .call reasoningCall, .proceed 0, .call lookupCall, .returns 0, .call lookupCall, .call lookupCall,
      .proceed 1, .proceed 0] _ rfl
  exact turns.1

end SchemaGuidedReasoningMiddleware

end CysAgi
