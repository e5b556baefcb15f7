import CysAgi.Runtime.ToolStack

namespace CysAgi

open Py SecurityMiddleware

def ToolTurns.newExecutions (w : World) (s : ToolTurns) : List ToolExecution :=
  s.world.executedTools.drop w.executedTools.length

namespace ToolStack

variable (stack : ToolStack)

/-- Some call of `reasoning_step` gets through with arguments that count as reasoning. -/
def CanReason : Prop :=
  stack.middleware.Passable reasoningStepTool ∧ ∃ raw call, stack.prepared raw = some call ∧ stack.Reasons call

/-- The agent has the tool in its scope, and neither the review gate nor the budget nor the guard keeps
    every call from it. -/
structure Callable (w : World) (toolName : String) : Prop where
  allowed : toolName ∈ stack.scope.allowedTools
  bound : ∃ tool, stack.findTool toolName = some tool
  passable : stack.middleware.Passable toolName
  afforded : w.Affords stack.middleware.sessionId 1
  reasoned : stack.guard.Holds toolName → stack.CanReason ∧ w.Affords stack.middleware.sessionId 2

/-- What holds in every state that the calls lead to from the given world. -/
structure Within (w : World) (s : ToolTurns) : Prop where
  afforded : ∀ calls, 1 ≤ calls → s.world.Affords stack.middleware.sessionId calls →
    w.Affords stack.middleware.sessionId calls
  reasoned : s.turn.reasoningDone = true → stack.CanReason ∧ ∀ calls, 1 ≤ calls →
    s.world.Affords stack.middleware.sessionId calls → w.Affords stack.middleware.sessionId (calls + 1)
  flying : ∀ call ∈ s.inFlight, stack.middleware.Passable call.name ∧ ∃ raw, stack.prepared raw = some call
  executed : ∃ since, s.world.executedTools = w.executedTools ++ since ∧ ∀ e ∈ since, stack.Callable w e.tool.name

variable {stack} {s : ToolTurns} {w : World} {call made : ToolCall} {node : NodeRun}

theorem prepared_spec (prepared : stack.prepared call = some made) :
    made.name = call.name ∧ made.name ∈ stack.scope.allowedTools := by
  obtain ⟨checked, args, -, rfl⟩ := prepared_eq_some prepared
  exact ⟨rfl, ScopePolicy.checkToolCall_allowed checked⟩

theorem prepared_bare {toolName : String} (allowed : toolName ∈ stack.scope.allowedTools) :
    stack.prepared { name := toolName } = some { name := toolName } := by
  unfold prepared
  rw [ScopePolicy.checkToolCall_bare stack.reader.lower allowed, TextReader.coerceToolArgs]

theorem enter_through (prepared : stack.prepared call = some made)
    (through : outcome (stack.middleware.gate made node) s.world = .ok none) :
    stack.enter s call node =
      stack.start { s with world := final (stack.middleware.gate made node) s.world } made := by
  unfold enter
  simp only [prepared]
  rcases run_cases (stack.middleware.gate made node) s.world with ⟨blocked, ran, returned⟩ | ⟨e, ran, raised⟩
  · rw [returned] at through
    cases through
    rw [ran]
  · rw [raised] at through
    cases through

theorem enter_stopped (prepared : stack.prepared call = some made)
    (stopped : outcome (stack.middleware.gate made node) s.world ≠ .ok none) :
    stack.enter s call node = { s with world := final (stack.middleware.gate made node) s.world } := by
  unfold enter
  simp only [prepared]
  rcases run_cases (stack.middleware.gate made node) s.world with ⟨blocked, ran, returned⟩ | ⟨e, ran, raised⟩
  · rw [ran]
    cases blocked with
    | some message => rfl
    | none => exact absurd returned stopped
  · rw [ran]

theorem enter_spec (stack : ToolStack) (s : ToolTurns) (call : ToolCall) (node : NodeRun) :
    (∃ made, stack.prepared call = some made ∧ outcome (stack.middleware.gate made node) s.world = .ok none ∧
      stack.enter s call node =
        stack.start { s with world := final (stack.middleware.gate made node) s.world } made) ∨
      ∃ world : World, world.budgets = s.world.budgets ∧ world.executedTools = s.world.executedTools ∧
        stack.enter s call node = { s with world } := by
  cases prepared : stack.prepared call with
  | none =>
    refine .inr ⟨s.world, rfl, rfl, ?_⟩
    rw [enter, prepared]
  | some made =>
    by_cases through : outcome (stack.middleware.gate made node) s.world = .ok none
    · exact .inl ⟨made, rfl, through, enter_through prepared through⟩
    · exact .inr ⟨_, budgets_gate s.world, executedTools_gate s.world, enter_stopped prepared through⟩

theorem start_refused {content : String} (refused : (stack.guard.wrap s.turn call.name).2 = some content) :
    stack.start s call = { s with
      turn := (stack.guard.wrap s.turn call.name).1
      world := final (stack.middleware.conclude call (.ok (call.errorMessage content))) s.world } := by
  unfold start
  simp only [refused]

theorem start_let (s : ToolTurns) (call : ToolCall) (lets : (stack.guard.wrap s.turn call.name).2 = none) :
    stack.start s call = {
      turn := (stack.guard.wrap s.turn call.name).1
      inFlight := s.inFlight ++ [call]
      world := { s.world with executedTools := s.world.executedTools ++ stack.executions call } } := by
  unfold start
  simp only [lets]

theorem world_alone (prepared : stack.prepared call = some made)
    (through : outcome (stack.middleware.gate made node) s.world = .ok none)
    (lets : (stack.guard.wrap s.turn made.name).2 = none) :
    (stack.leave (stack.enter s call node) s.inFlight.length made
        (outcome (stack.handler made node) (final (stack.middleware.gate made node) s.world))).world =
      final (stack.callTool made node) s.world := by
  rw [enter_through prepared through, start_let { s with world := final _ s.world } made lets, Agent.callTool,
    final_awrapToolCall through, Agent.final_handler]
  rfl

theorem Within.initial (stack : ToolStack) (w : World) : stack.Within w { world := w } where
  afforded _ _ affords := affords
  reasoned done := by cases done
  flying _ member := by cases member
  executed := ⟨[], (List.append_nil _).symm, fun _ member => by cases member⟩

theorem Within.move (within : stack.Within w s) {world : World} {turn : TurnState}
    (executions : world.executedTools = s.world.executedTools)
    (spends : ∀ calls, 1 ≤ calls → world.Affords stack.middleware.sessionId calls →
      s.world.Affords stack.middleware.sessionId calls)
    (kept : turn.reasoningDone = true → s.turn.reasoningDone = true) : stack.Within w { s with world, turn } where
  afforded calls positive affords := within.afforded calls positive (spends calls positive affords)
  reasoned done := by
    obtain ⟨can, left⟩ := within.reasoned (kept done)
    exact ⟨can, fun calls positive affords => left calls positive (spends calls positive affords)⟩
  flying := within.flying
  executed := by
    obtain ⟨since, grown, callable⟩ := within.executed
    exact ⟨since, executions.trans grown, callable⟩

theorem Within.world (within : stack.Within w s) {world : World} (budgets : world.budgets = s.world.budgets)
    (executions : world.executedTools = s.world.executedTools) : stack.Within w { s with world } :=
  within.move executions (fun _ _ => (World.affords_congr budgets).mp) id

theorem Within.turn (within : stack.Within w s) (turn : TurnState)
    (kept : turn.reasoningDone = true → s.turn.reasoningDone = true) : stack.Within w { s with turn } :=
  within.move rfl (fun _ _ => id) kept

theorem Within.conclude (within : stack.Within w s) (call : ToolCall) (handled : Except PyExc ToolMessage) :
    stack.Within w { s with world := final (stack.middleware.conclude call handled) s.world } :=
  within.move (executedTools_conclude stack.middleware call handled s.world)
    (fun _ positive affords => affords.concluded positive) id

theorem Within.start (within : stack.Within w s) (raw : stack.prepared call = some made)
    (passable : stack.middleware.Passable made.name) (unspent : s.world.Affords stack.middleware.sessionId 1) :
    stack.Within w (stack.start s made) := by
  have done := TurnGuard.wrap_done stack.guard s.turn made.name
  cases answer : (stack.guard.wrap s.turn made.name).2 with
  | some content =>
    rw [start_refused answer]
    exact (within.conclude made _).turn _ fun reasoned => done.symm.trans reasoned
  | none =>
    rw [start_let s made answer]
    have guarded := within.turn (stack.guard.wrap s.turn made.name).1 fun reasoned => done.symm.trans reasoned
    refine ⟨guarded.afforded, guarded.reasoned, ?_, ?_⟩
    · intro flying member
      rcases List.mem_append.mp member with member | member
      · exact within.flying flying member
      · rw [List.mem_singleton.mp member]
        exact ⟨passable, call, raw⟩
    · obtain ⟨since, grown, callable⟩ := within.executed
      refine ⟨since ++ stack.executions made, by rw [← List.append_assoc, ← grown], ?_⟩
      intro e member
      rcases List.mem_append.mp member with member | member
      · exact callable e member
      · have found := (Agent.mem_executions member).1
        rw [Agent.name_of_findTool found]
        refine ⟨(prepared_spec raw).2, ⟨e.tool, found⟩, passable, within.afforded 1 (by decide) unspent, ?_⟩
        intro holds
        obtain ⟨can, left⟩ := within.reasoned (TurnGuard.reasoned_of_wrap holds answer)
        exact ⟨can, left 1 (by decide) unspent⟩

theorem Within.enter (within : stack.Within w s) (call : ToolCall) (node : NodeRun) :
    stack.Within w (stack.enter s call node) := by
  rcases enter_spec stack s call node with ⟨made, raw, through, entered⟩ | ⟨world, budgets, executions, entered⟩
  · rw [entered]
    have same : (final (stack.middleware.gate made node) s.world).budgets = s.world.budgets := budgets_gate s.world
    have gated := within.world same (executedTools_gate s.world)
    have unspent := World.affords_one_iff.mpr (checked_gate through)
    exact gated.start raw (passable_of_gate through) ((World.affords_congr same).mpr unspent)
  · rw [entered]
    exact within.world budgets executions

theorem Within.leave (within : stack.Within w s) {index : Nat} (present : s.inFlight[index]? = some call)
    (handled : Except PyExc ToolMessage) : stack.Within w (stack.leave s index call handled) := by
  have concluded := within.conclude call handled
  have fewer : ∀ flying ∈ s.inFlight.eraseIdx index, flying ∈ s.inFlight := fun _ => List.mem_of_mem_eraseIdx
  refine ⟨concluded.afforded, ?_, fun flying member => within.flying flying (fewer flying member), concluded.executed⟩
  intro done
  rcases TurnGuard.record_done done with before | ⟨reasons, message, returned⟩
  · exact concluded.reasoned before
  · obtain ⟨passable, raw, prepared⟩ := within.flying call (List.mem_of_getElem? present)
    rw [reasons.1] at passable
    refine ⟨⟨passable, raw, call, prepared, reasons⟩, fun calls positive affords => ?_⟩
    rw [returned] at affords
    have left := (World.affords_returned_iff stack.middleware call message s.world positive).mp affords
    exact within.afforded (calls + 1) (by omega) left

theorem Within.step (within : stack.Within w s) {action : ToolTurnStep} {t : ToolTurns}
    (taken : stack.step s action = some t) : stack.Within w t := by
  cases action with
  | model =>
    simp only [ToolStack.step] at taken
    split at taken
    · cases taken
      exact within.turn {} fun done => by cases done
    · cases taken
  | enter call node =>
    cases taken
    exact within.enter call node
  | leave index handled =>
    simp only [ToolStack.step] at taken
    cases present : s.inFlight[index]? with
    | none =>
      rw [present] at taken
      cases taken
    | some call =>
      rw [present] at taken
      cases taken
      exact within.leave present handled

theorem Within.reached {steps : List ToolTurnStep} {t : ToolTurns}
    (reached : Transition.run stack.step { world := w } steps = some t) : stack.Within w t :=
  Transition.invariant_run (fun _ _ _ within taken => within.step taken) (Within.initial stack w) reached

theorem callable_of_executed {steps : List ToolTurnStep} {t : ToolTurns} {e : ToolExecution}
    (reached : Transition.run stack.step { world := w } steps = some t) (ran : e ∈ t.newExecutions w) :
    stack.Callable w e.tool.name := by
  obtain ⟨since, grown, callable⟩ := (Within.reached reached).executed
  unfold ToolTurns.newExecutions at ran
  rw [grown, List.drop_left] at ran
  exact callable e ran

theorem executes_ready {toolName : String} (callable : stack.Callable w toolName) (within : stack.Within w s)
    (unspent : s.world.Affords stack.middleware.sessionId 1) (actions : s.turn.actionTools = 0)
    (calls : s.turn.toolCalls = 0) (ready : stack.guard.Holds toolName → s.turn.reasoningDone = true) :
    ∃ e ∈ (stack.enter s { name := toolName } approvedNode).newExecutions w, e.tool.name = toolName := by
  obtain ⟨since, grown, -⟩ := within.executed
  obtain ⟨tool, found⟩ := callable.bound
  have through : outcome (stack.middleware.gate { name := toolName } approvedNode) s.world = .ok none :=
    gate_approved callable.passable (World.affords_one_iff.mp unspent)
  have lets := TurnGuard.wrap_first actions calls ready
  rw [enter_through (prepared_bare callable.allowed) through,
    start_let { s with world := final _ s.world } { name := toolName } lets]
  refine ⟨stack.execution { name := toolName } tool, ?_, Agent.name_of_findTool found⟩
  unfold ToolTurns.newExecutions
  dsimp only
  rw [executedTools_gate, grown, List.append_assoc, List.drop_left]
  apply List.mem_append_right
  unfold Agent.executions
  rw [found]
  exact List.mem_singleton_self _

theorem reasons_first {required : Bool} (guarded : stack.guard = .sgr required) (can : stack.CanReason)
    (enough : w.Affords stack.middleware.sessionId 2) :
    ∃ s, Transition.Leads stack.step { world := w } s ∧ s.world.Affords stack.middleware.sessionId 1 ∧
      s.turn = { reasoningDone := true } := by
  obtain ⟨passable, raw, call, prepared, reasons⟩ := can
  have unspent := World.affords_one_iff.mp (enough.mono (by decide : (1 : Int) ≤ 2))
  rw [← reasons.1] at passable
  have through := gate_approved passable unspent
  have lets : stack.guard.wrap {} call.name = ({}, none) := by rw [guarded, TurnGuard.wrap, if_pos reasons.1]
  have entered : ∃ started, stack.enter { world := w } raw approvedNode = started ∧ started.turn = {} ∧
      started.inFlight = [call] ∧ started.world.budgets = w.budgets := by
    refine ⟨_, (enter_through prepared through).trans (start_let _ _ ?_), ?_, rfl, budgets_gate w⟩
    · exact congrArg Prod.snd lets
    · exact congrArg Prod.fst lets
  obtain ⟨started, entered, fresh, flying, budgets⟩ := entered
  have taken : stack.step { world := w } (.enter raw approvedNode) = some started := congrArg some entered
  have returned : stack.step started (.leave 0 (.ok (call.errorMessage ""))) =
      some (stack.leave started 0 call (.ok (call.errorMessage ""))) := by
    rw [step, flying]
    rfl
  refine ⟨_, (Transition.Leads.single taken).trans (Transition.Leads.single returned), ?_, ?_⟩
  · refine (World.affords_returned_iff _ _ _ _ (by decide)).mpr ?_
    exact (World.affords_congr budgets).mpr enough
  · simp only [leave, guarded, fresh, TurnGuard.record, if_pos reasons]

theorem executed_of_callable {toolName : String} (callable : stack.Callable w toolName) :
    ∃ steps t, Transition.run stack.step { world := w } steps = some t ∧
      ∃ e ∈ t.newExecutions w, e.tool.name = toolName := by
  by_cases holds : stack.guard.Holds toolName
  · obtain ⟨can, enough⟩ := callable.reasoned holds
    cases guarded : stack.guard with
    | sgr required =>
      obtain ⟨s, ⟨steps, reached⟩, unspent, turn⟩ := reasons_first guarded can enough
      refine ⟨steps ++ [.enter { name := toolName } approvedNode], stack.enter s { name := toolName } approvedNode,
        ?_, ?_⟩
      · rw [Transition.run_append, reached]
        rfl
      · exact executes_ready callable (Within.reached reached) unspent (by rw [turn]) (by rw [turn])
          fun _ => by rw [turn]
    | oneTool =>
      rw [guarded] at holds
      exact holds.elim
    | free =>
      rw [guarded] at holds
      exact holds.elim
  · exact ⟨[.enter { name := toolName } approvedNode], stack.enter _ { name := toolName } approvedNode, rfl,
      executes_ready callable (Within.initial stack w) callable.afforded rfl rfl fun held => absurd held holds⟩

theorem executed_iff_callable (stack : ToolStack) (w : World) (toolName : String) :
    (∃ steps t, Transition.run stack.step { world := w } steps = some t ∧
      ∃ e ∈ t.newExecutions w, e.tool.name = toolName) ↔ stack.Callable w toolName := by
  constructor
  · intro executed
    obtain ⟨steps, t, reached, e, ran, named⟩ := executed
    rw [← named]
    exact callable_of_executed reached ran
  · exact executed_of_callable

end ToolStack

end CysAgi
