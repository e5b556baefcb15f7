import CysAgi.Runtime.PromptScreening

open Py Onion

namespace CysAgi

namespace ContextSummaryMiddleware

variable {middleware : ContextSummaryMiddleware} {messages : List AnyMessage} {message : AnyMessage}

theorem mem_of_mem_healed (member : message ∈ healOrphanedToolMessages messages) : message ∈ messages := by
  rw [healOrphanedToolMessages_eq] at member
  exact (List.dropWhile_suffix _).mem member

theorem mem_of_mem_trimToolResults {keep : Int} (member : message ∈ trimToolResults messages keep) :
    message ∈ messages := by
  unfold trimToolResults at member
  dsimp only at member
  split at member
  · exact member
  · split at member
    · exact member
    · obtain ⟨entry, listed, rfl⟩ := List.mem_map.mp (mem_of_mem_healed member)
      have placed := List.mem_zipIdx (List.mem_of_mem_filter listed)
      rw [placed.2.2]
      exact List.getElem_mem _

theorem mem_of_mem_trimMessages (member : message ∈ middleware.trimMessages messages) : message ∈ messages := by
  unfold trimMessages at member
  dsimp only at member
  split at member
  · exact mem_of_mem_trimToolResults (mem_of_mem_healed member)
  · rcases List.mem_append.mp member with system | other
    · exact mem_of_mem_trimToolResults (List.mem_of_mem_filter system)
    · have listed := (lastOthers_suffix _ _ _).mem (mem_of_mem_healed other)
      exact mem_of_mem_trimToolResults (List.mem_of_mem_filter listed)

theorem mem_of_mem_summarized {kept : List AnyMessage} {summary : String}
    (summarized : middleware.maybeSummarize messages = .ok (kept, summary)) (member : message ∈ kept) :
    message ∈ messages ∨ message = summaryMessage summary := by
  unfold maybeSummarize at summarized
  dsimp only at summarized
  split at summarized
  · cases summarized
    exact .inl (mem_of_mem_trimMessages member)
  · obtain ⟨made, -, done⟩ := except_bind_ok.mp summarized
    cases done
    have listed := mem_of_mem_healed member
    simp only [List.mem_cons, List.not_mem_nil, or_false] at listed
    rcases listed with first | middle | last
    · rcases mem_of_head? first.symm with inside | own
      · exact .inl (mem_of_mem_trimMessages inside)
      · exact .inr own
    · exact .inr middle
    · split at last
      · rcases mem_of_getLast? last.symm with inside | own
        · exact .inl (mem_of_mem_trimMessages inside)
        · exact .inr own
      · exact .inr last

variable {outside : ModelSurroundings} {request asked : ModelRequest} {w t : ModelWorld}

theorem asks_layer (asks : (middleware.layer outside).Asks request w asked t) :
    asked.systemMessage = request.systemMessage ∧ ∀ message ∈ asked.messages,
      message ∈ request.messages ∨ ∃ summary, message = summaryMessage summary := by
  obtain ⟨kept, u, ran, handed⟩ := run_bind_ok.mp (asks_asking.mp asks)
  cases handed
  refine ⟨rfl, fun message member => ?_⟩
  simp only [summarized, run_bind, run_get] at ran
  cases done : ({ middleware with summarize := outside.summarize, lastSummary := w.lastSummary } :
      ContextSummaryMiddleware).maybeSummarize request.messages with
  | error e =>
    rw [done] at ran
    cases ran
  | ok made =>
    rw [done] at ran
    cases ran
    rcases mem_of_mem_summarized done member with old | new
    · exact .inl old
    · exact .inr ⟨_, new⟩

end ContextSummaryMiddleware

namespace MemoryContextMiddleware

variable {middleware : MemoryContextMiddleware} {outside : ModelSurroundings} {request asked : ModelRequest}
  {w t : ModelWorld}

theorem asks_layer (asks : (middleware.layer outside).Asks request w asked t) :
    asked.systemMessage = request.systemMessage ∧ ∀ message ∈ asked.messages,
      message ∈ request.messages ∨ ∃ entries, outside.queryInvestigation middleware.tenantId
        middleware.investigationId middleware.maxEntries = .ok entries ∧ message = middleware.memoryMessage entries := by
  obtain ⟨kept, u, ran, handed⟩ := run_bind_ok.mp (asks_asking.mp asks)
  cases handed
  refine ⟨rfl, fun message member => ?_⟩
  unfold injectMemory at ran
  split at ran
  · cases ran
    exact .inl member
  · obtain ⟨entries, v, answered, ran⟩ := run_bind_ok.mp ran
    obtain ⟨queried, rfl⟩ := resultOf_ok.mp answered
    obtain ⟨loaded, v, -, ran⟩ := run_bind_ok.mp ran
    split at ran
    · cases ran
      exact .inl member
    · cases ran
      rcases List.mem_append.mp member with old | new
      · exact .inl old
      · exact .inr ⟨entries, queried, List.mem_singleton.mp new⟩

end MemoryContextMiddleware

namespace ModelStack

open PromptContextMiddleware

/-- What a message may be that the model is given: one that neither a person nor a tool wrote, as it was; the wrapped
    text of one that is no hard injection; the block of memory; or a summary. -/
inductive Origin (stack : ModelStack) (outside : ModelSurroundings) (request : ModelRequest) : AnyMessage → Prop
  | kept {message : AnyMessage} (listed : message ∈ request.messages) (other : message.kind ≠ .system)
      (trusted : ¬Untrusted message) : Origin stack outside request message
  | data {message : AnyMessage} {text block : String} {source : UntrustedSource} (listed : message ∈ request.messages)
      (untrusted : Untrusted message) (read : extractMessageContent stack.lib message.content = .ok text)
      (soft : stack.prompt.sanitizer.classify text ≠ .hard)
      (passed : stack.prompt.sanitizer.sanitize text source = .ok block) (marked : wrapped block = true) :
      Origin stack outside request { message with content := .str block }
  | memory {middleware : MemoryContextMiddleware} {entries : List MemoryEntry} (enabled : stack.memory = some middleware)
      (queried : outside.queryInvestigation middleware.tenantId middleware.investigationId middleware.maxEntries =
        .ok entries) : Origin stack outside request (middleware.memoryMessage entries)
  | summary (text : String) : Origin stack outside request (ContextSummaryMiddleware.summaryMessage text)

/-- The system prompt is as it was approved, and only the reminder stands before messages of those kinds. -/
structure Guarded (stack : ModelStack) (outside : ModelSurroundings) (request asked : ModelRequest) : Prop where
  system : asked.systemMessage = request.systemMessage
  matched : ¬Mismatched stack.prompt stack.lib request
  messages : ∃ rest, (asked.messages = rest ∨ asked.messages = reasoningReminder :: rest) ∧
    ∀ message ∈ rest, Origin stack outside request message

def Leaks (stack : ModelStack) (response : ModelResponse) : Prop :=
  ∃ last ∈ response.result.getLast?, last.type = "ai" ∧
    ∃ text, extractMessageContent stack.lib last.content = .ok text ∧ stack.prompt.detectPromptLeakage text = true

inductive CallEnd (stack : ModelStack) (outside : ModelSurroundings) (request : ModelRequest) (w : ModelWorld) :
    Except PyExc ModelResponse → ModelWorld → Prop
  | refused {t : ModelWorld} (refused : Refused stack.prompt stack.lib request) (unasked : t.given = w.given)
      (attempted : Attempted stack.prompt w t) : CallEnd stack outside request w (.ok refusal) t
  | raised {e : PyExc} {t : ModelWorld} (admitted : ¬Refused stack.prompt stack.lib request)
      (unasked : t.given = w.given) : CallEnd stack outside request w (.error e) t
  | failed {asked : ModelRequest} {e : PyExc} {t : ModelWorld} (admitted : ¬Refused stack.prompt stack.lib request)
      (guarded : Guarded stack outside request asked) (once : t.given = w.given ++ [asked])
      (failed : outside.model asked = .error e) : CallEnd stack outside request w (.error e) t
  | unreadable {asked : ModelRequest} {response : ModelResponse} {t : ModelWorld}
      (admitted : ¬Refused stack.prompt stack.lib request) (guarded : Guarded stack outside request asked)
      (once : t.given = w.given ++ [asked]) (responded : outside.model asked = .ok response) :
      CallEnd stack outside request w (.error joinError) t
  | leaked {asked : ModelRequest} {response : ModelResponse} {t : ModelWorld}
      (admitted : ¬Refused stack.prompt stack.lib request) (guarded : Guarded stack outside request asked)
      (once : t.given = w.given ++ [asked]) (responded : outside.model asked = .ok response)
      (leaks : stack.Leaks response) : CallEnd stack outside request w (.ok refusal) t
  | answered {asked : ModelRequest} {response : ModelResponse} {t : ModelWorld}
      (admitted : ¬Refused stack.prompt stack.lib request) (guarded : Guarded stack outside request asked)
      (once : t.given = w.given ++ [asked]) (responded : outside.model asked = .ok response)
      (tight : ¬stack.Leaks response) : CallEnd stack outside request w (.ok response) t

section

variable {stack : ModelStack} {outside : ModelSurroundings} {request asked : ModelRequest} {w t : ModelWorld}

theorem mem_inside {layer : ModelLayer} (member : layer ∈ stack.inside outside) :
    (∃ middleware, stack.memory = some middleware ∧ layer = middleware.layer outside) ∨
      (∃ middleware, stack.summary = some middleware ∧ layer = middleware.layer outside) ∨
      layer = SchemaGuidedReasoningMiddleware.layer stack.sgr ∨ layer = OneToolPerTurnMiddleware.layer := by
  rcases List.mem_append.mp member with memory | member
  · obtain ⟨middleware, given, rfl⟩ := List.mem_map.mp memory
    exact .inl ⟨middleware, Option.mem_toList.mp given, rfl⟩
  · rcases List.mem_append.mp member with summary | guard
    · obtain ⟨middleware, given, rfl⟩ := List.mem_map.mp summary
      exact .inr (.inl ⟨middleware, Option.mem_toList.mp given, rfl⟩)
    · unfold guards at guard
      split at guard
      · exact .inr (.inr (.inl (List.mem_singleton.mp guard)))
      · split at guard
        · exact .inr (.inr (.inr (List.mem_singleton.mp guard)))
        · cases guard

theorem inside_preparing : (Layer.stack (stack.inside outside)).Preparing := by
  apply Layer.preparing_stack
  intro layer member
  rcases mem_inside member with ⟨middleware, -, rfl⟩ | ⟨middleware, -, rfl⟩ | rfl | rfl
  all_goals exact preparing_asking _

theorem keeps_asking {P : ModelWorld → Prop} {prepare : ModelRequest → ModelEffect ModelRequest}
    (kept : ∀ request, Preserves P (prepare request)) : (asking prepare).Keeps P := by
  constructor
  · intro request
    simp only [asking, map_eq_pure_bind]
    exact Preserves.bind (kept request) fun _ => Preserves.pure _
  · intro answer
    exact Preserves.pure answer

theorem inside_keeps {P : ModelWorld → Prop} (stable : Stable stack.lib P) :
    (Layer.stack (stack.inside outside)).Keeps P := by
  apply Layer.keeps_stack
  intro layer member
  rcases mem_inside member with ⟨middleware, -, rfl⟩ | ⟨middleware, -, rfl⟩ | rfl | rfl
  · apply keeps_asking
    intro request
    refine Preserves.bind ?_ fun _ => Preserves.pure _
    unfold MemoryContextMiddleware.injectMemory
    split
    · exact Preserves.pure _
    · refine Preserves.bind (Preserves.resultOf _) fun entries => ?_
      refine Preserves.bind (Preserves.update fun w held => stable.loaded w _ held) fun _ => ?_
      split <;> exact Preserves.pure _
  · apply keeps_asking
    intro request
    refine Preserves.bind ?_ fun _ => Preserves.pure _
    refine Preserves.bind Preserves.get fun current => Preserves.bind (Preserves.resultOf _) fun made => ?_
    exact Preserves.bind (Preserves.update fun w held => stable.summarized w _ held) fun _ => Preserves.pure _
  · apply keeps_asking
    intro request
    exact Preserves.bind (Preserves.update fun w held => stable.turned w _ held) fun _ => Preserves.pure _
  · apply keeps_asking
    intro request
    exact Preserves.bind (Preserves.update fun w held => stable.turned w _ held) fun _ => Preserves.pure _

theorem asks_guards (asks : (Layer.stack stack.guards).Asks request w asked t) :
    asked = request ∨ asked = { request with messages := reasoningReminder :: request.messages } := by
  unfold guards at asks
  split at asks
  · obtain ⟨middle, u, first, last⟩ := Layer.asks_around.mp asks
    obtain ⟨rfl, rfl⟩ := Layer.asks_bare.mp last
    obtain ⟨done, v, -, handed⟩ := run_bind_ok.mp (asks_asking.mp first)
    cases handed
    unfold SchemaGuidedReasoningMiddleware.reminded
    split
    · exact .inr rfl
    · exact .inl rfl
  · split at asks
    · obtain ⟨middle, u, first, last⟩ := Layer.asks_around.mp asks
      obtain ⟨rfl, rfl⟩ := Layer.asks_bare.mp last
      obtain ⟨done, v, -, handed⟩ := run_bind_ok.mp (asks_asking.mp first)
      cases handed
      exact .inl rfl
    · exact .inl (Layer.asks_bare.mp asks).1

theorem asks_inside (asks : (Layer.stack (stack.inside outside)).Asks request w asked t) :
    asked.systemMessage = request.systemMessage ∧
      ∃ rest, (asked.messages = rest ∨ asked.messages = reasoningReminder :: rest) ∧ ∀ message ∈ rest,
        message ∈ request.messages ∨
        (∃ middleware entries, stack.memory = some middleware ∧ outside.queryInvestigation middleware.tenantId
          middleware.investigationId middleware.maxEntries = .ok entries ∧ message = middleware.memoryMessage entries) ∨
        ∃ summary, message = ContextSummaryMiddleware.summaryMessage summary := by
  obtain ⟨recalled, u, first, rest⟩ := Layer.asks_append.mp asks
  obtain ⟨summarized, v, second, third⟩ := Layer.asks_append.mp rest
  have recalls : recalled.systemMessage = request.systemMessage ∧ ∀ message ∈ recalled.messages,
      message ∈ request.messages ∨ ∃ middleware entries, stack.memory = some middleware ∧
        outside.queryInvestigation middleware.tenantId middleware.investigationId middleware.maxEntries = .ok entries ∧
        message = middleware.memoryMessage entries := by
    cases enabled : stack.memory with
    | none =>
      rw [enabled] at first
      obtain ⟨rfl, -⟩ := Layer.asks_bare.mp first
      exact ⟨rfl, fun message member => .inl member⟩
    | some middleware =>
      rw [enabled] at first
      obtain ⟨middle, x, only, last⟩ := Layer.asks_around.mp first
      obtain ⟨rfl, -⟩ := Layer.asks_bare.mp last
      obtain ⟨system, each⟩ := MemoryContextMiddleware.asks_layer only
      refine ⟨system, fun message member => ?_⟩
      rcases each message member with old | ⟨entries, queried, new⟩
      · exact .inl old
      · exact .inr ⟨middleware, entries, rfl, queried, new⟩
  have summarizes : summarized.systemMessage = recalled.systemMessage ∧ ∀ message ∈ summarized.messages,
      message ∈ recalled.messages ∨ ∃ summary, message = ContextSummaryMiddleware.summaryMessage summary := by
    cases enabled : stack.summary with
    | none =>
      rw [enabled] at second
      obtain ⟨rfl, -⟩ := Layer.asks_bare.mp second
      exact ⟨rfl, fun message member => .inl member⟩
    | some middleware =>
      rw [enabled] at second
      obtain ⟨middle, x, only, last⟩ := Layer.asks_around.mp second
      obtain ⟨rfl, -⟩ := Layer.asks_bare.mp last
      exact ContextSummaryMiddleware.asks_layer only
  have origins : ∀ message ∈ summarized.messages, message ∈ request.messages ∨
      (∃ middleware entries, stack.memory = some middleware ∧ outside.queryInvestigation middleware.tenantId
        middleware.investigationId middleware.maxEntries = .ok entries ∧ message = middleware.memoryMessage entries) ∨
      ∃ summary, message = ContextSummaryMiddleware.summaryMessage summary := by
    intro message member
    rcases summarizes.2 message member with old | new
    · rcases recalls.2 message old with older | memory
      · exact .inl older
      · exact .inr (.inl memory)
    · exact .inr (.inr new)
  rcases asks_guards third with rfl | rfl
  · exact ⟨summarizes.1.trans recalls.1, _, .inl rfl, origins⟩
  · exact ⟨summarizes.1.trans recalls.1, _, .inr rfl, origins⟩

theorem origin_of_sanitized {before message : AnyMessage} (listed : before ∈ request.messages)
    (done : stack.prompt.sanitized stack.lib before = .ok message) : Origin stack outside request message := by
  by_cases untrusted : Untrusted before
  · rw [sanitized_untrusted untrusted] at done
    obtain ⟨text, read, done⟩ := except_bind_ok.mp done
    unfold sanitizedText at done
    split at done
    · cases done
    · next soft =>
      obtain ⟨block, passed, done⟩ := except_bind_ok.mp done
      cases done
      exact .data listed untrusted read soft passed (stack.prompt.sanitizer.wrapped_of_sanitize passed)
  · have other := (sanitized_ok_iff.mp ⟨message, done⟩).1
    rw [sanitized_trusted other untrusted] at done
    cases done
    exact .kept listed other untrusted

theorem guarded_of_asks {messages : List AnyMessage} (matched : ¬Mismatched stack.prompt stack.lib request)
    (sanitized : request.messages.mapM (stack.prompt.sanitized stack.lib) = .ok messages)
    (asks : (Layer.stack (stack.inside outside)).Asks { request with messages } w asked t) :
    Guarded stack outside request asked := by
  obtain ⟨system, rest, shape, each⟩ := asks_inside asks
  refine ⟨system, matched, rest, shape, fun message member => ?_⟩
  rcases each message member with old | ⟨middleware, entries, enabled, queried, rfl⟩ | ⟨summary, rfl⟩
  · obtain ⟨before, listed, done⟩ := mem_of_mapM sanitized old
    exact origin_of_sanitized listed done
  · exact .memory enabled queried
  · exact .summary summary

theorem outcome_guardResponse (stack : ModelStack) (response : ModelResponse) (w : ModelWorld) :
    (outcome (stack.prompt.guardResponse stack.lib response) w = .error joinError) ∨
      (stack.Leaks response ∧ outcome (stack.prompt.guardResponse stack.lib response) w = .ok refusal) ∨
      (¬stack.Leaks response ∧ outcome (stack.prompt.guardResponse stack.lib response) w = .ok response) := by
  unfold guardResponse Leaks
  cases last : response.result.getLast? with
  | none => exact .inr (.inr ⟨by simp, rfl⟩)
  | some message =>
    dsimp only
    by_cases ai : message.type = "ai"
    · rw [if_pos ai, outcome_bind, outcome_resultOf]
      cases read : extractMessageContent stack.lib message.content with
      | error e => exact .inl (by rw [extractMessageContent_error read])
      | ok text =>
        dsimp only
        by_cases leaks : stack.prompt.detectPromptLeakage text = true
        · rw [if_pos leaks]
          exact .inr (.inl ⟨⟨message, rfl, ai, text, read, leaks⟩, rfl⟩)
        · rw [if_neg leaks]
          refine .inr (.inr ⟨?_, rfl⟩)
          rintro ⟨other, same, -, told, readable, matched⟩
          cases Option.mem_some_iff.mp same
          rw [read] at readable
          cases readable
          exact leaks matched
    · rw [if_neg ai]
      refine .inr (.inr ⟨?_, rfl⟩)
      rintro ⟨other, same, typed, -⟩
      cases Option.mem_some_iff.mp same
      exact ai typed

end

theorem awrapModelCall_parted (stack : ModelStack) (outside : ModelSurroundings) :
    stack.awrapModelCall outside =
      (stack.prompt.layer stack.lib).wrap ((Layer.stack (stack.inside outside)).wrap (callModel outside)) := by
  rw [awrapModelCall_eq]
  exact Layer.wrap_around _ _ _

theorem ends_of_asked {stack : ModelStack} {outside : ModelSurroundings} {request asked : ModelRequest} {w u : ModelWorld}
    (admitted : ¬Refused stack.prompt stack.lib request) (guarded : Guarded stack outside request asked)
    (unasked : u.given = w.given) :
    CallEnd stack outside request w (outcome (callModel outside asked >>= stack.prompt.guardResponse stack.lib) u)
      (final (callModel outside asked >>= stack.prompt.guardResponse stack.lib) u) := by
  have once : u.given ++ [asked] = w.given ++ [asked] := congrArg (· ++ [asked]) unasked
  cases responded : outside.model asked with
  | error e =>
    have called : callModel outside asked u = .error e { u with given := u.given ++ [asked] } := by
      simp only [callModel, run_bind, run_modify, responded]
      rfl
    simp only [outcome, final, run_bind, called]
    exact .failed admitted guarded once responded
  | ok response =>
    have called : callModel outside asked u = .ok response { u with given := u.given ++ [asked] } := by
      simp only [callModel, run_bind, run_modify, responded]
      rfl
    have passed : (callModel outside asked >>= stack.prompt.guardResponse stack.lib) u =
        stack.prompt.guardResponse stack.lib response { u with given := u.given ++ [asked] } := by
      rw [run_bind, called]
    have spares : Preserves (fun u => u.given = w.given ++ [asked]) (stack.prompt.guardResponse stack.lib response) :=
      preserves_guardResponse (stable_given stack.lib _) response
    have later := spares { u with given := u.given ++ [asked] } once
    rw [outcome, final, passed, ← outcome, ← final]
    rcases outcome_guardResponse stack response { u with given := u.given ++ [asked] } with
      unread | ⟨leaks, refused⟩ | ⟨tight, answered⟩
    · rw [unread]
      exact .unreadable admitted guarded later responded
    · rw [refused]
      exact .leaked admitted guarded later responded leaks
    · rw [answered]
      exact .answered admitted guarded later responded tight

theorem wrapped_ends (stack : ModelStack) (outside : ModelSurroundings) (request : ModelRequest) (w : ModelWorld) :
    CallEnd stack outside request w
      (outcome ((stack.prompt.layer stack.lib).wrap ((Layer.stack (stack.inside outside)).wrap (callModel outside))
        request) w)
      (final ((stack.prompt.layer stack.lib).wrap ((Layer.stack (stack.inside outside)).wrap (callModel outside))
        request) w) := by
  have spared : Preserves (fun u => u.given = w.given) ((stack.prompt.layer stack.lib).before request) :=
    (keeps_layer (stable_given stack.lib w.given)).before request
  have unasked := spared w rfl
  rcases before_cases stack.prompt stack.lib request w with
    ⟨refused, t, before, attempted⟩ | ⟨admitted, matched, messages, t, sanitized, before⟩ | ⟨admitted, e, t, before⟩
  · rw [final, before] at unasked
    simp only [outcome, final, Layer.run_wrap, before]
    exact .refused refused unasked attempted
  · rw [final, before] at unasked
    have wrapped : (stack.prompt.layer stack.lib).wrap ((Layer.stack (stack.inside outside)).wrap (callModel outside))
        request w = ((Layer.stack (stack.inside outside)).wrap (callModel outside) { request with messages } >>=
          stack.prompt.guardResponse stack.lib) t := by
      rw [Layer.run_wrap, before]
      rfl
    have inner : Preserves (fun u => u.given = w.given)
        ((Layer.stack (stack.inside outside)).before { request with messages }) :=
      (inside_keeps (stable_given stack.lib w.given)).before _
    have still := inner t unasked
    rcases inside_preparing.wrap_cases (callModel outside) { request with messages } t with
      ⟨e, u, failed, ended⟩ | ⟨asked, u, asks, ended⟩
    · rw [final, failed] at still
      rw [run_bind, ended] at wrapped
      simp only [outcome, final, wrapped]
      exact .raised admitted still
    · rw [final, show (Layer.stack (stack.inside outside)).before _ t = .ok (.inr asked) u from asks] at still
      rw [run_bind, ended, ← run_bind] at wrapped
      rw [outcome, final, wrapped, ← outcome, ← final]
      exact ends_of_asked admitted (guarded_of_asks matched sanitized asks) still
  · rw [final, before] at unasked
    simp only [outcome, final, Layer.run_wrap, before]
    exact .raised admitted unasked

/-- The model is asked at most once, and for nothing but a guarded request; a refused one never reaches it and leaves
    an attempt in the log; and no answer that leaks comes back. -/
theorem call_ends (stack : ModelStack) (outside : ModelSurroundings) (request : ModelRequest) (w : ModelWorld) :
    CallEnd stack outside request w (outcome (stack.awrapModelCall outside request) w)
      (final (stack.awrapModelCall outside request) w) := by
  rw [awrapModelCall_parted]
  exact wrapped_ends stack outside request w

theorem CallEnd.given {stack : ModelStack} {outside : ModelSurroundings} {request : ModelRequest} {w t : ModelWorld}
    {answer : Except PyExc ModelResponse} (ends : CallEnd stack outside request w answer t) :
    t.given = w.given ∨ ∃ asked, t.given = w.given ++ [asked] ∧ ¬Refused stack.prompt stack.lib request ∧
      Guarded stack outside request asked := by
  cases ends with
  | refused _ unasked _ => exact .inl unasked
  | raised _ unasked => exact .inl unasked
  | failed admitted guarded once _ => exact .inr ⟨_, once, admitted, guarded⟩
  | unreadable admitted guarded once _ => exact .inr ⟨_, once, admitted, guarded⟩
  | leaked admitted guarded once _ _ => exact .inr ⟨_, once, admitted, guarded⟩
  | answered admitted guarded once _ _ => exact .inr ⟨_, once, admitted, guarded⟩

def run (stack : ModelStack) (w : ModelWorld) (turns : List (ModelSurroundings × ModelRequest)) : ModelWorld :=
  turns.foldl (fun w turn => final (stack.awrapModelCall turn.1 turn.2) w) w

theorem given_run (stack : ModelStack) (turns : List (ModelSurroundings × ModelRequest)) (w : ModelWorld) :
    ∃ taken asked, taken.Sublist turns ∧ (stack.run w turns).given = w.given ++ asked ∧
      List.Forall₂ (fun turn asked => ¬Refused stack.prompt stack.lib turn.2 ∧ Guarded stack turn.1 turn.2 asked)
        taken asked := by
  induction turns generalizing w with
  | nil => exact ⟨[], [], .slnil, (List.append_nil _).symm, .nil⟩
  | cons turn rest ih =>
    obtain ⟨taken, later, part, given, guarded⟩ := ih (final (stack.awrapModelCall turn.1 turn.2) w)
    have ends := wrapped_ends stack turn.1 turn.2 w
    rw [← awrapModelCall_parted] at ends
    rcases ends.given with unasked | ⟨asked, once, admitted, own⟩
    · refine ⟨taken, later, part.cons turn, ?_, guarded⟩
      rw [← unasked]
      exact given
    · refine ⟨turn :: taken, asked :: later, part.cons_cons turn, ?_, .cons ⟨admitted, own⟩ guarded⟩
      rw [run, List.foldl_cons, ← List.singleton_append, ← List.append_assoc, ← once]
      exact given

/-- Whatever history, memory and answers a run meets, the model is given one guarded request at most in each turn, in
    the order of the turns, and none in a turn that is refused. -/
theorem model_given_only_guarded (stack : ModelStack) (monitor : AgentMonitor)
    (turns : List (ModelSurroundings × ModelRequest)) :
    ∃ taken, taken.Sublist turns ∧
      List.Forall₂ (fun turn asked => ¬Refused stack.prompt stack.lib turn.2 ∧ Guarded stack turn.1 turn.2 asked)
        taken (stack.run { monitor } turns).given := by
  obtain ⟨taken, asked, part, given, guarded⟩ := given_run stack turns { monitor }
  have all : (stack.run { monitor } turns).given = asked := given
  exact ⟨taken, part, all ▸ guarded⟩

end ModelStack

end CysAgi
