import CysAgi.Runtime.ModelCall

open Py Onion

namespace CysAgi

structure Stable (lib : ModelLibrary) (P : ModelWorld → Prop) : Prop where
  monitored : ∀ w call, P w → P { w with monitor := w.monitor.step lib.lower call }
  loaded : ∀ w count, P w → P { w with entriesLoaded := count }
  summarized : ∀ w summary, P w → P { w with lastSummary := summary }
  turned : ∀ w turn, P w → P { w with turn := turn }

theorem stable_given (lib : ModelLibrary) (given : List ModelRequest) : Stable lib fun w => w.given = given :=
  ⟨fun _ _ held => held, fun _ _ held => held, fun _ _ held => held, fun _ _ held => held⟩

theorem stable_logged (lib : ModelLibrary) (logged : List AgentSecurityEvent) :
    Stable lib fun w => logged <+: w.monitor.events :=
  ⟨fun w call held => held.trans (AgentMonitor.events_prefix_step lib.lower w.monitor call),
    fun _ _ held => held, fun _ _ held => held, fun _ _ held => held⟩

namespace PromptContextMiddleware

variable {middleware : PromptContextMiddleware} {lib : ModelLibrary}

def Untrusted (message : AnyMessage) : Prop := message.kind = .human ∨ ∃ call, message.kind = .tool call

section

variable (middleware lib)

def sanitizedText (message : AnyMessage) (text : String) : Except PyExc AnyMessage :=
  if middleware.sanitizer.classify text = .hard then
    .error (.securityViolation "Hard prompt injection in model context")
  else do
    let wrapped ← middleware.sanitizer.sanitize text (messageSource message text)
    return { message with content := .str wrapped }

def sanitized (message : AnyMessage) : Except PyExc AnyMessage :=
  match message.kind with
  | .system => .error (.securityViolation "System message injection in conversation history")
  | .human | .tool _ => do
    let text ← extractMessageContent lib message.content
    sanitizedText middleware message text
  | _ => .ok message

end

theorem outcome_sanitizeText (message : AnyMessage) (text : String) (w : ModelWorld) :
    outcome (middleware.sanitizeText lib message text) w = middleware.sanitizedText message text := by
  unfold sanitizeText sanitizedText
  by_cases hard : middleware.sanitizer.classify text = .hard
  · rw [if_pos hard, if_pos hard]
    rfl
  · rw [if_neg hard, if_neg hard]
    by_cases soft : middleware.sanitizer.classify text = .soft
    · rw [if_pos soft]
      simp only [outcome_bind]
      cases middleware.sanitizer.sanitize text (messageSource message text) <;> rfl
    · rw [if_neg soft]
      simp only [outcome_bind]
      cases middleware.sanitizer.sanitize text (messageSource message text) <;> rfl

theorem outcome_sanitizeMessage (message : AnyMessage) (w : ModelWorld) :
    outcome (middleware.sanitizeMessage lib message) w = middleware.sanitized lib message := by
  have read : outcome (resultOf (extractMessageContent lib message.content) >>=
      middleware.sanitizeText lib message) w =
        extractMessageContent lib message.content >>= middleware.sanitizedText message := by
    rw [outcome_bind, outcome_resultOf]
    cases extractMessageContent lib message.content with
    | error e => rfl
    | ok text => exact outcome_sanitizeText message text _
  unfold sanitizeMessage sanitized
  cases message.kind with
  | system => rfl
  | human => exact read
  | tool call => exact read
  | ai calls => rfl
  | chat role => rfl
  | function => rfl

variable (middleware lib) in
theorem outcome_sanitizeMessages (messages : List AnyMessage) (w : ModelWorld) :
    outcome (middleware.sanitizeMessages lib messages) w = messages.mapM (middleware.sanitized lib) := by
  induction messages generalizing w with
  | nil => rfl
  | cons message rest ih =>
    rw [sanitizeMessages, outcome_bind, outcome_sanitizeMessage, List.mapM_cons]
    cases middleware.sanitized lib message with
    | error e => rfl
    | ok first =>
      dsimp only
      rw [outcome_bind, ih]
      cases rest.mapM (middleware.sanitized lib) <;> rfl

section

variable {P : ModelWorld → Prop}

theorem preserves_monitored (stable : Stable lib P) (call : Readings → MonitorCall) : Preserves P (monitored lib call) :=
  Preserves.update fun w held => stable.monitored w _ held

theorem preserves_sanitizeText (stable : Stable lib P) (message : AnyMessage) (text : String) :
    Preserves P (middleware.sanitizeText lib message text) := by
  have recorded := preserves_monitored stable
  unfold sanitizeText
  dsimp only
  split
  · exact Preserves.bind (recorded _) fun _ => Preserves.throw _
  · split
    · exact Preserves.bind (recorded _) fun _ => Preserves.bind (Preserves.resultOf _) fun _ => Preserves.pure _
    · exact Preserves.bind (Preserves.resultOf _) fun _ => Preserves.pure _

theorem preserves_sanitizeMessage (stable : Stable lib P) (message : AnyMessage) : Preserves P (middleware.sanitizeMessage lib message) := by
  have read : Preserves P (resultOf (extractMessageContent lib message.content) >>=
      middleware.sanitizeText lib message) :=
    Preserves.bind (Preserves.resultOf _) fun text => preserves_sanitizeText stable message text
  unfold sanitizeMessage
  cases message.kind with
  | system => exact Preserves.bind (preserves_monitored stable _) fun _ => Preserves.throw _
  | human => exact read
  | tool call => exact read
  | ai calls => exact Preserves.pure _
  | chat role => exact Preserves.pure _
  | function => exact Preserves.pure _

theorem preserves_sanitizeMessages (stable : Stable lib P) (messages : List AnyMessage) :
    Preserves P (middleware.sanitizeMessages lib messages) := by
  induction messages with
  | nil => exact Preserves.pure _
  | cons message rest ih =>
    exact Preserves.bind (preserves_sanitizeMessage stable message) fun _ => Preserves.bind ih fun _ => Preserves.pure _

theorem preserves_orRefused {messages : ModelEffect (List AnyMessage)} (kept : Preserves P messages) :
    Preserves P (orRefused messages) := by
  refine Preserves.tryCatch ?_ fun raised => ?_
  · rw [map_eq_pure_bind]
    exact Preserves.bind kept fun _ => Preserves.pure _
  · cases raised <;> first | exact Preserves.pure _ | exact Preserves.throw _

theorem preserves_validateSystemContext (stable : Stable lib P) (request : ModelRequest) :
    Preserves P (middleware.validateSystemContext lib request) := by
  unfold validateSystemContext
  dsimp only
  refine Preserves.bind ?_ fun _ => Preserves.pure _
  exact (Preserves.compositional P).loop fun _ _ => preserves_monitored stable _

theorem preserves_guardResponse (stable : Stable lib P) (response : ModelResponse) :
    Preserves P (middleware.guardResponse lib response) := by
  unfold guardResponse
  cases response.result.getLast? with
  | none => exact Preserves.pure _
  | some last =>
    dsimp only
    split
    · refine Preserves.bind (Preserves.resultOf _) fun text => ?_
      split
      · exact Preserves.bind (preserves_monitored stable _) fun _ => Preserves.pure _
      · exact Preserves.pure _
    · exact Preserves.pure _

theorem keeps_layer (stable : Stable lib P) : (middleware.layer lib).Keeps P := by
  constructor
  · intro request
    refine Preserves.bind (preserves_validateSystemContext stable request) fun violation => ?_
    cases violation with
    | some text => exact Preserves.pure _
    | none =>
      refine Preserves.bind (preserves_orRefused (preserves_sanitizeMessages stable _)) fun sanitized => ?_
      cases sanitized with
      | none => exact Preserves.pure _
      | some messages => exact Preserves.pure _
  · exact preserves_guardResponse stable

end

section

variable (middleware lib)

def Barred (message : AnyMessage) : Prop :=
  message.kind = .system ∨ Untrusted message ∧ ∃ text, extractMessageContent lib message.content = .ok text ∧
    middleware.sanitizer.classify text = .hard

def Passes (message : AnyMessage) : Prop :=
  message.kind ≠ .system ∧ (Untrusted message → ∃ text, extractMessageContent lib message.content = .ok text ∧
    middleware.sanitizer.classify text ≠ .hard)

def Mismatched (request : ModelRequest) : Prop :=
  ∃ text, request.systemMessage = some text ∧ middleware.systemPromptDigest ≠ "" ∧
    lib.sha256Hex text ≠ middleware.systemPromptDigest

/-- The system prompt is not the approved one, or the first message that does not pass is barred. -/
def Refused (request : ModelRequest) : Prop :=
  Mismatched middleware lib request ∨ ∃ before message after, request.messages = before ++ message :: after ∧
    (∀ earlier ∈ before, Passes middleware lib earlier) ∧ Barred middleware lib message

end

theorem extractMessageContent_error {content : Json} {e : PyExc} (failed : extractMessageContent lib content = .error e) :
    e = joinError := by
  have each : ∀ block e, blockText lib block = .error e → e = joinError := by
    intro block e failed
    unfold blockText at failed
    cases block with
    | obj fields =>
      dsimp only at failed
      split at failed
      · cases failed
      · exact (Except.error.inj failed).symm
    | _ => cases failed
  unfold extractMessageContent at failed
  cases content with
  | arr blocks => exact mapM_raises each blocks e (except_map_error.mp failed)
  | _ => cases failed

theorem sanitizedText_ok (message : AnyMessage) {text : String} (open' : middleware.sanitizer.classify text ≠ .hard) :
    ∃ block, middleware.sanitizer.sanitize text (messageSource message text) = .ok block ∧
      middleware.sanitizedText message text = .ok { message with content := .str block } := by
  cases passed : middleware.sanitizer.sanitize text (messageSource message text) with
  | ok block => exact ⟨block, rfl, by simp [sanitizedText, open', passed]⟩
  | error e =>
    have raised := (middleware.sanitizer.sanitize_raises_iff text (messageSource message text)).mp ⟨e, passed⟩
    exact absurd raised.2 open'

theorem Untrusted.not_system {message : AnyMessage} (untrusted : Untrusted message) : message.kind ≠ .system := by
  intro system
  rcases untrusted with human | ⟨call, tool⟩
  · rw [system] at human
    cases human
  · rw [system] at tool
    cases tool

theorem sanitized_untrusted {message : AnyMessage} (untrusted : Untrusted message) :
    middleware.sanitized lib message =
      extractMessageContent lib message.content >>= middleware.sanitizedText message := by
  unfold sanitized
  rcases untrusted with human | ⟨call, tool⟩
  · rw [human]
  · rw [tool]

theorem sanitized_trusted {message : AnyMessage} (other : message.kind ≠ .system) (trusted : ¬Untrusted message) :
    middleware.sanitized lib message = .ok message := by
  unfold sanitized
  cases kind : message.kind with
  | system => exact absurd kind other
  | human => exact absurd (.inl kind) trusted
  | tool call => exact absurd (.inr ⟨call, kind⟩) trusted
  | ai calls => rfl
  | chat role => rfl
  | function => rfl

theorem sanitized_ok_iff {message : AnyMessage} :
    (∃ kept, middleware.sanitized lib message = .ok kept) ↔ Passes middleware lib message := by
  by_cases untrusted : Untrusted message
  · rw [sanitized_untrusted untrusted]
    constructor
    · rintro ⟨kept, done⟩
      obtain ⟨text, read, done⟩ := except_bind_ok.mp done
      refine ⟨untrusted.not_system, fun _ => ⟨text, read, ?_⟩⟩
      intro hard
      rw [sanitizedText, if_pos hard] at done
      cases done
    · intro passes
      obtain ⟨text, read, soft⟩ := passes.2 untrusted
      obtain ⟨block, -, done⟩ := sanitizedText_ok message soft
      exact ⟨_, except_bind_ok.mpr ⟨text, read, done⟩⟩
  · constructor
    · rintro ⟨kept, done⟩
      refine ⟨?_, fun given => absurd given untrusted⟩
      intro system
      rw [sanitized, system] at done
      cases done
    · intro passes
      exact ⟨message, sanitized_trusted passes.1 untrusted⟩

theorem sanitized_barred_iff {message : AnyMessage} :
    (∃ why, middleware.sanitized lib message = .error (.securityViolation why)) ↔ Barred middleware lib message := by
  by_cases untrusted : Untrusted message
  · rw [sanitized_untrusted untrusted]
    constructor
    · rintro ⟨why, raised⟩
      rcases except_bind_error.mp raised with failed | ⟨text, read, failed⟩
      · cases extractMessageContent_error failed
      · refine .inr ⟨untrusted, text, read, ?_⟩
        by_contra soft
        obtain ⟨block, -, done⟩ := sanitizedText_ok message soft
        rw [done] at failed
        cases failed
    · rintro (system | ⟨-, text, read, hard⟩)
      · exact absurd system untrusted.not_system
      · have raised : middleware.sanitizedText message text =
            .error (.securityViolation "Hard prompt injection in model context") := if_pos hard
        exact ⟨_, except_bind_error.mpr (.inr ⟨text, read, raised⟩)⟩
  · constructor
    · rintro ⟨why, raised⟩
      refine .inl ?_
      by_contra other
      rw [sanitized_trusted other untrusted] at raised
      cases raised
    · rintro (system | ⟨given, -⟩)
      · exact ⟨_, by rw [sanitized, system]⟩
      · exact absurd given untrusted

variable (middleware) in
def Attempted (w t : ModelWorld) : Prop :=
  ∃ earlier event later, t.monitor.events = w.monitor.events ++ earlier ++ event :: later ∧
    event.eventType = "injection_attempt" ∧ event.sessionId = middleware.sessionId ∧
    JsonDict.get? event.details "verdict" = some (.str "hard")

theorem Attempted.after {w u t : ModelWorld} (grown : w.monitor.events <+: u.monitor.events)
    (attempted : Attempted middleware u t) : Attempted middleware w t := by
  obtain ⟨first, grown⟩ := grown
  obtain ⟨earlier, event, later, logged, event_type⟩ := attempted
  refine ⟨first ++ earlier, event, later, ?_, event_type⟩
  rw [logged, ← grown, List.append_assoc w.monitor.events]

variable (middleware lib) in
theorem run_recordInjectionAttempt {details : JsonDict}
    (kept : JsonDict.get? (JsonDict.update [("verdict", .str "hard")] details) "verdict" = some (.str "hard"))
    (w : ModelWorld) :
    ∃ t, middleware.recordInjectionAttempt lib "hard" details w = .ok () t ∧ Attempted middleware w t := by
  obtain ⟨event, later, logged, type, session, told⟩ := AgentMonitor.events_injectionAttempt lib.lower w.monitor
    middleware.sessionId "hard" "system" details (lib.now w.monitor.events.length)
  rw [← told] at kept
  refine ⟨_, rfl, [], event, later, ?_, type, session, kept⟩
  rw [List.append_nil]
  exact logged

theorem run_sanitizeMessage_barred {message : AnyMessage} (barred : Barred middleware lib message) (w : ModelWorld) :
    ∃ why t, middleware.sanitizeMessage lib message w = .error (.securityViolation why) t ∧
      Attempted middleware w t := by
  rcases barred with system | ⟨untrusted, text, read, hard⟩
  · have told : JsonDict.get? (JsonDict.update [("verdict", .str "hard")]
        [("reason", .str "fake_system_message_in_history")]) "verdict" = some (.str "hard") := rfl
    obtain ⟨t, ran, attempted⟩ := run_recordInjectionAttempt middleware lib told w
    refine ⟨"System message injection in conversation history", t, ?_, attempted⟩
    rw [sanitizeMessage, system]
    simp only [run_bind, InjectionVerdict.value, ran]
    rfl
  · have told : JsonDict.get? (JsonDict.update [("verdict", .str "hard")] [("reason", .str "hard_injection_in_message"),
        ("source", .str (messageSource message text).text)]) "verdict" = some (.str "hard") := rfl
    obtain ⟨t, ran, attempted⟩ := run_recordInjectionAttempt middleware lib told w
    have stopped : middleware.sanitizeText lib message text w =
        .error (.securityViolation "Hard prompt injection in model context") t := by
      rw [sanitizeText, if_pos hard]
      simp only [run_bind, InjectionVerdict.value, ran]
      rfl
    refine ⟨"Hard prompt injection in model context", t, ?_, attempted⟩
    have loaded : (resultOf (extractMessageContent lib message.content) >>= middleware.sanitizeText lib message) w =
        .error (.securityViolation "Hard prompt injection in model context") t := by
      rw [read, run_bind]
      exact stopped
    unfold sanitizeMessage
    rcases untrusted with human | ⟨call, tool⟩
    · rw [human]
      exact loaded
    · rw [tool]
      exact loaded

theorem run_sanitizeMessages_barred {before : List AnyMessage} {message : AnyMessage} (after : List AnyMessage)
    (passes : ∀ earlier ∈ before, Passes middleware lib earlier) (barred : Barred middleware lib message)
    (w : ModelWorld) :
    ∃ why t, middleware.sanitizeMessages lib (before ++ message :: after) w = .error (.securityViolation why) t ∧
      Attempted middleware w t := by
  induction before generalizing w with
  | nil =>
    obtain ⟨why, t, ran, attempted⟩ := run_sanitizeMessage_barred barred w
    refine ⟨why, t, ?_, attempted⟩
    rw [List.nil_append, sanitizeMessages, run_bind, ran]
  | cons first rest ih =>
    obtain ⟨passed, others⟩ := List.forall_mem_cons.mp passes
    obtain ⟨kept, done⟩ := sanitized_ok_iff.mpr passed
    have grown : w.monitor.events <+: (final (middleware.sanitizeMessage lib first) w).monitor.events :=
      preserves_sanitizeMessage (stable_logged lib w.monitor.events) first w List.prefix_rfl
    rcases run_cases (middleware.sanitizeMessage lib first) w with ⟨a, ran, -⟩ | ⟨e, -, failed⟩
    · obtain ⟨why, t, later, attempted⟩ := ih others (final (middleware.sanitizeMessage lib first) w)
      refine ⟨why, t, ?_, attempted.after grown⟩
      rw [List.cons_append, sanitizeMessages, run_bind, ran]
      dsimp only
      rw [run_bind, later]
    · rw [outcome_sanitizeMessage, done] at failed
      cases failed

variable (middleware lib) in
theorem run_validateSystemContext (request : ModelRequest) (w : ModelWorld) :
    (Mismatched middleware lib request → ∃ t,
      middleware.validateSystemContext lib request w = .ok (some Catalog.refusalMessage) t ∧ Attempted middleware w t) ∧
    (¬Mismatched middleware lib request → middleware.validateSystemContext lib request w = .ok none w) := by
  unfold validateSystemContext Catalog.PromptContextMiddleware.validateSystemContext
  cases given : request.systemMessage with
  | none => exact ⟨fun ⟨text, stated, _⟩ => by simp [given] at stated, fun _ => rfl⟩
  | some text =>
    dsimp only
    by_cases unset : middleware.systemPromptDigest = ""
    · rw [if_pos unset]
      exact ⟨fun ⟨_, _, set, _⟩ => absurd unset set, fun _ => rfl⟩
    · rw [if_neg unset]
      by_cases other : lib.sha256Hex text ≠ middleware.systemPromptDigest
      · rw [if_pos other]
        refine ⟨fun _ => ?_, fun fine => absurd ⟨text, given, unset, other⟩ fine⟩
        have told : JsonDict.get? (JsonDict.update [("verdict", .str "hard")]
          [("reason", .str "system_prompt_digest_mismatch")]) "verdict" = some (.str "hard") := rfl
        obtain ⟨t, ran, attempted⟩ := run_recordInjectionAttempt middleware lib told w
        exact ⟨t, by simp [run_bind, ran], attempted⟩
      · rw [if_neg other]
        refine ⟨fun ⟨text', stated, _, differs⟩ => ?_, fun _ => rfl⟩
        rw [given] at stated
        cases stated
        exact absurd differs other

theorem orRefused_ok {messages : ModelEffect (List AnyMessage)} {kept : List AnyMessage} {w t : ModelWorld}
    (ran : messages w = .ok kept t) : orRefused messages w = .ok (some kept) t := by
  rw [orRefused, run_tryCatch, map_eq_pure_bind, run_bind, ran]
  rfl

theorem orRefused_error {messages : ModelEffect (List AnyMessage)} {e : PyExc} {w t : ModelWorld}
    (ran : messages w = .error e t) (other : ∀ why, e ≠ .securityViolation why) :
    orRefused messages w = .error e t := by
  rw [orRefused, run_tryCatch, map_eq_pure_bind, run_bind, ran]
  cases e with
  | securityViolation why => exact absurd rfl (other why)
  | _ => rfl

theorem orRefused_security {messages : ModelEffect (List AnyMessage)} {why : String} {w t : ModelWorld}
    (ran : messages w = .error (.securityViolation why) t) : orRefused messages w = .ok none t := by
  rw [orRefused, run_tryCatch, map_eq_pure_bind, run_bind, ran]
  rfl

theorem not_refused_of_sanitized {request : ModelRequest} (matched : ¬Mismatched middleware lib request)
    (unbarred : ∀ why, request.messages.mapM (middleware.sanitized lib) ≠ .error (.securityViolation why)) :
    ¬Refused middleware lib request := by
  rintro (mismatched | ⟨before, message, after, split, passes, barred⟩)
  · exact matched mismatched
  · obtain ⟨why, raised⟩ := sanitized_barred_iff.mpr barred
    have all : ∀ earlier ∈ before, ∃ kept, middleware.sanitized lib earlier = .ok kept :=
      fun earlier member => sanitized_ok_iff.mpr (passes earlier member)
    exact unbarred why (mapM_error_iff.mpr ⟨before, message, after, split, all, raised⟩)

variable (middleware lib) in
theorem before_cases (request : ModelRequest) (w : ModelWorld) :
    (Refused middleware lib request ∧ ∃ t, (middleware.layer lib).before request w = .ok (.inl refusal) t ∧
      Attempted middleware w t) ∨
    (¬Refused middleware lib request ∧ ¬Mismatched middleware lib request ∧
      ∃ messages t, request.messages.mapM (middleware.sanitized lib) = .ok messages ∧
        (middleware.layer lib).before request w = .ok (.inr { request with messages }) t) ∨
    (¬Refused middleware lib request ∧ ∃ e t, (middleware.layer lib).before request w = .error e t) := by
  obtain ⟨stopped, passed⟩ := run_validateSystemContext middleware lib request w
  by_cases mismatched : Mismatched middleware lib request
  · obtain ⟨t, ran, attempted⟩ := stopped mismatched
    refine .inl ⟨.inl mismatched, t, ?_, attempted⟩
    simp only [layer, run_bind, ran]
    rfl
  · have ran := passed mismatched
    have outcomes := outcome_sanitizeMessages middleware lib request.messages w
    cases sanitizing : request.messages.mapM (middleware.sanitized lib) with
    | ok messages =>
      have open' : ¬Refused middleware lib request :=
        not_refused_of_sanitized mismatched fun why same => by
          rw [sanitizing] at same
          cases same
      refine .inr (.inl ⟨open', mismatched, messages, final (middleware.sanitizeMessages lib request.messages) w, rfl, ?_⟩)
      have kept : middleware.sanitizeMessages lib request.messages w =
          .ok messages (final (middleware.sanitizeMessages lib request.messages) w) :=
        run_of_outcome_ok (outcomes.trans sanitizing)
      simp only [layer, run_bind, ran, orRefused_ok kept]
      rfl
    | error e =>
      by_cases security : ∃ why, e = .securityViolation why
      · obtain ⟨why, rfl⟩ := security
        obtain ⟨before, message, after, split, all, raised⟩ := mapM_error_iff.mp sanitizing
        have passes : ∀ earlier ∈ before, Passes middleware lib earlier :=
          fun earlier member => sanitized_ok_iff.mp (all earlier member)
        have barred := sanitized_barred_iff.mp ⟨why, raised⟩
        obtain ⟨told, t, failed, attempted⟩ := run_sanitizeMessages_barred after passes barred w
        rw [← split] at failed
        refine .inl ⟨.inr ⟨before, message, after, split, passes, barred⟩, t, ?_, attempted⟩
        simp only [layer, run_bind, ran, orRefused_security failed]
        rfl
      · have other : ∀ why, e ≠ .securityViolation why := fun why same => security ⟨why, same⟩
        have open' : ¬Refused middleware lib request :=
          not_refused_of_sanitized mismatched fun why same => by
            rw [sanitizing] at same
            exact other why (Except.error.inj same)
        refine .inr (.inr ⟨open', e, final (middleware.sanitizeMessages lib request.messages) w, ?_⟩)
        have failed : middleware.sanitizeMessages lib request.messages w =
            .error e (final (middleware.sanitizeMessages lib request.messages) w) :=
          run_of_outcome_error (outcomes.trans sanitizing)
        simp only [layer, run_bind, ran, orRefused_error failed other]

end PromptContextMiddleware

end CysAgi
