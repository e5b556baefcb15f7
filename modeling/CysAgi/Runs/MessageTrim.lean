import CysAgi.Base.Dropping
import CysAgi.Base.Effect
import CysAgi.Base.Json
import CysAgi.Workers.Models

namespace CysAgi

open Py Dropping

/-- The classes of `AnyMessage`, with the tool calls that an AI message makes, the one that a tool message answers and
    the role of a chat message. -/
inductive MessageKind where
  | ai (toolCalls : List String)
  | tool (toolCallId : String)
  | human
  | system
  | chat (role : String)
  | function
  deriving DecidableEq

structure AnyMessage where
  kind : MessageKind
  content : Json
  deriving DecidableEq

namespace AnyMessage

def type (message : AnyMessage) : String :=
  match message.kind with
  | .ai _ => "ai"
  | .tool _ => "tool"
  | .human => "human"
  | .system => "system"
  | .chat _ => "chat"
  | .function => "function"

def role (message : AnyMessage) : String :=
  match message.kind with
  | .chat role => role
  | _ => ""

/-- `isinstance(message, ToolMessage)`. -/
def isTool (message : AnyMessage) : Bool :=
  match message.kind with
  | .tool _ => true
  | _ => false

def isSystem (message : AnyMessage) : Bool := message.type = "system" || message.role = "system"

def toolCalls (message : AnyMessage) : List String :=
  match message.kind with
  | .ai toolCalls => toolCalls
  | _ => []

def Answers (message : AnyMessage) (call : String) : Prop := message.kind = .tool call

/-- A list with a `tool_result` block in it. -/
def hasToolResult (message : AnyMessage) : Bool :=
  match message.content with
  | .arr blocks => blocks.any fun block =>
    match block with
    | .obj fields => JsonDict.get? fields "type" = some (.str "tool_result")
    | _ => false
  | _ => false

end AnyMessage

open AnyMessage

def healOrphanedToolMessages : List AnyMessage → List AnyMessage
  | [] => []
  | first :: rest =>
    if first.isTool then healOrphanedToolMessages rest
    else
      let role := if first.type = "" then first.role else first.type
      if role = "tool" then healOrphanedToolMessages rest
      else if role = "user" ∧ first.hasToolResult then healOrphanedToolMessages rest
      else first :: rest

def trimToolResults (messages : List AnyMessage) (keep : Int := 3) : List AnyMessage :=
  if keep ≤ 0 then messages
  else
    let toolIndices := places isTool 0 messages
    if (toolIndices.length : Int) ≤ keep then messages
    else
      let drop := toolIndices.take (toolIndices.length - keep.toNat)
      healOrphanedToolMessages (((messages.zipIdx 0).filter fun entry => entry.2 ∉ drop).map Prod.fst)

structure ContextSummaryMiddleware where
  /-- `summarizer.summarize` of a goal, the messages' text and the summary before. -/
  summarize : String → String → String → Except PyExc String
  /-- `str` of a content. -/
  str : Json → String
  goal : String := ""
  maxMessages : Int
  keepToolResults : Int
  lastSummary : String := ""

namespace ContextSummaryMiddleware

def new (summarize : String → String → String → Except PyExc String) (str : Json → String) (goal : String)
    (maxMessages keepToolResults : Option Int) (defaultMaxMessages defaultKeep : Int) : ContextSummaryMiddleware :=
  { summarize, str, goal
    maxMessages := match maxMessages with
      | none => defaultMaxMessages
      | some maxMessages => if maxMessages = 0 then defaultMaxMessages else maxMessages
    keepToolResults := keepToolResults.getD defaultKeep }

def lastOthers (maxMessages : Int) (system other : List AnyMessage) : List AnyMessage :=
  other.drop (other.length - (max 1 (maxMessages - system.length)).toNat)

def trimMessages (middleware : ContextSummaryMiddleware) (messages : List AnyMessage) : List AnyMessage :=
  let trimmedTools := trimToolResults messages middleware.keepToolResults
  if (trimmedTools.length : Int) ≤ middleware.maxMessages then healOrphanedToolMessages trimmedTools
  else
    let system := trimmedTools.filter isSystem
    let other := trimmedTools.filter fun message => message ∉ system
    system ++ healOrphanedToolMessages (lastOthers middleware.maxMessages system other)

def summaryMessage (summary : String) : AnyMessage :=
  { kind := .ai [], content := .str ("[Context summary]\n" ++ summary) }

def maybeSummarize (middleware : ContextSummaryMiddleware) (messages : List AnyMessage) :
    Except PyExc (List AnyMessage × String) :=
  let trimmed := middleware.trimMessages messages
  if (trimmed.length : Int) ≤ middleware.maxMessages then .ok (trimmed, middleware.lastSummary)
  else do
    let combined := "\n".intercalate (trimmed.map fun message => middleware.str message.content)
    let summary ← middleware.summarize middleware.goal combined middleware.lastSummary
    let head := trimmed.head?.getD (summaryMessage summary)
    let tail := if 1 < trimmed.length then trimmed.getLast?.getD (summaryMessage summary) else summaryMessage summary
    .ok (healOrphanedToolMessages [head, summaryMessage summary, tail], summary)

end ContextSummaryMiddleware

/-- Each tool result answers a call of an AI message before it, and each call is answered before the next message that
    is no tool result. -/
structure WellFormed (history : List AnyMessage) : Prop where
  called : ∀ before message behind, history = before ++ message :: behind → ∀ call, message.Answers call →
    ∃ caller ∈ before, call ∈ caller.toolCalls
  answered : ∀ before message behind, history = before ++ message :: behind → ∀ call ∈ message.toolCalls,
    ∃ answer ∈ behind.takeWhile isTool, answer.Answers call

namespace AnyMessage

variable {message : AnyMessage} {call : String}

theorem isTool_iff : message.isTool = true ↔ ∃ call, message.Answers call := by
  unfold isTool Answers
  cases message.kind <;> simp

theorem Answers.isTool (answers : message.Answers call) : message.isTool = true := isTool_iff.mpr ⟨call, answers⟩

theorem toolCalls_of_isTool (tool : message.isTool = true) : message.toolCalls = [] := by
  unfold AnyMessage.isTool at tool
  unfold toolCalls
  cases kind : message.kind <;> simp_all

theorem not_isTool_of_called (asked : call ∈ message.toolCalls) : message.isTool = false := by
  by_contra tool
  rw [toolCalls_of_isTool (by simpa using tool)] at asked
  cases asked

theorem toolCalls_of_isSystem (system : message.isSystem = true) : message.toolCalls = [] := by
  unfold isSystem type role at system
  unfold toolCalls
  cases kind : message.kind <;> simp_all

theorem not_isTool_of_isSystem (system : message.isSystem = true) : message.isTool = false := by
  unfold isSystem type role at system
  unfold AnyMessage.isTool
  cases kind : message.kind <;> simp_all

end AnyMessage

theorem healOrphanedToolMessages_eq (messages : List AnyMessage) :
    healOrphanedToolMessages messages = messages.dropWhile isTool := by
  induction messages with
  | nil => rfl
  | cons first rest ih =>
    unfold healOrphanedToolMessages
    by_cases tool : first.isTool = true
    · rw [if_pos tool, ih, List.dropWhile_cons_of_pos tool]
    · rw [if_neg tool, List.dropWhile_cons_of_neg tool]
      unfold AnyMessage.isTool at tool
      cases kind : first.kind <;> simp_all [AnyMessage.type]

namespace WellFormed

variable {history : List AnyMessage}

theorem head (wellFormed : WellFormed history) : ∀ first ∈ history.head?, first.isTool = false := by
  cases history with
  | nil => nofun
  | cons first rest =>
    intro message member
    cases member
    by_contra tool
    obtain ⟨call, answers⟩ := isTool_iff.mp (by simpa using tool)
    obtain ⟨caller, before, -⟩ := wellFormed.called [] first rest rfl call answers
    cases before

theorem healed (wellFormed : WellFormed history) : healOrphanedToolMessages history = history := by
  rw [healOrphanedToolMessages_eq]
  have head := wellFormed.head
  cases history with
  | nil => rfl
  | cons first rest =>
    rw [List.dropWhile_cons_of_neg]
    simpa using head first rfl

theorem of_plain (plain : ∀ message ∈ history, message.isTool = false ∧ message.toolCalls = []) :
    WellFormed history := by
  constructor
  · intro before message behind split call answers
    have none := (plain message (by rw [split]; simp)).1
    rw [answers.isTool] at none
    cases none
  · intro before message behind split call asked
    rw [(plain message (by rw [split]; simp)).2] at asked
    cases asked

end WellFormed

def wellFormedAfter (calls : List String) : List AnyMessage → Bool
  | [] => true
  | message :: rest =>
    (match message.kind with
      | .tool call => calls.contains call
      | _ => true) &&
    message.toolCalls.all (fun call => (rest.takeWhile isTool).any fun answer => answer.kind = .tool call) &&
    wellFormedAfter (calls ++ message.toolCalls) rest

theorem wellFormedAfter_iff (calls : List String) (history : List AnyMessage) :
    wellFormedAfter calls history = true ↔
      (∀ before message behind, history = before ++ message :: behind → ∀ call, message.Answers call →
        call ∈ calls ∨ ∃ caller ∈ before, call ∈ caller.toolCalls) ∧
      (∀ before message behind, history = before ++ message :: behind → ∀ call ∈ message.toolCalls,
        ∃ answer ∈ behind.takeWhile isTool, answer.Answers call) := by
  induction history generalizing calls with
  | nil => simp [wellFormedAfter]
  | cons first rest ih =>
    have answered : (match first.kind with
        | .tool call => calls.contains call
        | _ => true) = true ↔ ∀ call, first.Answers call → call ∈ calls := by
      unfold Answers
      cases first.kind <;> simp
    have called : first.toolCalls.all (fun call => (rest.takeWhile isTool).any fun answer => answer.kind = .tool call) =
        true ↔ ∀ call ∈ first.toolCalls, ∃ answer ∈ rest.takeWhile isTool, answer.Answers call := by
      simp [Answers]
    rw [wellFormedAfter, Bool.and_eq_true, Bool.and_eq_true, answered, called, ih]
    constructor
    · rintro ⟨⟨front, frontCalls⟩, later, laterCalls⟩
      constructor
      · intro before message behind split call answers
        cases before with
        | nil =>
          cases split
          exact .inl (front call answers)
        | cons other before =>
          cases split
          rcases later before message behind rfl call answers with known | ⟨caller, listed, asked⟩
          · rcases List.mem_append.mp known with early | own
            · exact .inl early
            · exact .inr ⟨first, List.mem_cons_self, own⟩
          · exact .inr ⟨caller, List.mem_cons_of_mem _ listed, asked⟩
      · intro before message behind split
        cases before with
        | nil =>
          cases split
          exact frontCalls
        | cons other before =>
          cases split
          exact laterCalls before message behind rfl
    · rintro ⟨all, allCalls⟩
      refine ⟨⟨?_, allCalls [] first rest rfl⟩, ?_, ?_⟩
      · intro call answers
        rcases all [] first rest rfl call answers with known | ⟨caller, none, -⟩
        · exact known
        · cases none
      · intro before message behind split call answers
        rcases all (first :: before) message behind (by rw [split]; rfl) call answers with
            known | ⟨caller, listed, asked⟩
        · exact .inl (List.mem_append_left _ known)
        · rcases List.mem_cons.mp listed with rfl | later
          · exact .inl (List.mem_append_right _ asked)
          · exact .inr ⟨caller, later, asked⟩
      · intro before message behind split
        exact allCalls (first :: before) message behind (by rw [split]; rfl)

theorem wellFormed_iff (history : List AnyMessage) : WellFormed history ↔ wellFormedAfter [] history = true := by
  rw [wellFormedAfter_iff]
  simp only [List.not_mem_nil, false_or]
  exact ⟨fun wellFormed => ⟨wellFormed.called, wellFormed.answered⟩, fun both => ⟨both.1, both.2⟩⟩

instance (history : List AnyMessage) : Decidable (WellFormed history) :=
  decidable_of_iff _ (wellFormed_iff history).symm

def keptResults (keep : Int) (messages : List AnyMessage) : List AnyMessage :=
  if keep ≤ 0 then messages else dropFirst isTool (messages.countP isTool - keep.toNat) messages

/-- Each call is answered in its turn by one of the last tool results. -/
def AnsweredLast (keep : Int) (messages : List AnyMessage) : Prop :=
  ∀ before message behind, messages = before ++ message :: behind → ∀ call ∈ message.toolCalls,
    ∃ turn answer after, behind = turn ++ answer :: after ∧ (∀ other ∈ turn, other.isTool = true) ∧
      answer.Answers call ∧ (after.countP isTool : Int) < keep

theorem length_places (messages : List AnyMessage) (start : Nat) :
    (places isTool start messages).length = messages.countP isTool := by
  induction messages generalizing start with
  | nil => rfl
  | cons message rest ih =>
    have others := ih (start + 1)
    unfold places at others ⊢
    rw [List.zipIdx_cons, List.filter_cons, List.countP_cons]
    split <;> simp_all

theorem trimToolResults_eq {messages : List AnyMessage} (head : ∀ first ∈ messages.head?, first.isTool = false)
    (keep : Int) : trimToolResults messages keep = keptResults keep messages := by
  unfold trimToolResults keptResults
  by_cases all : keep ≤ 0
  · rw [if_pos all, if_pos all]
  · rw [if_neg all, if_neg all]
    dsimp only
    rw [length_places]
    by_cases few : (messages.countP isTool : Int) ≤ keep
    · have none : messages.countP isTool - keep.toNat = 0 := by omega
      rw [if_pos few, none, dropFirst_zero]
    · rw [if_neg few, filter_places, healOrphanedToolMessages_eq]
      cases messages with
      | nil => rfl
      | cons first rest =>
        have stays : first.isTool = false := head first rfl
        rw [dropFirst_of_not stays, List.dropWhile_cons_of_neg]
        simp [stays]

theorem called_kept {messages : List AnyMessage} (wellFormed : WellFormed messages) {n : Nat}
    {before behind : List AnyMessage} {message : AnyMessage}
    (split : dropFirst isTool n messages = before ++ message :: behind) {call : String}
    (answers : message.Answers call) : ∃ caller ∈ before, call ∈ caller.toolCalls := by
  obtain ⟨earlier, later, rfl, rfl, -, -⟩ := dropFirst_split split
  obtain ⟨caller, listed, asked⟩ := wellFormed.called earlier message later rfl call answers
  exact ⟨caller, mem_dropFirst_of_not (not_isTool_of_called asked) listed, asked⟩

theorem answered_kept_iff {earlier later : List AnyMessage} {message : AnyMessage} (other : message.isTool = false)
    {keep : Int} (some : 0 < keep) (call : String) :
    (∃ answer ∈ (dropFirst isTool ((earlier ++ message :: later).countP isTool - keep.toNat - earlier.countP isTool)
      later).takeWhile isTool, answer.Answers call) ↔
      ∃ turn answer after, later = turn ++ answer :: after ∧ (∀ other ∈ turn, other.isTool = true) ∧
        answer.Answers call ∧ (after.countP isTool : Int) < keep := by
  have stays : message.isTool ≠ true := by simp [other]
  have total : (earlier ++ message :: later).countP isTool = earlier.countP isTool + later.countP isTool := by
    rw [List.countP_append, List.countP_cons_of_neg stays]
  have kept : ∀ turn answer after, later = turn ++ answer :: after → (∀ other ∈ turn, other.isTool = true) →
      answer.isTool = true →
        ((earlier ++ message :: later).countP isTool - keep.toNat - earlier.countP isTool ≤ turn.length ↔
          (after.countP isTool : Int) < keep) := by
    intro turn answer after split all tool
    have turnTools : turn.countP isTool = turn.length := List.countP_eq_length.mpr all
    have laterTools : later.countP isTool = turn.length + (after.countP isTool + 1) := by
      rw [split, List.countP_append, List.countP_cons_of_pos tool, turnTools]
    omega
  constructor
  · rintro ⟨answer, member, answers⟩
    rw [takeWhile_dropFirst] at member
    obtain ⟨turn, after, split, all, tool, bound⟩ := mem_drop_takeWhile_iff.mp member
    exact ⟨turn, answer, after, split, all, answers, (kept turn answer after split all tool).mp bound⟩
  · rintro ⟨turn, answer, after, split, all, answers, few⟩
    refine ⟨answer, ?_, answers⟩
    rw [takeWhile_dropFirst]
    exact mem_drop_takeWhile_iff.mpr ⟨turn, after, split, all, answers.isTool,
      (kept turn answer after split all answers.isTool).mpr few⟩

theorem wellFormed_keptResults_iff {messages : List AnyMessage} (wellFormed : WellFormed messages) (keep : Int) :
    WellFormed (keptResults keep messages) ↔ keep ≤ 0 ∨ AnsweredLast keep messages := by
  by_cases all : keep ≤ 0
  · rw [keptResults, if_pos all]
    exact iff_of_true wellFormed (.inl all)
  · rw [keptResults, if_neg all, or_iff_right all]
    constructor
    · intro kept before message behind split call asked
      subst split
      have stays := not_isTool_of_called asked
      apply (answered_kept_iff stays (by omega) call).mp
      rw [dropFirst_append, dropFirst_of_not stays] at kept
      exact kept.answered _ message _ rfl call asked
    · intro last
      refine ⟨fun before message behind split call answers => called_kept wellFormed split answers, ?_⟩
      intro before message behind split call asked
      have stays := not_isTool_of_called asked
      obtain ⟨earlier, later, rfl, rfl, rfl, -⟩ := dropFirst_split split
      have none : (earlier ++ [message]).countP isTool = earlier.countP isTool := by simp [stays]
      rw [none]
      exact (answered_kept_iff stays (by omega) call).mpr (last earlier message later rfl call asked)

namespace ContextSummaryMiddleware

def others (messages : List AnyMessage) : List AnyMessage := messages.filter fun message => !message.isSystem

/-- The last of the others among the messages with the older results left out: at least one, and as many as leave room
    for the system messages. -/
def cut (middleware : ContextSummaryMiddleware) (messages : List AnyMessage) : List AnyMessage :=
  let kept := keptResults middleware.keepToolResults messages
  lastOthers middleware.maxMessages (kept.filter isSystem) (others kept)

/-- No tool result within the cut has its call before it, except at the front, where it is dropped. -/
def CutApart (middleware : ContextSummaryMiddleware) (messages : List AnyMessage) : Prop :=
  ∀ before answer behind, middleware.cut messages = before ++ answer :: behind →
    (∃ other ∈ before, other.isTool = false) → ∀ call, answer.Answers call →
      ∃ caller ∈ before, call ∈ caller.toolCalls

theorem filter_not_mem_system (messages : List AnyMessage) :
    (messages.filter fun message => message ∉ messages.filter isSystem) = others messages := by
  apply List.filter_congr
  intro message listed
  simp [listed]

theorem lastOthers_suffix (maxMessages : Int) (system other : List AnyMessage) :
    lastOthers maxMessages system other <:+ other := List.drop_suffix ..

section

variable {middleware : ContextSummaryMiddleware} {messages : List AnyMessage}

theorem trimMessages_short (kept : WellFormed (trimToolResults messages middleware.keepToolResults))
    (short : ((trimToolResults messages middleware.keepToolResults).length : Int) ≤ middleware.maxMessages) :
    middleware.trimMessages messages = trimToolResults messages middleware.keepToolResults := by
  rw [trimMessages, if_pos short, kept.healed]

theorem trimMessages_long (head : ∀ first ∈ messages.head?, first.isTool = false)
    (long : ¬ ((trimToolResults messages middleware.keepToolResults).length : Int) ≤ middleware.maxMessages) :
    middleware.trimMessages messages = (keptResults middleware.keepToolResults messages).filter isSystem ++
      (middleware.cut messages).dropWhile isTool := by
  rw [trimMessages, if_neg long]
  dsimp only
  rw [filter_not_mem_system, healOrphanedToolMessages_eq, trimToolResults_eq head]
  rfl

end

section

variable {history : List AnyMessage}

theorem answered_others (wellFormed : WellFormed history) {before behind : List AnyMessage} {message : AnyMessage}
    (split : others history = before ++ message :: behind) {call : String} (asked : call ∈ message.toolCalls) :
    ∃ answer ∈ behind.takeWhile isTool, answer.Answers call := by
  obtain ⟨earlier, rest, rfl, -, tail⟩ := List.filter_eq_append_iff.mp split
  obtain ⟨skipped, later, rfl, -, -, rfl⟩ := List.filter_eq_cons_iff.mp tail
  rw [← List.append_assoc] at wellFormed
  obtain ⟨answer, member, answers⟩ := wellFormed.answered (earlier ++ skipped) message later rfl call asked
  refine ⟨answer, mem_takeWhile_filter ?_ member, answers⟩
  intro other tool
  by_contra system
  have none := not_isTool_of_isSystem (by simpa using system)
  rw [tool] at none
  cases none

theorem healed_split {tail before behind : List AnyMessage} {message : AnyMessage}
    (split : history.filter isSystem ++ tail.dropWhile isTool = before ++ message :: behind)
    (other : message.isSystem = false) : ∃ middle, before = history.filter isSystem ++ middle ∧
      tail.dropWhile isTool = middle ++ message :: behind := by
  apply append_split split
  intro listed
  rw [(List.mem_filter.mp listed).2] at other
  cases other

theorem not_isSystem_of_called {message : AnyMessage} {call : String} (asked : call ∈ message.toolCalls) :
    message.isSystem = false := by
  by_contra system
  rw [toolCalls_of_isSystem (by simpa using system)] at asked
  cases asked

theorem not_isSystem_of_isTool {message : AnyMessage} (tool : message.isTool = true) : message.isSystem = false := by
  by_contra system
  rw [not_isTool_of_isSystem (by simpa using system)] at tool
  cases tool

theorem called_healed {tail before behind : List AnyMessage} {answer : AnyMessage} {call : String}
    (wellFormed : WellFormed (history.filter isSystem ++ tail.dropWhile isTool))
    (split : tail = before ++ answer :: behind) (inside : ∃ other ∈ before, other.isTool = false)
    (answers : answer.Answers call) : ∃ caller ∈ before, call ∈ caller.toolCalls := by
  obtain ⟨other, listed, stays⟩ := inside
  have nonempty : ¬ (before.dropWhile isTool).isEmpty = true := by
    rw [List.isEmpty_iff, List.dropWhile_eq_nil_iff]
    intro all
    rw [all other listed] at stays
    cases stays
  have healed : tail.dropWhile isTool = before.dropWhile isTool ++ answer :: behind := by
    rw [split, List.dropWhile_append, if_neg nonempty]
  rw [healed, ← List.append_assoc] at wellFormed
  obtain ⟨caller, member, asked⟩ := wellFormed.called _ answer behind rfl call answers
  refine ⟨caller, ?_, asked⟩
  rcases List.mem_append.mp member with system | kept
  · have none := not_isSystem_of_called asked
    rw [(List.mem_filter.mp system).2] at none
    cases none
  · exact (List.dropWhile_suffix isTool).mem kept

theorem wellFormed_healed_iff (wellFormed : WellFormed history) {tail : List AnyMessage}
    (suffix : tail <:+ others history) :
    WellFormed (history.filter isSystem ++ tail.dropWhile isTool) ↔
      ∀ before answer behind, tail = before ++ answer :: behind → (∃ other ∈ before, other.isTool = false) →
        ∀ call, answer.Answers call → ∃ caller ∈ before, call ∈ caller.toolCalls := by
  have whole : ∀ {rest}, tail.dropWhile isTool = rest → tail = tail.takeWhile isTool ++ rest := by
    rintro rest rfl
    rw [List.takeWhile_append_dropWhile]
  constructor
  · intro healed before answer behind split inside call answers
    exact called_healed healed split inside answers
  · intro apart
    constructor
    · intro before message behind split call answers
      obtain ⟨middle, rfl, healed⟩ := healed_split split (not_isSystem_of_isTool answers.isTool)
      have inside : ∃ other ∈ tail.takeWhile isTool ++ middle, other.isTool = false := by
        cases middle with
        | nil =>
          have first := not_of_dropWhile_eq_cons healed
          rw [answers.isTool] at first
          cases first
        | cons first rest => exact ⟨first, by simp, not_of_dropWhile_eq_cons healed⟩
      have full := whole healed
      rw [← List.append_assoc] at full
      obtain ⟨caller, member, asked⟩ := apart _ message behind full inside call answers
      refine ⟨caller, List.mem_append_right _ ?_, asked⟩
      rcases List.mem_append.mp member with leading | kept
      · have tool := List.mem_takeWhile_imp leading
        rw [not_isTool_of_called asked] at tool
        cases tool
      · exact kept
    · intro before message behind split call asked
      obtain ⟨middle, rfl, healed⟩ := healed_split split (not_isSystem_of_called asked)
      obtain ⟨lead, all⟩ := suffix
      rw [whole healed, ← List.append_assoc, ← List.append_assoc] at all
      exact answered_others wellFormed all.symm asked

end

theorem lastOthers_length (maxMessages : Int) (system other : List AnyMessage) :
    ((lastOthers maxMessages system other).length : Int) ≤ max 1 (maxMessages - system.length) := by
  rw [lastOthers, List.length_drop]
  omega

section

variable {middleware : ContextSummaryMiddleware} {messages : List AnyMessage}

theorem plain_of_overflow (kept : WellFormed (keptResults middleware.keepToolResults messages))
    (overflow : ¬ (((keptResults middleware.keepToolResults messages).filter isSystem ++
      (middleware.cut messages).dropWhile isTool).length : Int) ≤ middleware.maxMessages) :
    ∀ message ∈ (keptResults middleware.keepToolResults messages).filter isSystem ++
      (middleware.cut messages).dropWhile isTool, message.isTool = false ∧ message.toolCalls = [] := by
  intro message member
  rcases List.mem_append.mp member with system | other
  · have named := (List.mem_filter.mp system).2
    exact ⟨not_isTool_of_isSystem named, toolCalls_of_isSystem named⟩
  · have short : ((middleware.cut messages).dropWhile isTool).length ≤ (middleware.cut messages).length :=
      (List.dropWhile_suffix isTool).length_le
    have few := lastOthers_length middleware.maxMessages
      ((keptResults middleware.keepToolResults messages).filter isSystem)
      (others (keptResults middleware.keepToolResults messages))
    have one : ((middleware.cut messages).dropWhile isTool).length ≤ 1 := by
      rw [List.length_append] at overflow
      unfold cut at short overflow ⊢
      dsimp only at short overflow ⊢
      omega
    obtain ⟨before, behind, split⟩ := List.append_of_mem other
    have alone : before = [] ∧ behind = [] := by
      rw [split, List.length_append, List.length_cons] at one
      exact ⟨List.length_eq_zero_iff.mp (by omega), List.length_eq_zero_iff.mp (by omega)⟩
    rw [alone.1, alone.2, List.nil_append] at split
    refine ⟨not_of_dropWhile_eq_cons split, List.eq_nil_iff_forall_not_mem.mpr fun call asked => ?_⟩
    obtain ⟨lead, all⟩ : middleware.cut messages <:+ others (keptResults middleware.keepToolResults messages) :=
      lastOthers_suffix ..
    have whole : (middleware.cut messages).takeWhile isTool ++ (middleware.cut messages).dropWhile isTool =
        middleware.cut messages := List.takeWhile_append_dropWhile
    rw [← whole, split, ← List.append_assoc] at all
    obtain ⟨answer, none, -⟩ := answered_others kept all.symm asked
    cases none

theorem mem_of_head? {trimmed : List AnyMessage} {default message : AnyMessage}
    (same : trimmed.head?.getD default = message) : message ∈ trimmed ∨ message = default := by
  cases trimmed with
  | nil => exact .inr same.symm
  | cons first rest => exact .inl (by rw [← same]; exact List.mem_cons_self)

theorem mem_of_getLast? {trimmed : List AnyMessage} {default message : AnyMessage}
    (same : trimmed.getLast?.getD default = message) : message ∈ trimmed ∨ message = default := by
  cases last : trimmed.getLast? with
  | none =>
    rw [last] at same
    exact .inr same.symm
  | some found =>
    rw [last] at same
    rw [← same]
    exact .inl (List.mem_of_getLast? last)

theorem wellFormed_summary {trimmed : List AnyMessage}
    (plain : ∀ message ∈ trimmed, message.isTool = false ∧ message.toolCalls = []) (summary : String) :
    WellFormed (healOrphanedToolMessages [trimmed.head?.getD (summaryMessage summary), summaryMessage summary,
      if 1 < trimmed.length then trimmed.getLast?.getD (summaryMessage summary) else summaryMessage summary]) := by
  apply WellFormed.of_plain
  intro message member
  rw [healOrphanedToolMessages_eq] at member
  have listed := (List.dropWhile_suffix isTool).mem member
  have own : (summaryMessage summary).isTool = false ∧ (summaryMessage summary).toolCalls = [] := ⟨rfl, rfl⟩
  have known : message ∈ trimmed ∨ message = summaryMessage summary := by
    simp only [List.mem_cons, List.not_mem_nil, or_false] at listed
    rcases listed with first | middle | last
    · exact mem_of_head? first.symm
    · exact .inr middle
    · split at last
      · exact mem_of_getLast? last.symm
      · exact .inr last
  rcases known with before | same
  · exact plain message before
  · rw [same]
    exact own

theorem maybeSummarize_wellFormed (head : ∀ first ∈ messages.head?, first.isTool = false)
    (kept : WellFormed (keptResults middleware.keepToolResults messages))
    (trimmed : WellFormed (middleware.trimMessages messages)) {produced : List AnyMessage × String}
    (summarized : middleware.maybeSummarize messages = .ok produced) : WellFormed produced.1 := by
  unfold maybeSummarize at summarized
  by_cases fits : ((middleware.trimMessages messages).length : Int) ≤ middleware.maxMessages
  · rw [if_pos fits] at summarized
    rw [← Except.ok.inj summarized]
    exact trimmed
  · rw [if_neg fits] at summarized
    obtain ⟨summary, -, produced⟩ := except_bind_ok.mp summarized
    rw [← Except.ok.inj produced]
    apply wellFormed_summary
    have results := trimToolResults_eq head middleware.keepToolResults
    by_cases short : ((trimToolResults messages middleware.keepToolResults).length : Int) ≤ middleware.maxMessages
    · have same := trimMessages_short (by rw [results]; exact kept) short
      rw [same] at fits
      exact absurd short fits
    · have cut := trimMessages_long head short
      rw [cut] at fits ⊢
      exact plain_of_overflow kept fits

end

/-- What is sent to the model is well formed, whichever of the three it comes from. -/
structure KeepsWellFormed (middleware : ContextSummaryMiddleware) (messages : List AnyMessage) : Prop where
  toolResults : WellFormed (trimToolResults messages middleware.keepToolResults)
  trimmed : WellFormed (middleware.trimMessages messages)
  summarized : ∀ produced, middleware.maybeSummarize messages = .ok produced → WellFormed produced.1

/-- Leaving out older results strands a call that none of the last ones answers, and cutting strands a result whose call
    is before the cut. -/
theorem keeps_wellFormed_iff (middleware : ContextSummaryMiddleware) (messages : List AnyMessage)
    (wellFormed : WellFormed messages) :
    KeepsWellFormed middleware messages ↔
      (middleware.keepToolResults ≤ 0 ∨ AnsweredLast middleware.keepToolResults messages) ∧
      (((keptResults middleware.keepToolResults messages).length : Int) ≤ middleware.maxMessages ∨
        CutApart middleware messages) := by
  have results := trimToolResults_eq wellFormed.head middleware.keepToolResults
  have suffix : middleware.cut messages <:+ others (keptResults middleware.keepToolResults messages) :=
    lastOthers_suffix ..
  rw [← wellFormed_keptResults_iff wellFormed]
  constructor
  · rintro ⟨kept, trimmed, -⟩
    rw [results] at kept
    refine ⟨kept, ?_⟩
    by_cases short : ((keptResults middleware.keepToolResults messages).length : Int) ≤ middleware.maxMessages
    · exact .inl short
    · rw [trimMessages_long wellFormed.head (by rw [results]; exact short)] at trimmed
      exact .inr ((wellFormed_healed_iff kept suffix).mp trimmed)
  · rintro ⟨kept, apart⟩
    have trimmed : WellFormed (middleware.trimMessages messages) := by
      by_cases short : ((keptResults middleware.keepToolResults messages).length : Int) ≤ middleware.maxMessages
      · rw [trimMessages_short (by rw [results]; exact kept) (by rw [results]; exact short), results]
        exact kept
      · rw [trimMessages_long wellFormed.head (by rw [results]; exact short)]
        exact (wellFormed_healed_iff kept suffix).mpr (apart.resolve_left short)
    refine ⟨by rw [results]; exact kept, trimmed, ?_⟩
    intro produced summarized
    exact maybeSummarize_wellFormed wellFormed.head kept trimmed summarized

def Direct (history : List AnyMessage) : Prop :=
  ∀ before answer behind, history = before ++ answer :: behind → ∀ call, answer.Answers call →
    ∃ earlier caller turn, before = earlier ++ caller :: turn ∧ (∀ other ∈ turn, other.isTool = true) ∧
      call ∈ caller.toolCalls

namespace Direct

variable {history : List AnyMessage}

theorem others (direct : Direct history) : Direct (others history) := by
  intro before answer behind split call answers
  obtain ⟨front, rest, rfl, rfl, tail⟩ := List.filter_eq_append_iff.mp split
  obtain ⟨skipped, later, rfl, systems, -, -⟩ := List.filter_eq_cons_iff.mp tail
  rw [← List.append_assoc] at direct
  obtain ⟨earlier, caller, turn, same, tools, asked⟩ := direct (front ++ skipped) answer later rfl call answers
  have stays : (!caller.isSystem) = true := by simp [not_isSystem_of_called asked]
  have gone : skipped.filter (fun message => !message.isSystem) = [] := List.filter_eq_nil_iff.mpr systems
  refine ⟨earlier.filter fun message => !message.isSystem, caller, turn.filter fun message => !message.isSystem, ?_, ?_,
    asked⟩
  · have selected := congrArg (List.filter fun message => !message.isSystem) same
    rwa [List.filter_append, gone, List.append_nil, List.filter_append, List.filter_cons, if_pos stays] at selected
  · intro other listed
    exact tools other (List.mem_of_mem_filter listed)

theorem keptResults (direct : Direct history) (keep : Int) : Direct (keptResults keep history) := by
  by_cases all : keep ≤ 0
  · rw [CysAgi.keptResults, if_pos all]
    exact direct
  · rw [CysAgi.keptResults, if_neg all]
    intro before answer behind split call answers
    obtain ⟨front, later, same, rfl, -, -⟩ := dropFirst_split split
    obtain ⟨earlier, caller, turn, rfl, tools, asked⟩ := direct front answer later same call answers
    have stays := not_isTool_of_called asked
    refine ⟨_, caller, _, by rw [dropFirst_append, dropFirst_of_not stays], ?_, asked⟩
    intro other listed
    rw [dropFirst_of_all tools] at listed
    exact tools other (List.mem_of_mem_drop listed)

end Direct

theorem cutApart_of_direct (middleware : ContextSummaryMiddleware) {messages : List AnyMessage}
    (direct : Direct messages) : CutApart middleware messages := by
  intro before answer behind split inside call answers
  obtain ⟨other, listed, stays⟩ := inside
  obtain ⟨lead, all⟩ : middleware.cut messages <:+ others (keptResults middleware.keepToolResults messages) :=
    lastOthers_suffix ..
  rw [split, ← List.append_assoc] at all
  obtain ⟨earlier, caller, turn, same, tools, asked⟩ :=
    (direct.keptResults middleware.keepToolResults).others _ answer behind all.symm call answers
  refine ⟨caller, ?_, asked⟩
  rcases List.append_eq_append_iff.mp same with ⟨middle, -, rfl⟩ | ⟨middle, -, tail⟩
  · simp
  · cases middle with
    | nil =>
      rw [List.nil_append] at tail
      rw [← tail]
      exact List.mem_cons_self
    | cons first middle =>
      obtain ⟨-, rfl⟩ := List.cons.inj tail
      rw [tools other (List.mem_append_right _ listed)] at stays
      cases stays

def shortening (maxMessages keepToolResults : Int) : ContextSummaryMiddleware :=
  { summarize := fun _ text _ => .ok text, str := fun _ => "", maxMessages, keepToolResults }

def twoTurns : List AnyMessage :=
  [{ kind := .human, content := .str "scan" }, { kind := .ai ["c1"], content := .str "" },
    { kind := .tool "c1", content := .str "open: 22" }, { kind := .ai ["c2"], content := .str "" },
    { kind := .tool "c2", content := .str "open: 80" }]

theorem one_turn_kept : WellFormed (twoTurns.take 3) ∧ KeepsWellFormed (shortening 2 1) (twoTurns.take 3) := by
  have wellFormed : WellFormed (twoTurns.take 3) := by decide
  have last : AnsweredLast 1 (twoTurns.take 3) := by
    intro before message behind split call asked
    simp only [twoTurns, List.take_succ_cons, List.take_zero] at split
    rcases before with _ | ⟨first, _ | ⟨second, _ | ⟨third, rest⟩⟩⟩
    · cases split
      cases asked
    · cases split
      cases List.mem_singleton.mp asked
      exact ⟨[], _, [], rfl, nofun, rfl, by decide⟩
    · cases split
      cases asked
    · simp at split
  have apart : CutApart (shortening 2 1) (twoTurns.take 3) := by
    have cut : (shortening 2 1).cut (twoTurns.take 3) = [{ kind := .ai ["c1"], content := .str "" },
      { kind := .tool "c1", content := .str "open: 22" }] := by decide +kernel
    intro before answer behind split _ call answers
    rw [cut] at split
    rcases before with _ | ⟨first, _ | ⟨second, rest⟩⟩
    · cases split
      cases answers
    · cases split
      cases answers
      exact ⟨_, List.mem_cons_self, by decide⟩
    · simp at split
  exact ⟨wellFormed, (keeps_wellFormed_iff _ _ wellFormed).mpr ⟨.inr last, .inr apart⟩⟩

/-- Of two results the last one is kept, and the first call has none. -/
theorem first_call_stranded :
    WellFormed twoTurns ∧ ¬ WellFormed (trimToolResults twoTurns 1) ∧
    ¬ WellFormed ((shortening 40 1).trimMessages twoTurns) ∧
    ¬ (∀ middleware messages, WellFormed messages → KeepsWellFormed middleware messages) := by
  have wellFormed : WellFormed twoTurns := by decide
  have stranded : ¬ WellFormed (trimToolResults twoTurns 1) := by decide +kernel
  exact ⟨wellFormed, stranded, by decide +kernel, fun claimed =>
    stranded (claimed (shortening 40 1) twoTurns wellFormed).toolResults⟩

end ContextSummaryMiddleware

end CysAgi
