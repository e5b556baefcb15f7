import CysAgi.Base.Dict
import CysAgi.Security.SensitiveKeys
import Mathlib.Algebra.Order.Ring.Rat

open Py

namespace CysAgi

structure AnomalyPolicy where
  toolCallsPerMinute : Int := 30
  injectionAttempts : Int := 1

structure AgentSecurityEvent where
  eventType : String
  severity : String
  agentId : String
  sessionId : String
  userId : String
  timestamp : Rat
  details : JsonDict
  toolName : Option String := none
  deriving DecidableEq

structure SessionMetrics where
  toolCalls : List Rat := []
  injectionAttempts : Option Nat := none

structure AgentMonitor where
  agentId : String
  thresholds : AnomalyPolicy := {}
  sessionMetrics : Dict String SessionMetrics := .empty
  events : List AgentSecurityEvent := []

/-- What `datetime.now` reads in one call of the monitor: for the event, for the call that is stored, once for each stored
    call while they are counted, and for the anomaly. -/
structure Readings where
  event : Rat
  stored : Rat
  counted : Nat → Rat
  anomaly : Rat

namespace AgentMonitor

variable (lower : String → String)

def logSecurityEvent (monitor : AgentMonitor) (sessionId eventType severity : String) (details : JsonDict)
    (userId : String) (now : Rat) : AgentMonitor :=
  { monitor with
    events := monitor.events ++
      [{ eventType, severity, agentId := monitor.agentId, sessionId, userId, timestamp := now, details }] }

def recent (counted : Nat → Rat) (toolCalls : List Rat) : Nat :=
  toolCalls.zipIdx.countP fun stored => counted stored.2 - stored.1 < 60

def anomaly (reason : String) (count : Nat) : JsonDict := [("reason", .str reason), ("count", .int count)]

def checkAnomalies (monitor : AgentMonitor) (sessionId userId : String) (now : Readings) : AgentMonitor :=
  let metrics := (monitor.sessionMetrics.get? sessionId).getD {}
  let toolCalls := metrics.toolCalls ++ [now.stored]
  let counted := { monitor with
    sessionMetrics := monitor.sessionMetrics.set sessionId { metrics with toolCalls } }
  if monitor.thresholds.toolCallsPerMinute < recent now.counted toolCalls then
    counted.logSecurityEvent sessionId "anomaly_detected" "WARNING"
      (anomaly "excessive_tool_calls" (recent now.counted toolCalls)) userId now.anomaly
  else counted

def logToolCall (monitor : AgentMonitor) (sessionId toolName : String) (params result : JsonDict) (userId : String)
    (now : Readings) : AgentMonitor :=
  let event : AgentSecurityEvent :=
    { eventType := "tool_call", severity := "INFO", agentId := monitor.agentId, sessionId, userId
      timestamp := now.event, toolName := some toolName
      details := [("parameters", redactSensitiveKeys lower (.obj params)),
        ("result_status", JsonDict.getD result "status" (.str "ok"))] }
  { monitor with events := monitor.events ++ [event] }.checkAnomalies sessionId userId now

def logOrchestrationTool (monitor : AgentMonitor) (sessionId toolName : String) (params : JsonDict) (now : Readings)
    (outcome : String := "ok") (userId : String := "system") : AgentMonitor :=
  monitor.logToolCall lower sessionId toolName params [("status", .str outcome), ("orchestration", .bool true)] userId now

def recordInjectionAttempt (monitor : AgentMonitor) (sessionId verdict : String) (details : JsonDict) (userId : String)
    (now : Readings) : AgentMonitor :=
  let metrics := (monitor.sessionMetrics.get? sessionId).getD { injectionAttempts := some 0 }
  let attempts := metrics.injectionAttempts.getD 0 + 1
  let logged := { monitor with
      sessionMetrics := monitor.sessionMetrics.set sessionId { metrics with injectionAttempts := some attempts }
      }.logSecurityEvent sessionId "injection_attempt" "WARNING"
        (JsonDict.update [("verdict", .str verdict)] details) userId now.event
  if monitor.thresholds.injectionAttempts < attempts then
    logged.logSecurityEvent sessionId "anomaly_detected" "WARNING" (anomaly "injection_attempts" attempts) userId
      now.anomaly
  else logged

end AgentMonitor

inductive MonitorCall where
  | toolCall (sessionId toolName : String) (params result : JsonDict) (userId : String) (now : Readings)
  | injectionAttempt (sessionId verdict : String) (details : JsonDict) (userId : String) (now : Readings)
  | securityEvent (sessionId eventType severity : String) (details : JsonDict) (userId : String) (now : Rat)

namespace MonitorCall

def sessionId : MonitorCall → String
  | toolCall sessionId _ _ _ _ _ => sessionId
  | injectionAttempt sessionId _ _ _ _ => sessionId
  | securityEvent sessionId _ _ _ _ _ => sessionId

def storedAt (session : String) : MonitorCall → Option Rat
  | toolCall sessionId _ _ _ _ now => if sessionId = session then some now.stored else none
  | _ => none

def attemptOf (session : String) : MonitorCall → Bool
  | injectionAttempt sessionId _ _ _ _ => sessionId = session
  | _ => false

variable {call : MonitorCall} {session : String}

theorem storedAt_other (other : call.sessionId ≠ session) : call.storedAt session = none := by
  cases call with
  | toolCall => exact if_neg other
  | injectionAttempt => rfl
  | securityEvent => rfl

theorem attemptOf_other (other : call.sessionId ≠ session) : call.attemptOf session = false := by
  cases call with
  | toolCall => rfl
  | injectionAttempt => exact decide_eq_false other
  | securityEvent => rfl

end MonitorCall

namespace AgentMonitor

variable (lower : String → String)

def step (monitor : AgentMonitor) : MonitorCall → AgentMonitor
  | .toolCall sessionId toolName params result userId now =>
    monitor.logToolCall lower sessionId toolName params result userId now
  | .injectionAttempt sessionId verdict details userId now =>
    monitor.recordInjectionAttempt sessionId verdict details userId now
  | .securityEvent sessionId eventType severity details userId now =>
    monitor.logSecurityEvent sessionId eventType severity details userId now

def run (monitor : AgentMonitor) (calls : List MonitorCall) : AgentMonitor := calls.foldl (step lower) monitor

def logged (agentId : String) (thresholds : AnomalyPolicy) (before : List MonitorCall) :
    MonitorCall → List AgentSecurityEvent
  | .toolCall sessionId toolName params result userId now =>
    let count := recent now.counted (before.filterMap (·.storedAt sessionId) ++ [now.stored])
    { eventType := "tool_call", severity := "INFO", agentId, sessionId, userId, timestamp := now.event
      toolName := some toolName
      details := [("parameters", redactSensitiveKeys lower (.obj params)),
        ("result_status", JsonDict.getD result "status" (.str "ok"))] } ::
    if thresholds.toolCallsPerMinute < count then
      [{ eventType := "anomaly_detected", severity := "WARNING", agentId, sessionId, userId, timestamp := now.anomaly
         details := anomaly "excessive_tool_calls" count }]
    else []
  | .injectionAttempt sessionId verdict details userId now =>
    let count := before.countP (·.attemptOf sessionId) + 1
    { eventType := "injection_attempt", severity := "WARNING", agentId, sessionId, userId, timestamp := now.event
      details := JsonDict.update [("verdict", .str verdict)] details } ::
    if thresholds.injectionAttempts < count then
      [{ eventType := "anomaly_detected", severity := "WARNING", agentId, sessionId, userId, timestamp := now.anomaly
         details := anomaly "injection_attempts" count }]
    else []
  | .securityEvent sessionId eventType severity details userId now =>
    [{ eventType, severity, agentId, sessionId, userId, timestamp := now, details }]

def loggedFrom (agentId : String) (thresholds : AnomalyPolicy) :
    List MonitorCall → List MonitorCall → List AgentSecurityEvent
  | _, [] => []
  | before, call :: rest =>
    logged lower agentId thresholds before call ++ loggedFrom agentId thresholds (before ++ [call]) rest

section

variable {monitor : AgentMonitor} {before : List MonitorCall}

def Tracks (monitor : AgentMonitor) (before : List MonitorCall) : Prop :=
  ∀ session, ((monitor.sessionMetrics.get? session).getD {}).toolCalls = before.filterMap (·.storedAt session) ∧
    ((monitor.sessionMetrics.get? session).getD {}).injectionAttempts.getD 0 = before.countP (·.attemptOf session)

theorem tracks_new (agentId : String) (thresholds : AnomalyPolicy) : Tracks { agentId, thresholds } [] :=
  fun _ => ⟨rfl, rfl⟩

theorem getD_metrics (entry : Option SessionMetrics) :
    (entry.getD { injectionAttempts := some 0 }).toolCalls = (entry.getD {}).toolCalls ∧
      (entry.getD { injectionAttempts := some 0 }).injectionAttempts.getD 0 =
        (entry.getD {}).injectionAttempts.getD 0 := by
  cases entry <;> exact ⟨rfl, rfl⟩

theorem Tracks.set {call : MonitorCall} {metrics : SessionMetrics} {session : String} (tracks : Tracks monitor before)
    (bears : call.sessionId = session)
    (calls : metrics.toolCalls = (before ++ [call]).filterMap (·.storedAt session))
    (attempts : metrics.injectionAttempts.getD 0 = (before ++ [call]).countP (·.attemptOf session))
    (events : List AgentSecurityEvent) :
    Tracks { monitor with sessionMetrics := monitor.sessionMetrics.set session metrics, events } (before ++ [call]) := by
  subst bears
  intro other
  by_cases same : other = call.sessionId
  · subst same
    rw [Dict.get?_set, if_pos rfl]
    exact ⟨calls, attempts⟩
  · rw [Dict.get?_set, if_neg same, List.filterMap_append, List.countP_append]
    simpa [MonitorCall.storedAt_other (Ne.symm same), MonitorCall.attemptOf_other (Ne.symm same)] using tracks other

theorem Tracks.toolCall (tracks : Tracks monitor before) (session tool user : String) (params result : JsonDict)
    (now : Readings) (events : List AgentSecurityEvent) :
    Tracks { monitor with
      sessionMetrics := monitor.sessionMetrics.set session
        { (monitor.sessionMetrics.get? session).getD {} with
          toolCalls := before.filterMap (·.storedAt session) ++ [now.stored] }
      events } (before ++ [.toolCall session tool params result user now]) := by
  have bears : (MonitorCall.toolCall session tool params result user now).sessionId = session := rfl
  apply tracks.set bears
  · simp [MonitorCall.storedAt]
  · simp [tracks session, MonitorCall.attemptOf]

theorem Tracks.injectionAttempt (tracks : Tracks monitor before) (session verdict user : String) (details : JsonDict)
    (now : Readings) (events : List AgentSecurityEvent) :
    Tracks { monitor with
      sessionMetrics := monitor.sessionMetrics.set session
        { (monitor.sessionMetrics.get? session).getD { injectionAttempts := some 0 } with
          injectionAttempts := some (before.countP (·.attemptOf session) + 1) }
      events } (before ++ [.injectionAttempt session verdict details user now]) := by
  have bears : (MonitorCall.injectionAttempt session verdict details user now).sessionId = session := rfl
  apply tracks.set bears
  · simp [getD_metrics, tracks session, MonitorCall.storedAt]
  · simp [MonitorCall.attemptOf]

theorem step_logged (tracks : Tracks monitor before) (call : MonitorCall) :
    (monitor.step lower call).agentId = monitor.agentId ∧ (monitor.step lower call).thresholds = monitor.thresholds ∧
      (monitor.step lower call).events = monitor.events ++ logged lower monitor.agentId monitor.thresholds before call ∧
      Tracks (monitor.step lower call) (before ++ [call]) := by
  cases call with
  | toolCall session tool params result user now =>
    have calls := (tracks session).1
    simp only [step, logToolCall, checkAnomalies, logged, calls]
    split
    · exact ⟨rfl, rfl, by simp [logSecurityEvent], tracks.toolCall session tool user params result now _⟩
    · exact ⟨rfl, rfl, rfl, tracks.toolCall session tool user params result now _⟩
  | injectionAttempt session verdict details user now =>
    have attempts := (tracks session).2
    rw [← (getD_metrics _).2] at attempts
    simp only [step, recordInjectionAttempt, logged, attempts]
    split
    · exact ⟨rfl, rfl, by simp [logSecurityEvent], tracks.injectionAttempt session verdict user details now _⟩
    · exact ⟨rfl, rfl, rfl, tracks.injectionAttempt session verdict user details now _⟩
  | securityEvent session type severity details user now =>
    refine ⟨rfl, rfl, rfl, ?_⟩
    intro other
    simpa [step, logSecurityEvent, MonitorCall.storedAt, MonitorCall.attemptOf] using tracks other

theorem events_run_from (tracks : Tracks monitor before) (calls : List MonitorCall) :
    (monitor.run lower calls).events =
      monitor.events ++ loggedFrom lower monitor.agentId monitor.thresholds before calls := by
  induction calls generalizing monitor before with
  | nil => exact (List.append_nil _).symm
  | cons call rest ih =>
    obtain ⟨agent, thresholds, events, kept⟩ := step_logged lower tracks call
    have later := ih kept
    rw [agent, thresholds, events, List.append_assoc] at later
    exact later

/-- Whatever sessions' calls are mixed, the counts that a monitor keeps say of each call what the calls before it say. -/
theorem alarms_from_history (agentId : String) (thresholds : AnomalyPolicy) (calls : List MonitorCall) :
    (run lower { agentId, thresholds } calls).events = loggedFrom lower agentId thresholds [] calls := by
  exact events_run_from lower (tracks_new agentId thresholds) calls

theorem events_prefix_step (monitor : AgentMonitor) (call : MonitorCall) :
    monitor.events <+: (monitor.step lower call).events := by
  cases call with
  | toolCall session tool params result user now =>
    simp only [step, logToolCall, checkAnomalies]
    split <;> simp [logSecurityEvent]
  | injectionAttempt session verdict details user now =>
    simp only [step, recordInjectionAttempt]
    split <;> simp [logSecurityEvent]
  | securityEvent session type severity details user now => exact List.prefix_append _ _

theorem events_injectionAttempt (monitor : AgentMonitor) (session verdict user : String) (details : JsonDict)
    (now : Readings) :
    ∃ event later, (monitor.step lower (.injectionAttempt session verdict details user now)).events =
      monitor.events ++ event :: later ∧ event.eventType = "injection_attempt" ∧ event.sessionId = session ∧
      event.details = JsonDict.update [("verdict", .str verdict)] details := by
  simp only [step, recordInjectionAttempt]
  split
  · exact ⟨_, [_], List.append_assoc _ _ _, rfl, rfl, rfl⟩
  · exact ⟨_, [], rfl, rfl, rfl, rfl⟩

end

section

variable {agentId : String} {thresholds : AnomalyPolicy} {session : String}

def ofSession (session : String) (calls : List MonitorCall) : List MonitorCall :=
  calls.filter fun call => call.sessionId = session

theorem storedAt_ofSession (calls : List MonitorCall) :
    (ofSession session calls).filterMap (·.storedAt session) = calls.filterMap (·.storedAt session) := by
  rw [ofSession, List.filterMap_filter]
  congr 1
  funext call
  by_cases own : call.sessionId = session
  · exact if_pos (decide_eq_true own)
  · rw [if_neg (by simpa using own), MonitorCall.storedAt_other own]

theorem attemptOf_ofSession (calls : List MonitorCall) :
    (ofSession session calls).countP (·.attemptOf session) = calls.countP (·.attemptOf session) := by
  rw [ofSession, List.countP_filter]
  congr 1
  funext call
  by_cases own : call.sessionId = session
  · simp [own]
  · simp [MonitorCall.attemptOf_other own]

theorem logged_ofSession (agentId : String) (thresholds : AnomalyPolicy) (before : List MonitorCall) (call : MonitorCall) :
    (∀ event ∈ logged lower agentId thresholds before call, event.sessionId = call.sessionId) ∧
      logged lower agentId thresholds (ofSession call.sessionId before) call =
        logged lower agentId thresholds before call := by
  cases call with
  | toolCall sessionId toolName params result userId now =>
    simp only [logged, MonitorCall.sessionId, storedAt_ofSession, and_true]
    split <;> simp
  | injectionAttempt sessionId verdict details userId now =>
    simp only [logged, MonitorCall.sessionId, attemptOf_ofSession, and_true]
    split <;> simp
  | securityEvent sessionId eventType severity details userId now => simp [logged, MonitorCall.sessionId]

theorem loggedFrom_ofSession (before calls : List MonitorCall) :
    (loggedFrom lower agentId thresholds before calls).filter (fun event => event.sessionId = session) =
      loggedFrom lower agentId thresholds (ofSession session before) (ofSession session calls) := by
  induction calls generalizing before with
  | nil => rfl
  | cons call rest ih =>
    obtain ⟨bears, alone⟩ := logged_ofSession lower agentId thresholds before call
    rw [loggedFrom, List.filter_append, ih]
    by_cases own : call.sessionId = session
    · have all : ∀ event ∈ logged lower agentId thresholds before call, decide (event.sessionId = session) = true :=
        fun event member => decide_eq_true ((bears event member).trans own)
      rw [List.filter_eq_self.mpr all, ← alone, own]
      simp [ofSession, own, loggedFrom]
    · have none : ∀ event ∈ logged lower agentId thresholds before call, ¬decide (event.sessionId = session) = true :=
        fun event member same => own ((bears event member).symm.trans (of_decide_eq_true same))
      rw [List.filter_eq_nil_iff.mpr none]
      simp [ofSession, own]

/-- What is logged for one session is what would be logged if there were no other. -/
theorem sessions_apart (agentId : String) (thresholds : AnomalyPolicy) (session : String) (calls : List MonitorCall) :
    (run lower { agentId, thresholds } calls).events.filter (fun event => event.sessionId = session) =
      (run lower { agentId, thresholds } (ofSession session calls)).events := by
  rw [events_run_from lower (tracks_new agentId thresholds), events_run_from lower (tracks_new agentId thresholds)]
  exact loggedFrom_ofSession lower [] calls

end

end AgentMonitor

end CysAgi
