import CysAgi.Runtime.Agent

open Py

namespace CysAgi

inductive AgentTrustLevel where
  | untrusted
  | internal
  | privileged
  | system
  deriving DecidableEq

def AgentTrustLevel.value : AgentTrustLevel → Nat
  | .untrusted => 0
  | .internal => 1
  | .privileged => 2
  | .system => 3

structure CircuitBreaker where
  failureThreshold : Int := 5
  recoveryTimeout : Int := 60
  failures : Int := 0
  openedAt : Rat := 0

namespace CircuitBreaker

def isOpen (breaker : CircuitBreaker) (now : Rat) : CircuitBreaker × Bool :=
  if breaker.failures < breaker.failureThreshold then (breaker, false)
  else if breaker.recoveryTimeout ≤ now - breaker.openedAt then ({ breaker with failures := 0, openedAt := 0 }, false)
  else (breaker, true)

def recordFailure (breaker : CircuitBreaker) (now : Rat) : CircuitBreaker :=
  if breaker.failureThreshold ≤ breaker.failures + 1 then
    { breaker with failures := breaker.failures + 1, openedAt := now }
  else { breaker with failures := breaker.failures + 1 }

end CircuitBreaker

structure RegisteredAgent where
  trustLevel : AgentTrustLevel
  allowedRecipients : List String
  allowedMessageTypes : List String

structure BusEvent where
  kind : String
  details : JsonDict

/-- What the bus uses of the libraries: the keyed digest of a canonical body, the filter of
    untrusted text, and dates as seconds. -/
structure BusLibrary where
  digest : JsonDict → String
  filterUntrusted : String → String
  isoformat : Rat → String
  fromisoformat : Json → Except PyExc Rat

def plainLibrary : BusLibrary where
  digest _ := "00"
  filterUntrusted text := text
  isoformat _ := "2026-01-01T00:00:00+00:00"
  fromisoformat _ := .ok 0

structure SecureAgentBus where
  agentRegistry : Dict String RegisteredAgent := .empty
  circuitBreakers : Dict String CircuitBreaker := .empty
  securityEvents : List BusEvent := []
  breakerThreshold : Int := 5
  breakerReset : Int := 60
  escalationPaths : List (String × String)

def protocolVersion : String := "a2a/1.0"

def defaultMtlsSubject (agentId : String) : String := "spiffe://cys-agi/agent/" ++ agentId

mutual

def sanitizeValue (filter : String → String) (trusted : Bool) : Json → Json
  | .str text => .str (filter text)
  | .obj fields => .obj (sanitizeFields filter trusted fields)
  | .arr items => .arr (items.map fun item =>
    match item with
    | .str text => .str (filter text)
    | _ => item)
  | value => value

def sanitizeFields (filter : String → String) (trusted : Bool) : JsonDict → JsonDict
  | [] => []
  | (key, value) :: rest =>
    if ¬ trusted ∧ "_system".toList.isPrefixOf key.toList then sanitizeFields filter trusted rest
    else (key, sanitizeValue filter trusted value) :: sanitizeFields filter trusted rest

end

def item (message : JsonDict) (key : String) : Except PyExc Json :=
  match JsonDict.get? message key with
  | some value => .ok value
  | none => .error (.exception ("\x27" ++ key ++ "\x27"))

/-- `hmac.compare_digest` with a hexadecimal digest on the right. -/
def compareDigest (signature : Json) (expected : String) : Except PyExc Bool :=
  match signature with
  | .str text =>
    if text.toList.all fun c => c.val < 128 then .ok (text = expected)
    else .error (.exception "comparing strings with non-ASCII characters is not supported")
  | _ => .error (.exception "unsupported operand types(s) or combination of types")

namespace SecureAgentBus

def allowedTypes (trustLevel : AgentTrustLevel) : List String :=
  if trustLevel.value ≤ AgentTrustLevel.untrusted.value then ["finding"]
  else if AgentTrustLevel.privileged.value ≤ trustLevel.value then ["finding", "escalation", "control", "report"]
  else ["finding", "escalation"]

def registerAgent (bus : SecureAgentBus) (agentId : String) (trustLevel : AgentTrustLevel)
    (allowedRecipients : List String) : SecureAgentBus :=
  { bus with
    agentRegistry := bus.agentRegistry.set agentId
      { trustLevel, allowedRecipients, allowedMessageTypes := allowedTypes trustLevel }
    circuitBreakers := bus.circuitBreakers.set agentId
      { failureThreshold := bus.breakerThreshold, recoveryTimeout := bus.breakerReset } }

def recordAgentFailure (bus : SecureAgentBus) (now : Rat) (agentId : String) : SecureAgentBus :=
  { bus with circuitBreakers := bus.circuitBreakers.modify agentId fun breaker => breaker.recordFailure now }

def logEvent (bus : SecureAgentBus) (kind : String) (details : JsonDict) : SecureAgentBus :=
  { bus with securityEvents := bus.securityEvents ++ [{ kind, details }] }

def breakerOpen (bus : SecureAgentBus) (now : Rat) (agentId : String) : SecureAgentBus × Bool :=
  match bus.circuitBreakers.get? agentId with
  | none => (bus, false)
  | some breaker =>
    ({ bus with circuitBreakers := bus.circuitBreakers.set agentId (breaker.isOpen now).1 }, (breaker.isOpen now).2)

def signedBody (sender recipient type payload timestamp : Json) : JsonDict :=
  [("sender", sender), ("recipient", recipient), ("type", type), ("payload", payload), ("timestamp", timestamp)]

def envelope (library : BusLibrary) (now : Rat) (info : RegisteredAgent) (sender recipient type : String)
    (payload : JsonDict) : JsonDict :=
  let sanitized := Json.obj (sanitizeFields library.filterUntrusted
    (AgentTrustLevel.privileged.value ≤ info.trustLevel.value) payload)
  let timestamp := Json.str (library.isoformat now)
  [("protocol", .str protocolVersion), ("sender", .str sender), ("recipient", .str recipient), ("type", .str type),
    ("payload", sanitized), ("timestamp", timestamp),
    ("signature", .str (library.digest (signedBody (.str sender) (.str recipient) (.str type) sanitized timestamp))),
    ("mtls", .obj [("required", .bool true), ("sender_subject", .str (defaultMtlsSubject sender)),
      ("recipient_subject", .str (defaultMtlsSubject recipient))])]

def sendMessage (library : BusLibrary) (now : Rat) (bus : SecureAgentBus) (sender recipient type : String)
    (payload : JsonDict) : SecureAgentBus × Except PyExc JsonDict :=
  match bus.agentRegistry.get? sender with
  | none => (bus, .error (.securityViolation s!"Unknown sender agent: {sender}"))
  | some info =>
    let asked := bus.breakerOpen now sender
    if asked.2 then (asked.1, .error (.securityViolation s!"Agent {sender} circuit breaker open"))
    else if recipient ∉ info.allowedRecipients then
      (asked.1.logEvent "unauthorized_message_attempt" [("sender", .str sender), ("recipient", .str recipient)],
        .error (.securityViolation s!"Sender {sender} not authorized to message {recipient}"))
    else if type ∉ info.allowedMessageTypes then
      (asked.1, .error (.securityViolation ("Message type \x27" ++ type ++ "\x27 not allowed for " ++ sender)))
    else if (sender, recipient) ∈ bus.escalationPaths ∧
        (type ≠ "escalation" ∨ ¬ (JsonDict.getD payload "critic_approved" .null).truthy) then
      (asked.1.logEvent "blocked_privileged_escalation_path"
          [("sender", .str sender), ("recipient", .str recipient), ("type", .str type)],
        .error (.securityViolation "Privileged escalation requires critic-approved escalation message"))
    else (asked.1, .ok (envelope library now info sender recipient type payload))

def signedByBus (library : BusLibrary) (message : JsonDict) : Except PyExc Bool := do
  let body := signedBody (← item message "sender") (← item message "recipient") (← item message "type")
    (← item message "payload") (← item message "timestamp")
  compareDigest (JsonDict.getD message "signature" (.str "")) (library.digest body)

def identified (recipient : String) (message : JsonDict) : Except PyExc Json :=
  match JsonDict.getD message "mtls" (.obj []) with
  | .obj mtls =>
    if JsonDict.get? mtls "recipient_subject" = some (.str (defaultMtlsSubject recipient)) then item message "payload"
    else .error (.securityViolation "mTLS recipient identity mismatch")
  | _ => .error (.exception "object has no attribute \x27get\x27")

def receiveMessage (library : BusLibrary) (now : Rat) (recipient : String) (message : JsonDict) :
    Except PyExc Json :=
  if JsonDict.get? message "protocol" ≠ some (.str protocolVersion) then
    .error (.securityViolation "Unsupported A2A protocol version")
  else if JsonDict.get? message "recipient" ≠ some (.str recipient) then
    .error (.securityViolation "Message recipient mismatch")
  else do
    if ← signedByBus library message then
      let sent ← library.fromisoformat (← item message "timestamp")
      if 300 < now - sent then .error (.securityViolation "Message expired (possible replay attack)")
      else identified recipient message
    else .error (.securityViolation "Invalid message signature")

section

variable {library : BusLibrary} {now : Rat}

theorem receiveMessage_set_channel (recipient : String) (message : JsonDict) (channel : Json) :
    receiveMessage library now recipient (JsonDict.set message "channel" channel) =
      receiveMessage library now recipient message := by
  have same : ∀ key, key ≠ "channel" → JsonDict.get? (JsonDict.set message "channel" channel) key =
      JsonDict.get? message key := by
    intro key other
    unfold JsonDict.get? JsonDict.set
    rw [Assoc.lookup_set, if_neg other]
  unfold receiveMessage signedByBus identified item JsonDict.getD
  rw [same "protocol" (by decide), same "recipient" (by decide), same "sender" (by decide), same "type" (by decide),
    same "payload" (by decide), same "timestamp" (by decide), same "signature" (by decide), same "mtls" (by decide)]

theorem receiveMessage_envelope {later : Rat} (info : RegisteredAgent) (sender recipient type : String)
    (payload : JsonDict) (ascii : ∀ body, (library.digest body).toList.all fun c => c.val < 128)
    (read : library.fromisoformat (.str (library.isoformat now)) = .ok now) :
    receiveMessage library later recipient (envelope library now info sender recipient type payload) =
      if 300 < later - now then .error (.securityViolation "Message expired (possible replay attack)")
      else .ok (.obj (sanitizeFields library.filterUntrusted
        (AgentTrustLevel.privileged.value ≤ info.trustLevel.value) payload)) := by
  have genuine : ∀ body, compareDigest (.str (library.digest body)) (library.digest body) = .ok true := by
    intro body
    simp only [compareDigest, ascii body, if_true, decide_true]
  have signed : signedByBus library (envelope library now info sender recipient type payload) = .ok true := genuine _
  have dated : item (envelope library now info sender recipient type payload) "timestamp" =
    .ok (.str (library.isoformat now)) := rfl
  rw [receiveMessage, if_neg fun other => other rfl, if_neg fun other => other rfl, signed]
  change (item (envelope library now info sender recipient type payload) "timestamp" >>= library.fromisoformat) >>= _ = _
  rw [dated]
  change library.fromisoformat (.str (library.isoformat now)) >>= _ = _
  rw [read]
  by_cases late : 300 < later - now
  · rw [if_pos late]
    exact if_pos late
  · rw [if_neg late]
    exact (if_neg late).trans (if_pos rfl)

theorem sendMessage_raises {bus : SecureAgentBus} {sender recipient type : String} {payload : JsonDict} {e : PyExc}
    (raised : (sendMessage library now bus sender recipient type payload).2 = .error e) :
    ∃ text, e = .securityViolation text := by
  unfold sendMessage at raised
  cases registered : bus.agentRegistry.get? sender with
  | none =>
    rw [registered] at raised
    cases raised
    exact ⟨_, rfl⟩
  | some info =>
    rw [registered] at raised
    dsimp only at raised
    split_ifs at raised <;> cases raised <;> exact ⟨_, rfl⟩

theorem sendMessage_ok_iff {bus : SecureAgentBus} {sender recipient type : String} {payload message : JsonDict} :
    (sendMessage library now bus sender recipient type payload).2 = .ok message ↔
      ∃ info, (bus.agentRegistry.get? sender = some info ∧ (bus.breakerOpen now sender).2 = false ∧
        recipient ∈ info.allowedRecipients ∧ type ∈ info.allowedMessageTypes ∧
        ((sender, recipient) ∈ bus.escalationPaths →
          type = "escalation" ∧ (JsonDict.getD payload "critic_approved" .null).truthy = true)) ∧
        message = envelope library now info sender recipient type payload := by
  unfold sendMessage
  cases registered : bus.agentRegistry.get? sender with
  | none => simp
  | some info =>
    dsimp only
    split_ifs with isOpen permitted typed blocked
    · simp [isOpen]
    · simp only [false_iff]
      intro given
      obtain ⟨other, ⟨same, -, -, -, approved⟩, -⟩ := given
      obtain ⟨path, refused⟩ := blocked
      obtain ⟨escalates, trusted⟩ := approved path
      rcases refused with other | distrusted
      · exact other escalates
      · exact distrusted trusted
    · constructor
      · intro sent
        refine ⟨info, ⟨rfl, Bool.eq_false_iff.mpr isOpen, permitted, typed, ?_⟩, (Except.ok.inj sent).symm⟩
        intro path
        by_contra unapproved
        apply blocked ⟨path, ?_⟩
        by_cases escalates : type = "escalation"
        · exact .inr fun trusted => unapproved ⟨escalates, trusted⟩
        · exact .inl escalates
      · intro given
        obtain ⟨other, ⟨same, -⟩, rfl⟩ := given
        cases same
        rfl
    · simp [typed]
    · simp [permitted]

end

end SecureAgentBus

structure AgentRegistry where
  agents : Dict String AgentDefinition
  named : ∀ entry ∈ agents.entries, entry.2.name = entry.1

namespace AgentRegistry

def get (registry : AgentRegistry) (name : String) : Except PyExc AgentDefinition :=
  match registry.agents.get? name with
  | some defn => .ok defn
  | none => .error (.exception ("\x27Unknown agent: " ++ name ++ "\x27"))

def all (registry : AgentRegistry) : List AgentDefinition := registry.agents.entries.map Prod.snd

end AgentRegistry

structure BusPolicy where
  breakerFailureThreshold : Int := 5
  breakerResetSeconds : Int := 60
  escalationPaths : List (List String) := []

def escalationOnlyPaths : List (String × String) :=
  [("soc", "redteam"), ("network", "redteam"), ("intel", "redteam"), ("hunter", "redteam")]

def BusPolicy.paths (policy : BusPolicy) : List (String × String) :=
  if policy.escalationPaths = [] then escalationOnlyPaths
  else policy.escalationPaths.filterMap fun pair =>
    match pair with
    | [sender, recipient] => some (sender, recipient)
    | _ => none

def trustMap : String → AgentTrustLevel
  | "untrusted" => .untrusted
  | "internal" => .internal
  | "privileged" => .privileged
  | "system" => .system
  | _ => .internal

def registered (defn : AgentDefinition) : RegisteredAgent :=
  { trustLevel := trustMap defn.trustLevel, allowedRecipients := defn.busRecipients
    allowedMessageTypes := SecureAgentBus.allowedTypes (trustMap defn.trustLevel) }

def buildAgentBus (registry : AgentRegistry) (policy : BusPolicy) : SecureAgentBus :=
  registry.all.foldl
    (fun bus defn => bus.registerAgent defn.name (trustMap defn.trustLevel) defn.busRecipients)
    { breakerThreshold := policy.breakerFailureThreshold, breakerReset := policy.breakerResetSeconds
      escalationPaths := policy.paths }

theorem get?_buildAgentBus (registry : AgentRegistry) (policy : BusPolicy) (name : String) :
    (buildAgentBus registry policy).agentRegistry.get? name = (registry.agents.get? name).map registered := by
  have folded : ∀ (entries : List (String × AgentDefinition)) (bus : SecureAgentBus),
      (∀ entry ∈ entries, entry.2.name = entry.1) → (entries.map Prod.fst).Nodup →
      ((entries.map Prod.snd).foldl
        (fun bus defn => bus.registerAgent defn.name (trustMap defn.trustLevel) defn.busRecipients)
        bus).agentRegistry.get? name =
      ((entries.lookup name).map registered).or (bus.agentRegistry.get? name) := by
    intro entries
    induction entries with
    | nil => intro bus _ _; rfl
    | cons entry rest ih =>
      intro bus named distinct
      obtain ⟨key, defn⟩ := entry
      obtain ⟨fresh, others⟩ := List.nodup_cons.mp distinct
      have own : defn.name = key := named (key, defn) List.mem_cons_self
      rw [List.map_cons, List.foldl_cons, ih _ (fun other member => named other (List.mem_cons_of_mem _ member)) others,
        Assoc.lookup_cons, SecureAgentBus.registerAgent, own, Dict.get?_set]
      by_cases same : name = key
      · have absent : rest.lookup name = none := by
          rw [List.lookup_eq_none_iff]
          intro other member
          apply bne_iff_ne.mpr
          intro again
          exact fresh (List.mem_map.mpr ⟨other, member, again.symm.trans same⟩)
        rw [absent, if_pos same, if_pos same]
        rfl
      · rw [if_neg same, if_neg same]
  have built := folded registry.agents.entries
    { breakerThreshold := policy.breakerFailureThreshold, breakerReset := policy.breakerResetSeconds
      escalationPaths := policy.paths } registry.named registry.agents.nodup
  rw [buildAgentBus, AgentRegistry.all, built]
  exact Option.or_none

end CysAgi
