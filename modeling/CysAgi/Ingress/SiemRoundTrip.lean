import CysAgi.Base.Schema
import CysAgi.Ingress.EventIngress

namespace CysAgi

open Py

/-- What `EventIn` takes of a request. -/
def EventIn.modelValidate (body : JsonDict) : Except PyExc EventIn := do
  let eventType ← text "event_type" none
  let payload ← match JsonDict.get? body "payload" with
    | none => pure []
    | some (.obj fields) => pure fields
    | some _ => .error (invalid "payload")
  let severity ← text "severity" (some "medium")
  let source ← text "source" (some "")
  let eventId ← match JsonDict.get? body "event_id" with
    | none | some .null => pure none
    | some (.str eventId) => pure (some eventId)
    | some _ => .error (invalid "event_id")
  let correlationId ← text "correlation_id" (some "")
  return { eventType, payload, severity, source, eventId, correlationId }
where
  invalid (field : String) : PyExc := .exception s!"validation error for EventIn: {field}"
  text (field : String) (default : Option String) : Except PyExc String :=
    match JsonDict.get? body field, default with
    | some (.str text), _ => .ok text
    | none, some default => .ok default
    | _, _ => .error (invalid field)

structure SiemPollClient where
  str : Json → String
  sanitizer : InputSanitizer
  source : String := "siem_poll"

namespace SiemPollClient

/-- `record.get(key) or .. or last`. -/
def firstOf (record : JsonDict) (keys : List String) (last : String) : Json :=
  match keys.find? fun key => (JsonDict.getD record key .null).truthy with
  | some key => JsonDict.getD record key .null
  | none => .str last

variable (client : SiemPollClient)

def fromSiemRecord (record : JsonDict) (hex : String) : SiemRawAlert where
  id := orElse (client.str (firstOf record ["id", "_id", "event_id"] "")) s!"siem-{hex}"
  ruleName := client.str (firstOf record ["rule_name", "rule", "search_name"] "")
  severity := client.str (firstOf record ["severity", "urgency"] "medium")
  message := client.str (firstOf record ["message", "description", "_raw"] "")
  host := client.str (firstOf record ["host", "dest", "src_host"] "")
  sourceType := client.str (firstOf record ["source_type", "sourcetype"] "")
  raw := record

def dictsOf : Json → Option (List JsonDict)
  | .arr items => some (items.filterMap fun
    | .obj record => some record
    | _ => none)
  | _ => none

def extractAlertRecords : Json → List JsonDict
  | .obj data => (["results", "alerts", "data", "items"].findSome? fun key =>
      dictsOf (JsonDict.getD data key .null)).getD []
  | data => (dictsOf data).getD []

def fetchAlerts (answer : Json) (hex : Nat → String) : List SiemRawAlert :=
  (extractAlertRecords answer).zipIdx.map fun (record, index) => client.fromSiemRecord record (hex index)

def normalized (alert : SiemRawAlert) : SecurityEvent :=
  normalizeSiemAlert client.sanitizer.patterns.lower alert client.source

/-- `poll_once` builds the event, before or after it is sanitized. -/
def Builds (answer : Json) (hex : Nat → String) (event : SecurityEvent) : Prop :=
  ∃ alert ∈ client.fetchAlerts answer hex,
    event = client.normalized alert ∨ client.sanitizer.sanitizeEvent (client.normalized alert) = .ok (some event)

end SiemPollClient

/-- The dict that `event_to_ingress_body` returns. -/
def ingressBody (event : SecurityEvent) : JsonDict :=
  [("event_type", .str event.type), ("payload", .obj event.payload), ("severity", .str event.severity),
    ("source", .str event.source), ("event_id", .str event.id), ("correlation_id", .str event.correlationId)]

def readBack (event : SecurityEvent) (eventHex : String) : Except PyExc SecurityEvent := do
  buildEvent (← EventIn.modelValidate (ingressBody event)) eventHex

structure Ingressable (event : SecurityEvent) : Prop where
  type : event.type ∈ eventTypes
  severity : event.severity ∈ severityOrder
  named : event.id ≠ ""
  tenant : event.tenantId = "default"

theorem modelValidate_ingressBody (event : SecurityEvent) :
    EventIn.modelValidate (ingressBody event) = .ok (eventToIngressBody event) := rfl

theorem readBack_eq_iff (event : SecurityEvent) (eventHex : String) :
    readBack event eventHex = .ok event ↔ Ingressable event := by
  have body : readBack event eventHex = buildEvent (eventToIngressBody event) eventHex := by
    unfold readBack
    rw [modelValidate_ingressBody]
    rfl
  rw [body]
  unfold buildEvent
  constructor
  · intro same
    split at same
    · rename_i valid
      have same := Except.ok.inj same
      have tenant := congrArg SecurityEvent.tenantId same
      refine ⟨valid.1, valid.2, ?_, tenant.symm⟩
      intro unnamed
      have id := congrArg SecurityEvent.id same
      simp [eventToIngressBody, orElse, unnamed] at id
      exact absurd id.1 (by decide)
    · cases same
  · rintro ⟨type, severity, named, tenant⟩
    rw [if_pos ⟨type, severity⟩]
    simp [eventToIngressBody, orElse, named, ← tenant]

namespace SiemPollClient

variable {client : SiemPollClient}

theorem mapSiemSeverity_mem (lower : String → String) (raw : String) : mapSiemSeverity lower raw ∈ severityOrder := by
  have known : ∀ entry ∈ siemSeverities, entry.2 ∈ severityOrder := by decide
  unfold mapSiemSeverity
  cases found : siemSeverities.lookup (lower (strip raw)) with
  | none => decide
  | some severity => exact known _ (mem_of_lookup found)

theorem fromSiemRecord_id (client : SiemPollClient) (record : JsonDict) (hex : String) :
    (client.fromSiemRecord record hex).id ≠ "" := by
  unfold fromSiemRecord orElse
  split
  · intro empty
    have prefixed := String.append_eq_empty_iff.mp empty
    exact absurd prefixed.1 (by decide)
  · assumption

theorem ingressable_normalized {alert : SiemRawAlert} (named : alert.id ≠ "") :
    Ingressable (client.normalized alert) where
  type := by
    show "siem.alert" ∈ eventTypes
    decide
  severity := mapSiemSeverity_mem _ _
  named := named
  tenant := rfl

theorem ingressable_sanitizeEvent {event safe : SecurityEvent} (ingressable : Ingressable event)
    (passed : client.sanitizer.sanitizeEvent event = .ok (some safe)) : Ingressable safe := by
  unfold InputSanitizer.sanitizeEvent at passed
  split at passed
  · cases passed
    exact ⟨ingressable.type, ingressable.severity, ingressable.named, ingressable.tenant⟩
  · cases passed
  · cases passed

theorem ingressable_of_builds {answer : Json} {hex : Nat → String} {event : SecurityEvent}
    (built : client.Builds answer hex event) : Ingressable event := by
  obtain ⟨alert, fetched, made⟩ := built
  obtain ⟨⟨record, index⟩, -, rfl⟩ := List.mem_map.mp fetched
  have before : Ingressable (client.normalized (client.fromSiemRecord record (hex index))) :=
    ingressable_normalized (fromSiemRecord_id client record (hex index))
  rcases made with rfl | passed
  · exact before
  · exact ingressable_sanitizeEvent before passed

/-- The ingress reads every event that the poller builds back from its body as it was. -/
theorem readBack_built {answer : Json} {hex : Nat → String} {event : SecurityEvent}
    (built : client.Builds answer hex event) (eventHex : String) : readBack event eventHex = .ok event := by
  rw [readBack_eq_iff]
  exact ingressable_of_builds built

def splunk : SiemPollClient where
  str
    | .str text => text
    | _ => "1"
  sanitizer := plainSanitizer
  source := "splunk"

def notable : JsonDict := [("_id", .str "notable-7"), ("urgency", .str "severe"), ("rule", .str "beaconing")]

def notableEvent : SecurityEvent := splunk.normalized (splunk.fromSiemRecord notable "")

theorem readBack_notable : readBack notableEvent "1" = .ok notableEvent := by
  have fetched : splunk.Builds (.obj [("results", .arr [.obj notable])]) (fun _ => "") notableEvent :=
    ⟨_, List.mem_singleton.mpr rfl, .inl rfl⟩
  exact readBack_built fetched "1"

end SiemPollClient

end CysAgi
