import CysAgi.Bus.SendReceive

open Py

namespace CysAgi

/-- What `_sign_message` and `hmac.compare_digest` need of a message: five fields, and a signature of ASCII
    characters. -/
structure Fields (message : JsonDict) (sender recipient type payload timestamp : Json) (text : String) : Prop where
  sender : JsonDict.get? message "sender" = some sender
  recipient : JsonDict.get? message "recipient" = some recipient
  type : JsonDict.get? message "type" = some type
  payload : JsonDict.get? message "payload" = some payload
  timestamp : JsonDict.get? message "timestamp" = some timestamp
  signature : JsonDict.getD message "signature" (.str "") = .str text
  ascii : text.toList.all (fun c => c.val < 128) = true

theorem item_iff {message : JsonDict} {key : String} {value : Json} :
    item message key = .ok value ↔ JsonDict.get? message key = some value := by
  unfold item
  cases JsonDict.get? message key <;> simp

theorem item_error {message : JsonDict} {key : String} {exc : PyExc} (missing : item message key = .error exc) :
    ∃ text, exc = .exception text := by
  unfold item at missing
  cases found : JsonDict.get? message key with
  | none =>
    rw [found] at missing
    exact ⟨_, (Except.error.inj missing).symm⟩
  | some value =>
    rw [found] at missing
    cases missing

theorem compareDigest_ok_iff {signature : Json} {expected : String} {genuine : Bool} :
    compareDigest signature expected = .ok genuine ↔
      ∃ text, signature = .str text ∧ text.toList.all (fun c => c.val < 128) = true ∧
        decide (text = expected) = genuine := by
  cases signature with
  | str text =>
    unfold compareDigest
    dsimp only
    constructor
    · intro compared
      split_ifs at compared with ascii
      exact ⟨text, rfl, ascii, Except.ok.inj compared⟩
    · rintro ⟨other, same, ascii, rfl⟩
      cases same
      exact if_pos ascii
  | _ => simp [compareDigest]

theorem compareDigest_error {signature : Json} {expected : String} {exc : PyExc}
    (failed : compareDigest signature expected = .error exc) : ∃ text, exc = .exception text := by
  cases signature with
  | str text =>
    unfold compareDigest at failed
    dsimp only at failed
    split_ifs at failed
    exact ⟨_, (Except.error.inj failed).symm⟩
  | _ => exact ⟨_, (Except.error.inj failed).symm⟩

namespace SecureAgentBus

variable {library : BusLibrary} {now : Rat} {recipient : String} {message : JsonDict}

theorem signedByBus_ok_iff {genuine : Bool} :
    signedByBus library message = .ok genuine ↔
      ∃ sender recipient type payload timestamp signature,
        Fields message sender recipient type payload timestamp signature ∧
          decide (signature = library.digest (signedBody sender recipient type payload timestamp)) = genuine := by
  constructor
  · intro compared
    obtain ⟨sender, readSender, compared⟩ := except_bind_ok.mp compared
    obtain ⟨recipient, readRecipient, compared⟩ := except_bind_ok.mp compared
    obtain ⟨type, readType, compared⟩ := except_bind_ok.mp compared
    obtain ⟨payload, readPayload, compared⟩ := except_bind_ok.mp compared
    obtain ⟨timestamp, readTimestamp, compared⟩ := except_bind_ok.mp compared
    obtain ⟨signature, given, ascii, equal⟩ := compareDigest_ok_iff.mp compared
    exact ⟨sender, recipient, type, payload, timestamp, signature, ⟨item_ok readSender, item_ok readRecipient,
      item_ok readType, item_ok readPayload, item_ok readTimestamp, given, ascii⟩, equal⟩
  · rintro ⟨sender, recipient, type, payload, timestamp, signature, fields, equal⟩
    apply except_bind_ok.mpr ⟨sender, item_iff.mpr fields.sender, ?_⟩
    apply except_bind_ok.mpr ⟨recipient, item_iff.mpr fields.recipient, ?_⟩
    apply except_bind_ok.mpr ⟨type, item_iff.mpr fields.type, ?_⟩
    apply except_bind_ok.mpr ⟨payload, item_iff.mpr fields.payload, ?_⟩
    apply except_bind_ok.mpr ⟨timestamp, item_iff.mpr fields.timestamp, ?_⟩
    exact compareDigest_ok_iff.mpr ⟨signature, fields.signature, fields.ascii, equal⟩

theorem signedByBus_error {exc : PyExc} (failed : signedByBus library message = .error exc) :
    ∃ text, exc = .exception text := by
  have raises : ∀ key (rest : Json → Except PyExc Bool),
      (∀ value e, rest value = .error e → ∃ text, e = .exception text) →
        ∀ e, item message key >>= rest = .error e → ∃ text, e = .exception text := by
    intro key rest others
    exact except_bind_raises (fun e => item_error) others
  apply raises _ _ ?_ exc failed
  intro sender
  apply raises
  intro recipient
  apply raises
  intro type
  apply raises
  intro payload
  apply raises
  intro timestamp e
  exact compareDigest_error

structure Verified (library : BusLibrary) (now : Rat) (recipient : String) (message : JsonDict) (payload : Json) :
    Prop where
  protocol : JsonDict.get? message "protocol" = some (.str protocolVersion)
  addressed : JsonDict.get? message "recipient" = some (.str recipient)
  signed : signedByBus library message = .ok true
  recent : ∃ timestamp sent, JsonDict.get? message "timestamp" = some timestamp ∧
    library.fromisoformat timestamp = .ok sent ∧ now - sent ≤ 300
  identity : ∃ mtls, JsonDict.getD message "mtls" (.obj []) = .obj mtls ∧
    JsonDict.get? mtls "recipient_subject" = some (.str (defaultMtlsSubject recipient))
  payload : JsonDict.get? message "payload" = some payload

/-- The payload of a verified message, or a violation. -/
def RejectsOnly (library : BusLibrary) (now : Rat) (recipient : String) (message : JsonDict) : Prop :=
  match receiveMessage library now recipient message with
  | .ok payload => Verified library now recipient message payload
  | .error exc => ∃ text, exc = .securityViolation text

/-- The message can be compared, and if its signature is right, its date can be read and, unless it is over, its mTLS
    entry is a dictionary. -/
def Checkable (library : BusLibrary) (now : Rat) (message : JsonDict) : Prop :=
  ∃ sender recipient type payload timestamp signature,
    Fields message sender recipient type payload timestamp signature ∧
      (signature ≠ library.digest (signedBody sender recipient type payload timestamp) ∨
        ∃ sent, library.fromisoformat timestamp = .ok sent ∧
          (300 < now - sent ∨ ∃ mtls, JsonDict.getD message "mtls" (.obj []) = .obj mtls))

theorem Fields.unique {message : JsonDict} {sender recipient type payload timestamp : Json} {signature : String}
    {sender' recipient' type' payload' timestamp' : Json} {signature' : String}
    (fields : Fields message sender recipient type payload timestamp signature)
    (others : Fields message sender' recipient' type' payload' timestamp' signature') :
    signedBody sender' recipient' type' payload' timestamp' = signedBody sender recipient type payload timestamp ∧
      signature' = signature ∧ timestamp' = timestamp := by
  have same : ∀ {a b : Json} {key : String}, JsonDict.get? message key = some a → JsonDict.get? message key = some b →
      b = a := by
    intro a b key first second
    exact Option.some.inj (second.symm.trans first)
  have dates := same fields.timestamp others.timestamp
  rw [same fields.sender others.sender, same fields.recipient others.recipient, same fields.type others.type,
    same fields.payload others.payload, dates]
  exact ⟨rfl, Json.str.inj (others.signature.symm.trans fields.signature), rfl⟩

section

variable (versioned : JsonDict.get? message "protocol" = some (.str protocolVersion))
  (addressed : JsonDict.get? message "recipient" = some (.str recipient))

include versioned addressed

theorem receiveMessage_unsigned {exc : PyExc} (failed : signedByBus library message = .error exc) :
    receiveMessage library now recipient message = .error exc := by
  rw [receiveMessage, if_neg (not_not.mpr versioned), if_neg (not_not.mpr addressed), failed]
  rfl

theorem receiveMessage_forged (forged : signedByBus library message = .ok false) :
    receiveMessage library now recipient message = .error (.securityViolation "Invalid message signature") := by
  rw [receiveMessage, if_neg (not_not.mpr versioned), if_neg (not_not.mpr addressed), forged]
  rfl

theorem receiveMessage_signed {timestamp : Json} (signed : signedByBus library message = .ok true)
    (dated : JsonDict.get? message "timestamp" = some timestamp) :
    receiveMessage library now recipient message = (do
      let sent ← library.fromisoformat timestamp
      if 300 < now - sent then .error (.securityViolation "Message expired (possible replay attack)")
      else identified recipient message) := by
  have read := item_iff.mpr dated
  rw [receiveMessage, if_neg (not_not.mpr versioned), if_neg (not_not.mpr addressed), signed]
  show (item message "timestamp" >>= _) = _
  rw [read]
  rfl

end

theorem identified_cases {payload : Json} (delivered : JsonDict.get? message "payload" = some payload) :
    (identified recipient message = .ok payload ∧ ∃ mtls, JsonDict.getD message "mtls" (.obj []) = .obj mtls ∧
      JsonDict.get? mtls "recipient_subject" = some (.str (defaultMtlsSubject recipient))) ∨
    (identified recipient message = .error (.securityViolation "mTLS recipient identity mismatch") ∧
      ∃ mtls, JsonDict.getD message "mtls" (.obj []) = .obj mtls) ∨
    (identified recipient message = .error (.exception "object has no attribute \x27get\x27") ∧
      ∀ mtls, JsonDict.getD message "mtls" (.obj []) ≠ .obj mtls) := by
  unfold identified
  cases JsonDict.getD message "mtls" (.obj []) with
  | obj mtls =>
    by_cases named : JsonDict.get? mtls "recipient_subject" = some (.str (defaultMtlsSubject recipient))
    · exact .inl ⟨(if_pos named).trans (item_iff.mpr delivered), mtls, rfl, named⟩
    · exact .inr (.inl ⟨if_neg named, mtls, rfl⟩)
  | _ => exact .inr (.inr ⟨rfl, nofun⟩)

theorem rejectsOnly_signed_iff
    (dates : ∀ value text, library.fromisoformat value ≠ .error (.securityViolation text))
    (versioned : JsonDict.get? message "protocol" = some (.str protocolVersion))
    (addressed : JsonDict.get? message "recipient" = some (.str recipient))
    (signed : signedByBus library message = .ok true) {timestamp payload : Json}
    (dated : JsonDict.get? message "timestamp" = some timestamp)
    (delivered : JsonDict.get? message "payload" = some payload) :
    RejectsOnly library now recipient message ↔ ∃ sent, library.fromisoformat timestamp = .ok sent ∧
      (300 < now - sent ∨ ∃ mtls, JsonDict.getD message "mtls" (.obj []) = .obj mtls) := by
  unfold RejectsOnly
  rw [receiveMessage_signed versioned addressed signed dated]
  cases read : library.fromisoformat timestamp with
  | error exc =>
    constructor
    · rintro ⟨text, rfl⟩
      exact absurd read (dates timestamp text)
    · rintro ⟨sent, other, -⟩
      cases other
  | ok sent =>
    show (match (if 300 < now - sent then _ else _ : Except PyExc Json) with | .ok _ => _ | .error _ => _) ↔ _
    by_cases late : 300 < now - sent
    · rw [if_pos late]
      exact iff_of_true ⟨_, rfl⟩ ⟨sent, rfl, .inl late⟩
    · rw [if_neg late]
      rcases @identified_cases recipient _ _ delivered with
        ⟨accepted, mtls, given, named⟩ | ⟨refused, mtls, given⟩ | ⟨raised, other⟩
      · rw [accepted]
        refine iff_of_true ?_ ⟨sent, rfl, .inr ⟨mtls, given⟩⟩
        exact ⟨versioned, addressed, signed, ⟨timestamp, sent, dated, read, Rat.not_lt.mp late⟩, ⟨mtls, given, named⟩,
          delivered⟩
      · rw [refused]
        exact iff_of_true ⟨_, rfl⟩ ⟨sent, rfl, .inr ⟨mtls, given⟩⟩
      · rw [raised]
        constructor
        · rintro ⟨_, same⟩
          cases same
        · rintro ⟨_, same, past | ⟨mtls, given⟩⟩
          · cases same
            exact absurd past late
          · exact absurd given (other mtls)

theorem rejectsOnly_addressed_iff
    (dates : ∀ value text, library.fromisoformat value ≠ .error (.securityViolation text))
    (versioned : JsonDict.get? message "protocol" = some (.str protocolVersion))
    (addressed : JsonDict.get? message "recipient" = some (.str recipient)) :
    RejectsOnly library now recipient message ↔ Checkable library now message := by
  cases compared : signedByBus library message with
  | error exc =>
    unfold RejectsOnly
    rw [receiveMessage_unsigned versioned addressed compared]
    obtain ⟨text, rfl⟩ := signedByBus_error compared
    constructor
    · rintro ⟨_, other⟩
      cases other
    · rintro ⟨sender, dest, type, payload, timestamp, signature, fields, -⟩
      have ok := (@signedByBus_ok_iff library _ _).mpr ⟨sender, dest, type, payload, timestamp, signature, fields, rfl⟩
      rw [compared] at ok
      cases ok
  | ok genuine =>
    obtain ⟨sender, dest, type, payload, timestamp, signature, fields, equal⟩ := signedByBus_ok_iff.mp compared
    cases genuine with
    | false =>
      unfold RejectsOnly
      rw [receiveMessage_forged versioned addressed compared]
      refine iff_of_true ⟨_, rfl⟩ ?_
      exact ⟨sender, dest, type, payload, timestamp, signature, fields, .inl (of_decide_eq_false equal)⟩
    | true =>
      rw [rejectsOnly_signed_iff dates versioned addressed compared fields.timestamp fields.payload]
      constructor
      · intro read
        exact ⟨sender, dest, type, payload, timestamp, signature, fields, .inr read⟩
      · rintro ⟨sender', dest', type', payload', timestamp', signature', others, wrong | read⟩
        · obtain ⟨body, sign, -⟩ := Fields.unique fields others
          rw [body, sign] at wrong
          exact absurd (of_decide_eq_true equal) wrong
        · rw [(Fields.unique fields others).2.2] at read
          exact read

/-- A missing field, a signature that cannot be compared, a date that cannot be read or an mTLS entry that is no
    dictionary ends in another exception, unless an earlier check refuses the message. -/
theorem rejects_only_iff (library : BusLibrary)
    (dates : ∀ value text, library.fromisoformat value ≠ .error (.securityViolation text)) (now : Rat)
    (recipient : String) (message : JsonDict) :
    RejectsOnly library now recipient message ↔
      JsonDict.get? message "protocol" ≠ some (.str protocolVersion) ∨
      JsonDict.get? message "recipient" ≠ some (.str recipient) ∨ Checkable library now message := by
  by_cases versioned : JsonDict.get? message "protocol" = some (.str protocolVersion)
  · by_cases addressed : JsonDict.get? message "recipient" = some (.str recipient)
    · rw [rejectsOnly_addressed_iff dates versioned addressed]
      simp [versioned, addressed]
    · unfold RejectsOnly
      rw [receiveMessage, if_neg (not_not.mpr versioned), if_pos addressed]
      exact iff_of_true ⟨_, rfl⟩ (.inr (.inl addressed))
  · unfold RejectsOnly
    rw [receiveMessage, if_pos versioned]
    exact iff_of_true ⟨_, rfl⟩ (.inl versioned)

theorem rejects_only_forged :
    (∀ value text, plainLibrary.fromisoformat value ≠ .error (.securityViolation text)) ∧
      RejectsOnly plainLibrary 0 "soc" [("protocol", .str protocolVersion), ("sender", .str "intel"),
        ("recipient", .str "soc"), ("type", .str "finding"), ("payload", .obj []),
        ("timestamp", .str "2026-01-01")] := by
  have dates : ∀ value text, plainLibrary.fromisoformat value ≠ .error (.securityViolation text) := by
    intro value text failed
    cases failed
  refine ⟨dates, (rejects_only_iff plainLibrary dates 0 "soc" _).mpr (.inr (.inr ?_))⟩
  exact ⟨.str "intel", .str "soc", .str "finding", .obj [], .str "2026-01-01", "",
    ⟨rfl, rfl, rfl, rfl, rfl, rfl, rfl⟩, .inl (by decide)⟩

/-- A message without a sender, one with a null signature, and one that the bus signed but whose mTLS entry is null. -/
theorem malformed_messages_raise :
    let addressed := [("protocol", Json.str protocolVersion), ("recipient", .str "soc")]
    let unsigned := addressed ++ [("sender", .str "intel"), ("type", .str "finding"), ("payload", .obj []),
      ("timestamp", .str "2026-01-01")]
    receiveMessage plainLibrary 0 "soc" addressed = .error (.exception "\x27sender\x27") ∧
    receiveMessage plainLibrary 0 "soc" (unsigned ++ [("signature", .null)]) =
      .error (.exception "unsupported operand types(s) or combination of types") ∧
    receiveMessage plainLibrary 0 "soc" (unsigned ++ [("signature", .str "00"), ("mtls", .null)]) =
      .error (.exception "object has no attribute \x27get\x27") ∧
    ¬ (∀ message, RejectsOnly plainLibrary 0 "soc" message) := by
  have recent : ¬ (300 : Rat) < 0 - 0 := by decide +kernel
  refine ⟨rfl, rfl, (receiveMessage_signed rfl rfl rfl rfl).trans (if_neg recent), fun claimed => ?_⟩
  obtain ⟨text, other⟩ := claimed [("protocol", .str protocolVersion), ("recipient", .str "soc")]
  cases other

end SecureAgentBus

end CysAgi
