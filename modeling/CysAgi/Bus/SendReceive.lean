import CysAgi.Base.Effect
import CysAgi.Base.JsonText
import CysAgi.Bus.SecureAgentBus

open Py Readable

namespace CysAgi

/-- `_sign_message`: the keyed digest of the body's canonical text. -/
def BusLibrary.signing (library : BusLibrary) (floats : FloatRepr) (mac : String → String) : BusLibrary :=
  { library with digest := fun body => mac (dumps floats (.obj body)) }

def Sent (library : BusLibrary) (message : JsonDict) : Prop :=
  ∃ now bus sender recipient type payload,
    (SecureAgentBus.sendMessage library now bus sender recipient type payload).2 = .ok message

structure SameSigned (sent message : JsonDict) : Prop where
  sender : JsonDict.get? message "sender" = JsonDict.get? sent "sender"
  recipient : JsonDict.get? message "recipient" = JsonDict.get? sent "recipient"
  type : JsonDict.get? message "type" = JsonDict.get? sent "type"
  payload : ∃ value original, JsonDict.get? message "payload" = some value ∧
    JsonDict.get? sent "payload" = some original ∧ value.sorted = original.sorted
  timestamp : JsonDict.get? message "timestamp" = JsonDict.get? sent "timestamp"

theorem item_ok {message : JsonDict} {key : String} {value : Json} (read : item message key = .ok value) :
    JsonDict.get? message key = some value := by
  unfold item at read
  cases found : JsonDict.get? message key with
  | none =>
    rw [found] at read
    cases read
  | some other =>
    rw [found] at read
    rw [Except.ok.inj read]

theorem compareDigest_true {signature : Json} {expected : String}
    (equal : compareDigest signature expected = .ok true) : signature = .str expected := by
  cases signature with
  | str text =>
    unfold compareDigest at equal
    dsimp only at equal
    split_ifs at equal
    rw [of_decide_eq_true (Except.ok.inj equal)]
  | _ => cases equal

namespace SecureAgentBus

section

variable {library : BusLibrary} {now : Rat} {message : JsonDict}

theorem signedByBus_true (signed : signedByBus library message = .ok true) :
    ∃ sender recipient type payload timestamp,
      JsonDict.get? message "sender" = some sender ∧ JsonDict.get? message "recipient" = some recipient ∧
      JsonDict.get? message "type" = some type ∧ JsonDict.get? message "payload" = some payload ∧
      JsonDict.get? message "timestamp" = some timestamp ∧
      JsonDict.getD message "signature" (.str "") =
        .str (library.digest (signedBody sender recipient type payload timestamp)) := by
  obtain ⟨sender, readSender, signed⟩ := except_bind_ok.mp signed
  obtain ⟨recipient, readRecipient, signed⟩ := except_bind_ok.mp signed
  obtain ⟨type, readType, signed⟩ := except_bind_ok.mp signed
  obtain ⟨payload, readPayload, signed⟩ := except_bind_ok.mp signed
  obtain ⟨timestamp, readTimestamp, signed⟩ := except_bind_ok.mp signed
  exact ⟨sender, recipient, type, payload, timestamp, item_ok readSender, item_ok readRecipient, item_ok readType,
    item_ok readPayload, item_ok readTimestamp, compareDigest_true signed⟩

theorem identified_ok {recipient : String} {payload : Json} (ok : identified recipient message = .ok payload) :
    JsonDict.get? message "payload" = some payload := by
  unfold identified at ok
  cases found : JsonDict.getD message "mtls" (.obj []) with
  | obj mtls =>
    rw [found] at ok
    dsimp only at ok
    split_ifs at ok
    exact item_ok ok
  | _ =>
    rw [found] at ok
    cases ok

theorem receiveMessage_ok {recipient : String} {payload : Json}
    (accepted : receiveMessage library now recipient message = .ok payload) :
    signedByBus library message = .ok true ∧ JsonDict.get? message "payload" = some payload := by
  unfold receiveMessage at accepted
  split_ifs at accepted
  obtain ⟨genuine, signed, accepted⟩ := except_bind_ok.mp accepted
  cases genuine with
  | false => cases accepted
  | true =>
    obtain ⟨timestamp, -, accepted⟩ := except_bind_ok.mp accepted
    obtain ⟨sent, -, accepted⟩ := except_bind_ok.mp accepted
    split_ifs at accepted
    exact ⟨signed, identified_ok accepted⟩

theorem signedBody_sorted {sender recipient type payload timestamp sender' recipient' type' payload' timestamp' : Json}
    (same : (Json.obj (signedBody sender recipient type payload timestamp)).sorted =
      (Json.obj (signedBody sender' recipient' type' payload' timestamp')).sorted) :
    sender.sorted = sender'.sorted ∧ recipient.sorted = recipient'.sorted ∧ type.sorted = type'.sorted ∧
      payload.sorted = payload'.sorted ∧ timestamp.sorted = timestamp'.sorted := by
  have fields := Json.sorted_obj_perm same
  have mem : ∀ field ∈ signedBody sender recipient type payload timestamp, (field.1, field.2.sorted) ∈
      signedBody sender'.sorted recipient'.sorted type'.sorted payload'.sorted timestamp'.sorted := by
    intro field member
    exact fields.subset (List.mem_map_of_mem member)
  simpa [signedBody] using mem

end

section

variable {library : BusLibrary} {floats : FloatRepr} {mac : String → String}

theorem same_signature (injective : Function.Injective mac) {sent message : JsonDict} {text : String}
    (genuine : Sent (library.signing floats mac) sent)
    (signed : signedByBus (library.signing floats mac) message = .ok true)
    (ours : JsonDict.getD message "signature" (.str "") = .str text)
    (issued : JsonDict.get? sent "signature" = some (.str text)) : SameSigned sent message := by
  obtain ⟨now, bus, from', dest, type', payload', returned⟩ := genuine
  obtain ⟨info, -, rfl⟩ := sendMessage_ok_iff.mp returned
  obtain ⟨sender, recipient, type, payload, timestamp, readSender, readRecipient, readType, readPayload, readTimestamp,
    signature⟩ := signedByBus_true signed
  rw [ours, ← Option.some.inj issued] at signature
  have bodies := dumps_eq_iff.mp (injective (Json.str.inj signature))
  obtain ⟨sameSender, sameRecipient, sameType, samePayload, sameTimestamp⟩ := signedBody_sorted bodies
  rw [Json.sorted_eq_str sameSender.symm] at readSender
  rw [Json.sorted_eq_str sameRecipient.symm] at readRecipient
  rw [Json.sorted_eq_str sameType.symm] at readType
  rw [Json.sorted_eq_str sameTimestamp.symm] at readTimestamp
  exact ⟨readSender, readRecipient, readType, ⟨_, _, readPayload, rfl, samePayload.symm⟩, readTimestamp⟩

end

/-- What a send returns is delivered, and what is delivered was sent: no other envelope bears the
    signature of its fields. -/
theorem receiveMessage_genuine (library : BusLibrary) (floats : FloatRepr) (mac : String → String)
    (injective : Function.Injective mac) (hexadecimal : ∀ text, (mac text).toList.all fun c => c.val < 128) :
    (∀ (bus : SecureAgentBus) (now later : Rat) (sender recipient type : String) (payload message : JsonDict),
      library.fromisoformat (.str (library.isoformat now)) = .ok now →
      (sendMessage (library.signing floats mac) now bus sender recipient type payload).2 = .ok message →
      later - now ≤ 300 →
      ∃ info, bus.agentRegistry.get? sender = some info ∧
        receiveMessage (library.signing floats mac) later recipient message =
          .ok (.obj (sanitizeFields library.filterUntrusted
            (AgentTrustLevel.privileged.value ≤ info.trustLevel.value) payload))) ∧
    ∀ (issued : List JsonDict) (now : Rat) (recipient : String) (message : JsonDict) (payload : Json),
      (∀ sent ∈ issued, Sent (library.signing floats mac) sent) →
      (∀ text, JsonDict.getD message "signature" (.str "") = .str (mac text) →
        ∃ sent ∈ issued, JsonDict.get? sent "signature" = some (.str (mac text))) →
      receiveMessage (library.signing floats mac) now recipient message = .ok payload →
      JsonDict.get? message "payload" = some payload ∧ ∃ sent ∈ issued, SameSigned sent message := by
  constructor
  · intro bus now later sender recipient type payload message dated returned fresh
    obtain ⟨info, ⟨registered, -⟩, rfl⟩ := sendMessage_ok_iff.mp returned
    have received : receiveMessage (library.signing floats mac) later recipient
        (envelope (library.signing floats mac) now info sender recipient type payload) = _ :=
      receiveMessage_envelope info sender recipient type payload (fun body => hexadecimal _) dated
    rw [if_neg (Rat.not_lt.mpr fresh)] at received
    exact ⟨info, registered, received⟩
  · intro issued now recipient message payload genuine unforged accepted
    obtain ⟨signed, delivered⟩ := receiveMessage_ok accepted
    obtain ⟨sender, recipient', type, value, timestamp, -, -, -, -, -, signature⟩ := signedByBus_true signed
    obtain ⟨sent, member, issuedSignature⟩ := unforged _ signature
    exact ⟨delivered, sent, member, same_signature injective (genuine sent member) signed signature issuedSignature⟩

def hexText (text : String) : String :=
  String.ofList (text.toList.flatMap fun c => hex4 (c.toNat / 65536) ++ hex4 (c.toNat % 65536))

theorem hexText_injective : Function.Injective hexText := by
  have blocks : ∀ cs ds : List Char,
      cs.flatMap (fun c => hex4 (c.toNat / 65536) ++ hex4 (c.toNat % 65536)) =
        ds.flatMap (fun c => hex4 (c.toNat / 65536) ++ hex4 (c.toNat % 65536)) → cs = ds := by
    intro cs
    induction cs with
    | nil =>
      intro ds same
      cases ds with
      | nil => rfl
      | cons d ds => cases same
    | cons c cs ih =>
      intro ds same
      cases ds with
      | nil => cases same
      | cons d ds =>
        rw [List.flatMap_cons, List.flatMap_cons] at same
        obtain ⟨first, rest⟩ := List.append_inj same rfl
        obtain ⟨high, low⟩ := List.append_inj first rfl
        have validC : c.toNat < 0xd800 ∨ 0xdfff < c.toNat ∧ c.toNat < 0x110000 := c.valid
        have validD : d.toNat < 0xd800 ∨ 0xdfff < d.toNat ∧ d.toNat < 0x110000 := d.valid
        have highs := hex4_inj (by omega) (by omega) high
        have lows := hex4_inj (by omega) (by omega) low
        have code : c.toNat = d.toNat := by omega
        rw [Char.toNat_inj.mp code, ih ds rest]
  intro a b same
  exact String.toList_inj.mp (blocks _ _ (String.ofList_inj.mp same))

theorem hexText_ascii (text : String) : (hexText text).toList.all fun c => c.val < 128 := by
  have digit : ∀ n : Nat, decide ((n % 16).digitChar.val < 128) = true := by
    intro n
    have each : ∀ d : Fin 16, decide ((Nat.digitChar d.val).val < 128) = true := by decide
    exact each ⟨n % 16, Nat.mod_lt n (by decide)⟩
  have block : ∀ n : Nat, (hex4 n).all (fun c => c.val < 128) = true := by
    intro n
    simp only [hex4, List.all_cons, List.all_nil, digit, Bool.and_true]
  rw [hexText, String.toList_ofList, List.all_flatMap]
  simp only [List.all_append, block, Bool.and_true, List.all_eq_true, implies_true]

def intelBus : SecureAgentBus :=
  SecureAgentBus.registerAgent { escalationPaths := escalationOnlyPaths } "intel" .internal ["soc"]

def webFinding : JsonDict :=
  [("_system_role", .str "root"), ("iocs", .arr [.str "198.51.100.7", .float (1 / 2)]),
    ("host", .obj [("_system", .null), ("name", .str "web\n\"1\"")])]

theorem receiveMessage_genuine_intel : ∃ message,
    (sendMessage (plainLibrary.signing fractions hexText) 0 intelBus "intel" "soc" "finding" webFinding).2 =
      .ok message ∧
    receiveMessage (plainLibrary.signing fractions hexText) 300 "soc" message =
      .ok (.obj [("iocs", .arr [.str "198.51.100.7", .float (1 / 2)]), ("host", .obj [("name", .str "web\n\"1\"")])]) ∧
    ∃ sent ∈ [message], SameSigned sent message := by
  obtain ⟨delivered, genuine⟩ := receiveMessage_genuine plainLibrary fractions hexText hexText_injective hexText_ascii
  have returned : (sendMessage (plainLibrary.signing fractions hexText) 0 intelBus "intel" "soc" "finding"
      webFinding).2 = .ok _ := sendMessage_ok_iff.mpr ⟨_, ⟨rfl, by decide, by decide, by decide, by decide⟩, rfl⟩
  obtain ⟨info, registered, received⟩ := delivered intelBus 0 300 "intel" "soc" "finding" webFinding _ rfl returned
    (by decide +kernel)
  cases registered
  refine ⟨_, returned, received, ?_⟩
  refine (genuine _ 300 "soc" _ _ ?_ ?_ received).2
  · intro sent member
    rw [List.mem_singleton.mp member]
    exact ⟨_, _, _, _, _, _, returned⟩
  · intro text signature
    exact ⟨_, List.mem_singleton_self _, congrArg some signature⟩

end SecureAgentBus

end CysAgi
