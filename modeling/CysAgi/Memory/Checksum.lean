import CysAgi.Base.Text
import Mathlib.Data.List.Sort

open Py

namespace CysAgi

def defaultSigningKey : List UInt8 := "cys-agi-default-key".toUTF8.data.toList

/-- `str.encode()`. -/
def encodeUtf8 (text : String) : List UInt8 := text.toUTF8.data.toList

structure MemoryEntryValidator where
  sha256Hex : List UInt8 → String
  namespaceKey : String
  signingKey : List UInt8 := defaultSigningKey

namespace MemoryEntryValidator

def payload (validator : MemoryEntryValidator) (content : String) : List UInt8 :=
  encodeUtf8 (content ++ validator.namespaceKey) ++ validator.signingKey

def checksum (validator : MemoryEntryValidator) (content : String) : String :=
  String.ofList ((validator.sha256Hex (validator.payload content)).toList.take 16)

def verifyChecksum (validator : MemoryEntryValidator) (content checksum : String) : Bool :=
  validator.checksum content = checksum

end MemoryEntryValidator

/-- The namespace of `MemoryWriteService` and `MemoryReadService`. -/
def namespaceKey (tenantId investigationId : String) : String := tenantId ++ ":" ++ investigationId

structure MemoryService where
  sha256Hex : List UInt8 → String
  signingKey : Option (List UInt8) := none

/-- `signing_key or b"cys-agi-default-key"`. -/
def MemoryService.validator (service : MemoryService) (tenantId investigationId : String) : MemoryEntryValidator where
  sha256Hex := service.sha256Hex
  namespaceKey := namespaceKey tenantId investigationId
  signingKey := if service.signingKey.getD [] = [] then defaultSigningKey else service.signingKey.getD []

structure StoredMemoryEntry where
  content : String
  trustScore : Rat := 1
  checksum : String := ""
  createdAt : Rat := 0
  deriving DecidableEq

def memoryTtlSeconds : Rat := 24 * 7 * 3600

/-- `MemoryReadService.query_investigation` on what the store answers. An entry without a checksum is not
    checked. -/
def MemoryService.queryInvestigation (service : MemoryService) (now : Rat) (stored : List StoredMemoryEntry)
    (tenantId investigationId : String) (limit : Int) (requestingTenantId : Option String) : List StoredMemoryEntry :=
  if requestingTenantId ≠ none ∧ requestingTenantId ≠ some tenantId then []
  else
    let valid := stored.filter fun entry =>
      ¬ entry.createdAt < now - memoryTtlSeconds ∧
        (entry.checksum = "" ∨ (service.validator tenantId investigationId).verifyChecksum entry.content entry.checksum)
    sliceTo (valid.insertionSort fun first second => second.trustScore ≤ first.trustScore) limit

theorem joined_unique_iff {α : Type} (separator : α) (content tenant investigation : List α) :
    (∀ content' tenant' investigation',
      content' ++ (tenant' ++ separator :: investigation') = content ++ (tenant ++ separator :: investigation) →
        content' = content ∧ tenant' = tenant ∧ investigation' = investigation) ↔
      content = [] ∧ tenant = [] ∧ separator ∉ investigation := by
  constructor
  · intro unique
    have noContent : content = [] := by
      cases content with
      | nil => rfl
      | cons a rest =>
        have shifted := (unique [] (a :: rest ++ tenant) investigation (by rw [List.nil_append, List.append_assoc])).1
        cases shifted
    rw [noContent] at unique
    have noTenant : tenant = [] := by
      have shifted := (unique tenant [] investigation rfl).1
      exact shifted
    rw [noTenant] at unique
    refine ⟨noContent, noTenant, ?_⟩
    intro member
    obtain ⟨before, behind, same⟩ := List.append_of_mem member
    have shifted := (unique [] (separator :: before) behind (by rw [same]; rfl)).2.1
    cases shifted
  · intro given content' tenant' investigation' same
    obtain ⟨rfl, rfl, free⟩ := given
    cases content' with
    | nil =>
      cases tenant' with
      | nil => exact ⟨rfl, rfl, (List.cons.inj same).2⟩
      | cons a rest =>
        have tail := (List.cons.inj same).2
        exact absurd (tail ▸ List.mem_append_right rest List.mem_cons_self) free
    | cons a rest =>
      have tail := (List.cons.inj same).2
      exact absurd (tail ▸ List.mem_append_right rest (List.mem_append_right tenant' List.mem_cons_self)) free

section

variable (service : MemoryService)

theorem encodeUtf8_inj {first second : String} (same : encodeUtf8 first = encodeUtf8 second) : first = second := by
  have bytes : first.toByteArray.data = second.toByteArray.data := Array.toList_inj.mp same
  exact String.toByteArray_inj.mp (ByteArray.ext bytes)

theorem payload_eq_iff (content content' tenant tenant' investigation investigation' : String) :
    (service.validator tenant' investigation').payload content' = (service.validator tenant investigation).payload content ↔
      content'.toList ++ (tenant'.toList ++ ':' :: investigation'.toList) =
        content.toList ++ (tenant.toList ++ ':' :: investigation.toList) := by
  have joined : ∀ content tenant investigation : String,
      (content ++ namespaceKey tenant investigation).toList =
        content.toList ++ (tenant.toList ++ ':' :: investigation.toList) := by
    intro content tenant investigation
    simp only [namespaceKey, String.toList_append, List.append_assoc]
    rfl
  rw [← joined, ← joined]
  constructor
  · intro same
    exact congrArg String.toList (encodeUtf8_inj (List.append_cancel_right same))
  · intro same
    show encodeUtf8 (content' ++ namespaceKey tenant' investigation') ++ _ = _
    rw [String.toList_inj.mp same]
    rfl

/-- An entry is checked against no other content and namespace exactly when its content and tenant are empty and
    its investigation has no colon. -/
theorem verifyChecksum_bound_iff (content tenant investigation checksum : String)
    (valid : (service.validator tenant investigation).verifyChecksum content checksum = true)
    (collisionFree : ∀ message,
      (service.sha256Hex message).toList.take 16 =
        (service.sha256Hex ((service.validator tenant investigation).payload content)).toList.take 16 →
      message = (service.validator tenant investigation).payload content) :
    (∀ content' tenant' investigation', (content', tenant', investigation') ≠ (content, tenant, investigation) →
      (service.validator tenant' investigation').verifyChecksum content' checksum = false) ↔
      content = "" ∧ tenant = "" ∧ ':' ∉ investigation.toList := by
  have stored : (service.validator tenant investigation).checksum content = checksum := of_decide_eq_true valid
  have accepts : ∀ content' tenant' investigation',
      (service.validator tenant' investigation').verifyChecksum content' checksum = true ↔
        content'.toList ++ (tenant'.toList ++ ':' :: investigation'.toList) =
          content.toList ++ (tenant.toList ++ ':' :: investigation.toList) := by
    intro content' tenant' investigation'
    rw [← payload_eq_iff service]
    unfold MemoryEntryValidator.verifyChecksum
    rw [← stored, decide_eq_true_iff]
    constructor
    · intro same
      exact collisionFree _ (String.ofList_inj.mp same)
    · intro same
      unfold MemoryEntryValidator.checksum
      rw [same]
      rfl
  have unique := joined_unique_iff ':' content.toList tenant.toList investigation.toList
  rw [String.toList_eq_nil_iff, String.toList_eq_nil_iff] at unique
  rw [← unique]
  constructor
  · intro bound content' tenant' investigation' same
    by_contra differs
    have other : (String.ofList content', String.ofList tenant', String.ofList investigation') ≠
        (content, tenant, investigation) := by
      intro equal
      cases equal
      exact differs ⟨String.toList_ofList.symm, String.toList_ofList.symm, String.toList_ofList.symm⟩
    have refused := bound _ _ _ other
    have accepted := (accepts (String.ofList content') (String.ofList tenant') (String.ofList investigation')).mpr
      (by rw [String.toList_ofList, String.toList_ofList, String.toList_ofList]; exact same)
    rw [accepted] at refused
    cases refused
  · intro alone content' tenant' investigation' differs
    rw [← Bool.not_eq_true, accepts]
    intro same
    obtain ⟨one, two, three⟩ := alone _ _ _ same
    rw [String.toList_inj.mp one, String.toList_inj.mp two, String.toList_inj.mp three] at differs
    exact differs rfl

end

def sampleSha256 (message : List UInt8) : String :=
  if message = encodeUtf8 ":inv-1" ++ defaultSigningKey then
    "6f9999f0c5382d2acda318bfcfef4ce943eddd141d560751ea8a0ac1c3a12f34"
  else if message = encodeUtf8 "factacme:eu:inv-1" ++ defaultSigningKey then
    "5b66cca5abdead59cc5c5fff762f9d18198faf61a684aa28b1fda7cc416328a0"
  else ""

def sampleMemory : MemoryService := { sha256Hex := sampleSha256 }

def europeanEntry : StoredMemoryEntry := { content := "fact", checksum := "5b66cca5abdead59" }

/-- The entry of one tenant is read by another, whose name is the beginning of its name. -/
theorem checksum_replayed :
    (sampleMemory.validator "acme:eu" "inv-1").verifyChecksum "fact" europeanEntry.checksum = true ∧
    (sampleMemory.validator "acme" "eu:inv-1").verifyChecksum "fact" europeanEntry.checksum = true ∧
    sampleMemory.queryInvestigation 60 [europeanEntry] "acme" "eu:inv-1" 20 (some "acme") = [europeanEntry] := by
  decide +kernel

theorem verifyChecksum_bound_iff_inv :
    (∀ content' tenant' investigation', (content', tenant', investigation') ≠ ("", "", "inv-1") →
      (sampleMemory.validator tenant' investigation').verifyChecksum content' "6f9999f0c5382d2a" = false) ↔
      "" = "" ∧ "" = "" ∧ ':' ∉ "inv-1".toList := by
  apply verifyChecksum_bound_iff sampleMemory "" "" "inv-1" "6f9999f0c5382d2a"
  · decide +kernel
  · intro message same
    have message0 : (sampleMemory.validator "" "inv-1").payload "" = encodeUtf8 ":inv-1" ++ defaultSigningKey := rfl
    rw [message0] at same ⊢
    by_contra differs
    unfold sampleMemory sampleSha256 at same
    simp only [if_pos, if_neg differs] at same
    by_cases second : message = encodeUtf8 "factacme:eu:inv-1" ++ defaultSigningKey
    · rw [if_pos second] at same
      exact absurd same (by decide +kernel)
    · rw [if_neg second] at same
      exact absurd same (by decide +kernel)

end CysAgi
