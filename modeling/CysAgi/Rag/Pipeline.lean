import CysAgi.Base.Retention
import CysAgi.Rag.ChunkDocument
import CysAgi.Rag.Noninterference
import CysAgi.Security.InputSanitizer

open Py

namespace CysAgi

structure IngestScanResult where
  contentHash : String
  approved : Bool
  verdict : String := "clean"
  reason : String := ""

/-- The sanitizer, SHA-256 in hex, Python's `str` and `str.lower`, and the hex digits of the n-th id drawn. -/
structure IngestLibrary where
  sanitizer : InputSanitizer
  sha256 : String → String
  str : Json → String
  lower : String → String
  uuidHex : Nat → String

def scanDocument (lib : IngestLibrary) (text : String) : Except PyExc IngestScanResult :=
  let contentHash := lib.sha256 text
  let verdict := lib.sanitizer.classify text
  if verdict = .hard then
    .ok { contentHash, approved := false, verdict := verdict.value, reason := "hard injection detected at ingest" }
  else
    match lib.sanitizer.sanitize text .external with
    | .ok _ => .ok { contentHash, approved := true, verdict := verdict.value }
    | .error (.securityViolation reason) => .ok { contentHash, approved := false, verdict := "hard", reason }
    | .error exc => .error exc

/-- `list(value)`. -/
def listOf : Json → Except PyExc (List Json)
  | .arr items => .ok items
  | .str text => .ok (text.toList.map fun c => .str (String.ofList [c]))
  | .obj fields => .ok (fields.map fun field => .str field.1)
  | _ => .error (.exception "object is not iterable")

def stringsOf (items : List Json) : Except PyExc (List String) :=
  items.mapM fun item =>
    match item with
    | .str text => .ok text
    | _ => .error (.exception "Input should be a valid string")

def metadataOf : Json → Except PyExc JsonDict
  | .obj fields => .ok fields
  | value => do
    let pairs ← (← listOf value).mapM fun item => do
      match ← listOf item with
      | [.str key, value] => .ok (key, value)
      | _ => .error (.exception "dictionary update sequence element is no pair")
    .ok (pairs.foldl (fun fields field => JsonDict.set fields field.1 field.2) [])

/-- `DataClassification(value)`. -/
def classificationOf : Json → Except PyExc DataClassification
  | .str raw => DataClassification.parse raw
  | _ => .error (.exception "value is not a valid DataClassification")

structure StagedDocument where
  text : String
  provenance : DocumentProvenance
  tenant : String
  classification : DataClassification
  roles : List String

inductive IngestOutcome where
  | rejected (reason hash : String)
  | ingested (chunks : Nat) (hash : String)

structure RagIndex where
  chunks : List DocumentChunk := []
  drawn : Nat := 0

/-- `upsert`. -/
def RagIndex.extend (index : RagIndex) (chunks : List DocumentChunk) : RagIndex where
  chunks := index.chunks ++ chunks
  drawn := index.drawn + chunks.length

def StagedDocument.chunks (lib : IngestLibrary) (doc : StagedDocument) (drawn : Nat) : List DocumentChunk :=
  chunkDocument (fun n => lib.uuidHex (drawn + n)) lib.lower doc.text doc.provenance doc.tenant doc.classification
    doc.roles 1200

def stagedDocument (lib : IngestLibrary) (payload : JsonDict) (scan : IngestScanResult) :
    Except PyExc StagedDocument := do
  let metadata ← metadataOf (JsonDict.getD payload "metadata" (.obj []))
  let provenance : DocumentProvenance := {
    sourceId := lib.str (JsonDict.getD payload "source_id" (.str "unknown"))
    sourceName := lib.str (JsonDict.getD payload "source_name" (.str ""))
    uploadedBy := lib.str (JsonDict.getD payload "uploaded_by" (.str ""))
    contentHash := scan.contentHash
    approved := true
    metadata }
  let tenant := lib.str (JsonDict.getD payload "tenant" (.str "default"))
  let classification ← classificationOf (JsonDict.getD payload "classification" (.str "internal"))
  let roles ← stringsOf (← listOf (JsonDict.getD payload "roles" (.arr [.str "analyst"])))
  .ok { text := lib.str (JsonDict.getD payload "text" (.str "")), provenance, tenant, classification, roles }

def consumeStagingMessage (lib : IngestLibrary) (index : RagIndex) (payload : JsonDict) :
    Except PyExc (IngestOutcome × RagIndex) := do
  let scan ← scanDocument lib (lib.str (JsonDict.getD payload "text" (.str "")))
  if scan.approved = false then .ok (.rejected scan.reason scan.contentHash, index)
  else
    let doc ← stagedDocument lib payload scan
    let chunks := doc.chunks lib index.drawn
    .ok (.ingested chunks.length scan.contentHash, index.extend chunks)

/-- `delete_tenant`, with the number of chunks it deletes. -/
def RagIndex.deleteTenant (index : RagIndex) (tenant : String) : Nat × RagIndex :=
  let kept := index.chunks.filter fun chunk => chunk.acl.tenant ≠ tenant
  (index.chunks.length - kept.length, { index with chunks := kept })

def RagIndex.search (index : RagIndex) (text : TextMatch) (query : String) (limit : Int) :
    Except PyExc (List RagChunk) :=
  .ok ((MemoryVectorStore.mk (index.chunks.map DocumentChunk.toRagChunk)).search text query limit)

inductive RagAction where
  | stage (payload : JsonDict)
  | deleteTenant (tenant : String)

def RagIndex.step (lib : IngestLibrary) (index : RagIndex) : RagAction → RagIndex
  | .stage payload =>
    match consumeStagingMessage lib index payload with
    | .ok (_, next) => next
    | .error _ => index
  | .deleteTenant tenant => (index.deleteTenant tenant).2

theorem scanDocument_eq (lib : IngestLibrary) (text : String) :
    ∃ scan, scanDocument lib text = .ok scan ∧ scan.approved = decide (lib.sanitizer.classify text ≠ .hard) := by
  unfold scanDocument
  by_cases hard : lib.sanitizer.classify text = .hard
  · exact ⟨_, if_pos hard, by simp [hard]⟩
  · rw [if_neg hard]
    cases passed : lib.sanitizer.sanitize text .external with
    | ok result => exact ⟨_, rfl, by simp [hard]⟩
    | error raised =>
      have blocked : wrapped text = false ∧ lib.sanitizer.classify text = .hard :=
        (lib.sanitizer.sanitize_raises_iff text .external).mp ⟨raised, passed⟩
      exact absurd blocked.2 hard

def stagedBy (lib : IngestLibrary) (payload : JsonDict) : Option StagedDocument :=
  match scanDocument lib (lib.str (JsonDict.getD payload "text" (.str ""))) with
  | .ok scan => if scan.approved = false then none else (stagedDocument lib payload scan).toOption
  | .error _ => none

theorem step_stage (lib : IngestLibrary) (index : RagIndex) (payload : JsonDict) :
    index.step lib (.stage payload) =
      (stagedBy lib payload).elim index fun doc => index.extend (doc.chunks lib index.drawn) := by
  obtain ⟨scan, scanned, -⟩ := scanDocument_eq lib (lib.str (JsonDict.getD payload "text" (.str "")))
  have consumed : consumeStagingMessage lib index payload =
      if scan.approved = false then .ok (.rejected scan.reason scan.contentHash, index)
      else stagedDocument lib payload scan >>= fun doc =>
        .ok (.ingested (doc.chunks lib index.drawn).length scan.contentHash,
          index.extend (doc.chunks lib index.drawn)) := by
    unfold consumeStagingMessage
    rw [scanned]
    rfl
  have brought : stagedBy lib payload =
      if scan.approved = false then none else (stagedDocument lib payload scan).toOption := by
    unfold stagedBy
    rw [scanned]
  unfold RagIndex.step
  dsimp only
  rw [consumed, brought]
  by_cases rejected : scan.approved = false
  · rw [if_pos rejected, if_pos rejected]
    rfl
  · rw [if_neg rejected, if_neg rejected]
    cases stagedDocument lib payload scan with
    | ok doc => rfl
    | error raised => rfl

/-- What a document was made of: a text that is no hard injection, and the fields of its message. -/
structure StagedFrom (lib : IngestLibrary) (payload : JsonDict) (doc : StagedDocument) : Prop where
  text : doc.text = lib.str (JsonDict.getD payload "text" (.str ""))
  passed : lib.sanitizer.classify doc.text ≠ .hard
  hash : doc.provenance.contentHash = lib.sha256 doc.text
  tenant : doc.tenant = lib.str (JsonDict.getD payload "tenant" (.str "default"))
  classification :
    classificationOf (JsonDict.getD payload "classification" (.str "internal")) = .ok doc.classification

theorem contentHash_scan {lib : IngestLibrary} {text : String} {scan : IngestScanResult}
    (scanned : scanDocument lib text = .ok scan) : scan.contentHash = lib.sha256 text := by
  unfold scanDocument at scanned
  dsimp only at scanned
  split at scanned
  · cases scanned
    rfl
  · split at scanned
    · cases scanned
      rfl
    · cases scanned
      rfl
    · cases scanned

theorem stagedFrom_of_stagedBy {lib : IngestLibrary} {payload : JsonDict} {doc : StagedDocument}
    (staged : stagedBy lib payload = some doc) : StagedFrom lib payload doc := by
  obtain ⟨scan, scanned, approved⟩ := scanDocument_eq lib (lib.str (JsonDict.getD payload "text" (.str "")))
  unfold stagedBy at staged
  rw [scanned] at staged
  dsimp only at staged
  by_cases rejected : scan.approved = false
  · rw [if_pos rejected] at staged
    cases staged
  · rw [if_neg rejected] at staged
    have made : stagedDocument lib payload scan = .ok doc := by
      cases ran : stagedDocument lib payload scan with
      | ok other =>
        rw [ran] at staged
        cases staged
        rfl
      | error raised =>
        rw [ran] at staged
        cases staged
    unfold stagedDocument at made
    obtain ⟨metadata, -, made⟩ := except_bind_ok.mp made
    obtain ⟨classification, classified, made⟩ := except_bind_ok.mp made
    obtain ⟨items, -, made⟩ := except_bind_ok.mp made
    obtain ⟨roles, -, made⟩ := except_bind_ok.mp made
    cases made
    have passed : lib.sanitizer.classify (lib.str (JsonDict.getD payload "text" (.str ""))) ≠ .hard := by
      rw [approved, Bool.not_eq_false, decide_eq_true_iff] at rejected
      exact rejected
    exact ⟨rfl, passed, contentHash_scan scanned, rfl, classified⟩

def ragRetention (lib : IngestLibrary) : Retention RagIndex RagAction DocumentChunk where
  step := RagIndex.step lib
  items := RagIndex.chunks
  keeps
    | .deleteTenant tenant, chunk => chunk.acl.tenant ≠ tenant
    | .stage _, _ => true
  adds index
    | .stage payload => (stagedBy lib payload).elim [] fun doc => doc.chunks lib index.drawn
    | .deleteTenant _ => []
  items_step index action := by
    cases action with
    | stage payload =>
      rw [step_stage, List.filter_true]
      dsimp only
      cases stagedBy lib payload with
      | none => exact (List.append_nil _).symm
      | some doc => rfl
    | deleteTenant tenant => exact (List.append_nil _).symm

def ragRun (lib : IngestLibrary) (actions : List RagAction) : RagIndex := (ragRetention lib).run {} actions

theorem tenant_of_mem {lib : IngestLibrary} {doc : StagedDocument} {drawn : Nat} {chunk : DocumentChunk}
    (member : chunk ∈ doc.chunks lib drawn) : chunk.acl.tenant = doc.tenant := by
  obtain ⟨n, bound, rfl⟩ := List.mem_mapIdx.mp member
  rfl

theorem roles_of_mem {lib : IngestLibrary} {doc : StagedDocument} {drawn : Nat} {chunk : DocumentChunk}
    (member : chunk ∈ doc.chunks lib drawn) : chunk.acl.roles = effectiveRoles (some doc.roles) := by
  obtain ⟨n, bound, rfl⟩ := List.mem_mapIdx.mp member
  rfl

theorem kept_ragRun (lib : IngestLibrary) (actions : List RagAction) (chunk : DocumentChunk) :
    chunk ∈ (ragRun lib actions).chunks ↔ (ragRetention lib).Kept {} actions chunk :=
  (ragRetention lib).mem_run_of_empty rfl actions chunk

theorem staged_of_stored {lib : IngestLibrary} {actions : List RagAction} {chunk : DocumentChunk}
    (stored : chunk ∈ (ragRun lib actions).chunks) :
    ∃ before payload after doc, actions = before ++ .stage payload :: after ∧ stagedBy lib payload = some doc ∧
      chunk ∈ doc.chunks lib (ragRun lib before).drawn ∧ .deleteTenant doc.tenant ∉ after := by
  obtain ⟨before, action, after, rfl, member, kept⟩ := (kept_ragRun lib actions chunk).mp stored
  cases action with
  | deleteTenant tenant => cases member
  | stage payload =>
    have added : chunk ∈ (stagedBy lib payload).elim [] fun doc => doc.chunks lib (ragRun lib before).drawn := member
    cases staged : stagedBy lib payload with
    | none =>
      rw [staged] at added
      cases added
    | some doc =>
      rw [staged] at added
      refine ⟨before, payload, after, doc, rfl, staged, added, ?_⟩
      intro deleted
      have spared : decide (chunk.acl.tenant ≠ doc.tenant) = true := kept _ deleted
      exact of_decide_eq_true spared (tenant_of_mem added)

/-- The store holds exactly the chunks of the documents that came in since the last deletion of their tenant. -/
theorem stored_iff_staged (lib : IngestLibrary) (actions : List RagAction) (chunk : DocumentChunk) :
    chunk ∈ (ragRun lib actions).chunks ↔
      ∃ before payload after doc, actions = before ++ .stage payload :: after ∧ stagedBy lib payload = some doc ∧
        chunk ∈ doc.chunks lib (ragRun lib before).drawn ∧ .deleteTenant doc.tenant ∉ after := by
  constructor
  · exact staged_of_stored
  · rintro ⟨before, payload, after, doc, rfl, staged, member, spared⟩
    refine (kept_ragRun lib _ chunk).mpr ⟨before, .stage payload, after, rfl, ?_, ?_⟩
    · change chunk ∈ (stagedBy lib payload).elim [] fun doc => doc.chunks lib (ragRun lib before).drawn
      rw [staged]
      exact member
    · intro later inside
      cases later with
      | stage other => rfl
      | deleteTenant tenant =>
        apply decide_eq_true
        rintro same
        rw [tenant_of_mem member] at same
        exact spared (same ▸ inside)

theorem mem_chunks_searched {index : RagIndex} {settings : RagSettings} {text : TextMatch}
    {query persona tenant : String} {roles : Option (List String)} {maxChunks : Option Int} {result : RetrievalResult}
    (answered : ragQuery settings (index.search text) query persona tenant roles maxChunks = .ok result) :
    ∀ chunk ∈ result.chunks, ∃ stored ∈ index.chunks, stored.toRagChunk = chunk := by
  intro chunk member
  have chunks : RetrievalResult.chunks <$> ragQuery settings (index.search text) query persona tenant roles maxChunks =
      .ok result.chunks := by
    rw [answered]
    rfl
  by_cases blank : strip query = ""
  · rw [ragQuery_chunks_blank blank] at chunks
    rw [← Except.ok.inj chunks] at member
    cases member
  · obtain ⟨clearance, known, -⟩ := mem_chunks_authorised answered member
    rw [ragQuery_chunks_known blank rfl known] at chunks
    rw [← Except.ok.inj chunks] at member
    have candidate := (mem_delivered member).1
    have matching := (MemoryVectorStore.search_prefix _ _ _ _).subset candidate
    obtain ⟨item, ranked, rfl⟩ := List.mem_map.mp matching
    have scored := (List.mem_insertionSort _).mp (List.mem_of_mem_filter ranked)
    obtain ⟨held, place, rfl⟩ := List.mem_map.mp scored
    exact List.mem_map.mp place

/-- After any messages and deletions, a chunk that a query returns holds paragraphs of a document that came in for a
    tenant which was not deleted since, and whose text is no hard injection; it is classified no lower than its
    document was staged or reads, and the asking persona, tenant and roles may see it. -/
theorem retrieved_from_staged (lib : IngestLibrary) (actions : List RagAction) (settings : RagSettings)
    (text : TextMatch) (query persona tenant : String) (roles : Option (List String)) (maxChunks : Option Int)
    (result : RetrievalResult)
    (answered : ragQuery settings ((ragRun lib actions).search text) query persona tenant roles maxChunks =
      .ok result) :
    ∀ chunk ∈ result.chunks, ∃ before payload after doc, actions = before ++ .stage payload :: after ∧
      StagedFrom lib payload doc ∧ .deleteTenant doc.tenant ∉ after ∧
        (∃ paragraphs, paragraphs <:+: strippedParts doc.text ∧ chunk.text = blankLine.intercalate paragraphs) ∧
          doc.classification.order ≤ chunk.acl.classification.order ∧
            (classifyText lib.lower doc.text).order ≤ chunk.acl.classification.order ∧
              (doc.tenant = tenant ∨ tenant = "default") ∧
                (∃ role ∈ effectiveRoles (some doc.roles), role ∈ effectiveRoles roles) ∧
                ∃ clearance, personaClearanceFor settings.catalog persona = .ok clearance ∧
                  chunk.acl.classification.order ≤ clearance.order := by
  intro chunk member
  obtain ⟨stored, inside, rfl⟩ := mem_chunks_searched answered chunk member
  obtain ⟨clearance, known, allowed⟩ := mem_chunks_authorised answered member
  have listed := mem_roles_of_authorises allowed (effectiveRoles_ne_nil roles)
  unfold SecureContextBuilder.authorises SecureContextBuilder.sees at allowed
  have checks := of_decide_eq_true allowed
  have visible : stored.acl.tenant = tenant ∨ tenant = "default" := of_decide_eq_true checks.1
  obtain ⟨before, payload, after, doc, split, staged, made, spared⟩ := staged_of_stored inside
  have classified := classification_of_mem _ _ _ _ _ _ _ _ made
  obtain ⟨group, gathered, joined⟩ := gathered_of_mem _ _ _ _ _ _ _ _ made
  have part : group <:+: strippedParts doc.text := by
    have whole : (Grouping.gather (overlong 1200) [] (strippedParts doc.text)).flatten = strippedParts doc.text :=
      Grouping.flatten_gather _ _
    obtain ⟨front, back, gatheredSplit⟩ := List.append_of_mem gathered
    rw [gatheredSplit, List.flatten_append, List.flatten_cons] at whole
    exact ⟨front.flatten, back.flatten, by rw [← whole, List.append_assoc]⟩
  rw [tenant_of_mem made] at visible
  have own : stored.toRagChunk.acl.roles = effectiveRoles (some doc.roles) := roles_of_mem made
  rw [own] at listed
  have shared := listed (effectiveRoles_ne_nil (some doc.roles))
  exact ⟨before, payload, after, doc, split, stagedFrom_of_stagedBy staged, spared, ⟨group, part, joined.symm⟩,
    classified.1, classified.2, visible, shared, clearance, known, checks.2.1⟩

def plainIngest : IngestLibrary where
  sanitizer := plainSanitizer
  sha256 text := text
  str
    | .str text => text
    | _ => ""
  lower text := text
  uuidHex n := String.ofList (Nat.toDigits 10 n)

def acmeRemains : List RagAction :=
  [.stage [("text", .str "playbook"), ("tenant", .str "globex")],
    .stage [("text", .str injection), ("tenant", .str "acme")],
    .stage [("text", .str "playbook"), ("tenant", .str "acme")], .deleteTenant "globex"]

def acmeResult : RetrievalResult where
  query := "playbook"
  chunks := [{ chunkId := "chunk-1", text := "playbook", acl := { tenant := "acme" } }]

theorem retrieved_from_staged_acme :
    ragQuery plainSettings ((ragRun plainIngest acmeRemains).search exactMatch) "playbook" "soc" "default" none none =
      .ok acmeResult ∧
    ∀ chunk ∈ acmeResult.chunks, ∃ before payload after doc, acmeRemains = before ++ .stage payload :: after ∧
      StagedFrom plainIngest payload doc ∧ .deleteTenant doc.tenant ∉ after ∧
        (∃ paragraphs, paragraphs <:+: strippedParts doc.text ∧ chunk.text = blankLine.intercalate paragraphs) ∧
          doc.classification.order ≤ chunk.acl.classification.order ∧
            (classifyText plainIngest.lower doc.text).order ≤ chunk.acl.classification.order ∧
              (doc.tenant = "default" ∨ "default" = "default") ∧
                (∃ role ∈ effectiveRoles (some doc.roles), role ∈ effectiveRoles none) ∧
                ∃ clearance, personaClearanceFor plainSettings.catalog "soc" = .ok clearance ∧
                  chunk.acl.classification.order ≤ clearance.order := by
  have answered : ragQuery plainSettings ((ragRun plainIngest acmeRemains).search exactMatch) "playbook" "soc"
      "default" none none = .ok acmeResult := by decide +kernel
  exact ⟨answered, retrieved_from_staged plainIngest acmeRemains _ _ _ _ _ _ _ _ answered⟩

end CysAgi
