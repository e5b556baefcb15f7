import CysAgi.Base.Text
import CysAgi.Base.Effect
import CysAgi.Workers.Models

open Py

namespace CysAgi

inductive DataClassification where
  | publicData
  | internal
  | confidential
  | restricted
  deriving DecidableEq

namespace DataClassification

def order : DataClassification → Nat
  | .publicData => 0
  | .internal => 1
  | .confidential => 2
  | .restricted => 3

def parse (raw : String) : Except PyExc DataClassification :=
  if raw = "public" then .ok .publicData
  else if raw = "internal" then .ok .internal
  else if raw = "confidential" then .ok .confidential
  else if raw = "restricted" then .ok .restricted
  else .error (.exception ("\x27" ++ raw ++ "\x27 is not a valid DataClassification"))

end DataClassification

def personaClearances : List (String × DataClassification) :=
  [("soc", .confidential), ("network", .confidential), ("compliance", .restricted), ("redteam", .confidential),
    ("intel", .confidential), ("hunter", .confidential), ("identity", .confidential), ("dfir", .restricted),
    ("cloud", .confidential), ("purple", .internal), ("consultant", .internal), ("coordinator", .restricted),
    ("critic", .internal)]

def personaClearancePure (persona : String) (dataClearance : Option String) : Except PyExc DataClassification :=
  match dataClearance with
  | some raw =>
    if raw = "" then .ok ((personaClearances.lookup persona).getD .internal) else DataClassification.parse raw
  | none => .ok ((personaClearances.lookup persona).getD .internal)

def personaClearanceFor (catalog : String → Except PyExc (Option String)) (persona : String) :
    Except PyExc DataClassification :=
  match catalog persona with
  | .ok entry => personaClearancePure persona entry
  | .error exc => if exc.caught then personaClearancePure persona none else .error exc

structure ChunkACL where
  tenant : String := "default"
  classification : DataClassification := .internal
  roles : List String := ["analyst"]
  deriving DecidableEq

structure RagChunk where
  chunkId : String
  text : String
  acl : ChunkACL := {}
  deriving DecidableEq

structure RetrievalResult where
  query : String
  chunks : List RagChunk := []
  deniedCount : Nat := 0
  failClosed : Bool := false
  error : String := ""
  deriving DecidableEq

structure SecureContextBuilder where
  persona : String
  tenant : String
  roles : List String

namespace SecureContextBuilder

variable (catalog : String → Except PyExc (Option String)) (ctx : SecureContextBuilder)

def canAccess (classification : DataClassification) : Except PyExc Bool := do
  let clearance ← personaClearanceFor catalog ctx.persona
  .ok (classification.order ≤ clearance.order)

def includeInContext (classification : DataClassification) : Except PyExc Bool :=
  if classification = .restricted then do
    let clearance ← personaClearanceFor catalog ctx.persona
    .ok (clearance = .restricted)
  else ctx.canAccess catalog classification

end SecureContextBuilder

section

variable (catalog : String → Except PyExc (Option String)) (ctx : SecureContextBuilder)

def aclAllows (chunkAcl : ChunkACL) : Except PyExc Bool :=
  if chunkAcl.tenant ≠ ctx.tenant ∧ ctx.tenant ≠ "default" then .ok false
  else do
    if ← ctx.canAccess catalog chunkAcl.classification then
      if chunkAcl.roles ≠ [] ∧ ctx.roles ≠ [] then .ok (chunkAcl.roles.any fun role => role ∈ ctx.roles)
      else .ok true
    else .ok false

def examineChunk (chunk : RagChunk) (found : List RagChunk × Nat) : Except PyExc (List RagChunk × Nat) := do
  if ← aclAllows catalog ctx chunk.acl then
    if ← ctx.includeInContext catalog chunk.acl.classification then .ok (found.1 ++ [chunk], found.2)
    else .ok found
  else .ok (found.1, found.2 + 1)

def examine (limit : Int) : List RagChunk → List RagChunk × Nat → Except PyExc (List RagChunk × Nat)
  | [], found => .ok found
  | chunk :: rest, found => do
    let found ← examineChunk catalog ctx chunk found
    if limit ≤ found.1.length then .ok found else examine limit rest found

end

/-- `roles or ["analyst"]`. -/
def effectiveRoles (roles : Option (List String)) : List String :=
  if roles.getD [] = [] then ["analyst"] else roles.getD []

structure RagSettings where
  catalog : String → Except PyExc (Option String)
  ragMaxChunks : Int := 5

def RagSettings.limit (settings : RagSettings) (maxChunks : Option Int) : Int :=
  if maxChunks.getD 0 = 0 then settings.ragMaxChunks else maxChunks.getD 0

/-- The store is what its `search` answers. -/
def ragQuery (settings : RagSettings) (search : String → Int → Except PyExc (List RagChunk)) (query persona : String)
    (tenant : String) (roles : Option (List String)) (maxChunks : Option Int) : Except PyExc RetrievalResult :=
  if strip query = "" then .ok { query, failClosed := true, error := "empty query" }
  else
    let limit := settings.limit maxChunks
    let ctx : SecureContextBuilder := { persona, tenant, roles := effectiveRoles roles }
    match search query (limit * 3) with
    | .error exc =>
      if exc.caught then .ok { query, failClosed := true, error := s!"retrieval failed: {exc.message}" }
      else .error exc
    | .ok candidates => do
      let found ← examine settings.catalog ctx limit candidates ([], 0)
      if found.1 = [] then
        .ok { query, deniedCount := found.2, failClosed := true, error := "no ACL-authorized chunks retrieved" }
      else .ok { query, chunks := found.1, deniedCount := found.2 }

def SecureContextBuilder.sees (ctx : SecureContextBuilder) (chunk : RagChunk) : Bool :=
  chunk.acl.tenant = ctx.tenant ∨ ctx.tenant = "default"

def SecureContextBuilder.authorises (ctx : SecureContextBuilder) (clearance : DataClassification)
    (chunk : RagChunk) : Bool :=
  ctx.sees chunk ∧ chunk.acl.classification.order ≤ clearance.order ∧
    (chunk.acl.roles = [] ∨ ctx.roles = [] ∨ chunk.acl.roles.any fun role => role ∈ ctx.roles)

def examined (limit : Int) (candidates : List RagChunk) : List RagChunk :=
  if 1 ≤ limit then candidates else candidates.take 1

def capacity (limit : Int) : Nat := if 1 ≤ limit then limit.toNat else 1

def delivered (limit : Int) (authorised : RagChunk → Bool) (candidates : List RagChunk) : List RagChunk :=
  ((examined limit candidates).filter authorised).take (capacity limit)

section

variable {catalog : String → Except PyExc (Option String)} {ctx : SecureContextBuilder}
  {clearance : DataClassification} {limit : Int}

theorem aclAllows_known (known : personaClearanceFor catalog ctx.persona = .ok clearance) (chunk : RagChunk) :
    aclAllows catalog ctx chunk.acl = .ok (ctx.authorises clearance chunk) := by
  unfold aclAllows SecureContextBuilder.authorises SecureContextBuilder.sees SecureContextBuilder.canAccess
  rw [known]
  by_cases foreign : chunk.acl.tenant ≠ ctx.tenant ∧ ctx.tenant ≠ "default"
  · rw [if_pos foreign]
    have unseen : ¬ (chunk.acl.tenant = ctx.tenant ∨ ctx.tenant = "default") := by
      rw [not_or]
      exact foreign
    simp only [unseen, decide_false, Bool.false_eq_true, false_and]
  · rw [if_neg foreign]
    have seen : chunk.acl.tenant = ctx.tenant ∨ ctx.tenant = "default" := by
      rw [not_and_or, not_not, not_not] at foreign
      exact foreign
    show (if decide (chunk.acl.classification.order ≤ clearance.order) = true then _ else _) = _
    by_cases cleared : chunk.acl.classification.order ≤ clearance.order
    · rw [if_pos (decide_eq_true cleared)]
      by_cases listed : chunk.acl.roles ≠ [] ∧ ctx.roles ≠ []
      · rw [if_pos listed]
        simp only [seen, cleared, listed.1, listed.2, decide_true, true_and, false_or, Bool.decide_eq_true]
      · rw [if_neg listed]
        have free : chunk.acl.roles = [] ∨ ctx.roles = [] := by
          rw [not_and_or, not_not, not_not] at listed
          exact listed
        have open' : chunk.acl.roles = [] ∨ ctx.roles = [] ∨
            (chunk.acl.roles.any fun role => role ∈ ctx.roles) = true := by
          rcases free with free | free
          · exact .inl free
          · exact .inr (.inl free)
        simp only [seen, cleared, open', decide_true, and_self]
    · rw [if_neg fun allowed => cleared (of_decide_eq_true allowed)]
      simp only [cleared, false_and, and_false, decide_false]

theorem aclAllows_unknown {raised : PyExc} (unknown : personaClearanceFor catalog ctx.persona = .error raised)
    (chunk : RagChunk) :
    aclAllows catalog ctx chunk.acl = if ctx.sees chunk then .error raised else .ok false := by
  unfold aclAllows SecureContextBuilder.sees SecureContextBuilder.canAccess
  rw [unknown]
  by_cases foreign : chunk.acl.tenant ≠ ctx.tenant ∧ ctx.tenant ≠ "default"
  · have unseen : ¬ (chunk.acl.tenant = ctx.tenant ∨ ctx.tenant = "default") := by
      rw [not_or]
      exact foreign
    rw [if_pos foreign, if_neg fun seen => unseen (of_decide_eq_true seen)]
  · have seen : chunk.acl.tenant = ctx.tenant ∨ ctx.tenant = "default" := by
      rw [not_and_or, not_not, not_not] at foreign
      exact foreign
    rw [if_neg foreign, if_pos (decide_eq_true seen)]
    rfl

theorem examineChunk_known (known : personaClearanceFor catalog ctx.persona = .ok clearance) (chunk : RagChunk)
    (found : List RagChunk × Nat) :
    examineChunk catalog ctx chunk found =
      .ok (if ctx.authorises clearance chunk then (found.1 ++ [chunk], found.2) else (found.1, found.2 + 1)) := by
  unfold examineChunk
  rw [aclAllows_known known]
  by_cases allowed : ctx.authorises clearance chunk = true
  · have cleared : chunk.acl.classification.order ≤ clearance.order := by
      unfold SecureContextBuilder.authorises at allowed
      exact (of_decide_eq_true allowed).2.1
    have included : ctx.includeInContext catalog chunk.acl.classification = .ok true := by
      unfold SecureContextBuilder.includeInContext SecureContextBuilder.canAccess
      rw [known]
      by_cases secret : chunk.acl.classification = .restricted
      · rw [if_pos secret]
        rw [secret] at cleared
        cases clearance
        · exact absurd cleared (by decide)
        · exact absurd cleared (by decide)
        · exact absurd cleared (by decide)
        · rfl
      · rw [if_neg secret]
        exact congrArg Except.ok (decide_eq_true cleared)
    rw [if_pos allowed, allowed, included]
    rfl
  · rw [if_neg allowed, Bool.eq_false_iff.mpr allowed]
    rfl

theorem examineChunk_unknown {raised : PyExc} (unknown : personaClearanceFor catalog ctx.persona = .error raised)
    (chunk : RagChunk) (found : List RagChunk × Nat) :
    examineChunk catalog ctx chunk found =
      if ctx.sees chunk then .error raised else .ok (found.1, found.2 + 1) := by
  unfold examineChunk
  rw [aclAllows_unknown unknown]
  by_cases seen : ctx.sees chunk = true
  · rw [if_pos seen, if_pos seen]
    rfl
  · rw [if_neg seen, if_neg seen]
    rfl

theorem examine_cons (chunk : RagChunk) (rest : List RagChunk) (found : List RagChunk × Nat) :
    examine catalog ctx limit (chunk :: rest) found = (do
      let found ← examineChunk catalog ctx chunk found
      if limit ≤ found.1.length then .ok found else examine catalog ctx limit rest found) := rfl

theorem examine_within (known : personaClearanceFor catalog ctx.persona = .ok clearance) (candidates : List RagChunk)
    (found : List RagChunk × Nat) (room : (found.1.length : Int) < limit) :
    ∃ denied, examine catalog ctx limit candidates found =
      .ok (found.1 ++ (candidates.filter (ctx.authorises clearance)).take (limit.toNat - found.1.length), denied) := by
  induction candidates generalizing found with
  | nil => exact ⟨found.2, by rw [List.filter_nil, List.take_nil, List.append_nil]; rfl⟩
  | cons chunk rest ih =>
    rw [examine_cons, examineChunk_known known]
    by_cases allowed : ctx.authorises clearance chunk = true
    · rw [if_pos allowed, List.filter_cons_of_pos allowed]
      obtain ⟨left, enough⟩ : ∃ left, limit.toNat - found.1.length = left + 1 := ⟨limit.toNat - found.1.length - 1, by omega⟩
      rw [enough, List.take_succ_cons]
      have grown : (found.1 ++ [chunk]).length = found.1.length + 1 := by
        rw [List.length_append, List.length_singleton]
      by_cases full : limit ≤ ((found.1 ++ [chunk]).length : Nat)
      · have none : left = 0 := by omega
        refine ⟨found.2, ?_⟩
        show (if limit ≤ ((found.1 ++ [chunk]).length : Nat) then _ else _) = _
        rw [if_pos full, none, List.take_zero]
      · obtain ⟨denied, ran⟩ := ih (found.1 ++ [chunk], found.2) (Int.not_le.mp full)
        refine ⟨denied, ?_⟩
        show (if limit ≤ ((found.1 ++ [chunk]).length : Nat) then _ else _) = _
        rw [if_neg full, ran]
        have rest : limit.toNat - (found.1 ++ [chunk]).length = left := by omega
        rw [rest, List.append_assoc, List.singleton_append]
    · rw [if_neg allowed, List.filter_cons_of_neg allowed]
      obtain ⟨denied, ran⟩ := ih (found.1, found.2 + 1) room
      refine ⟨denied, ?_⟩
      show (if limit ≤ (found.1.length : Nat) then _ else _) = _
      rw [if_neg (Int.not_le.mpr room), ran]

theorem examine_known (known : personaClearanceFor catalog ctx.persona = .ok clearance) (candidates : List RagChunk) :
    ∃ denied, examine catalog ctx limit candidates ([], 0) =
      .ok (delivered limit (ctx.authorises clearance) candidates, denied) := by
  unfold delivered examined capacity
  by_cases room : 1 ≤ limit
  · have space : ((([], 0) : List RagChunk × Nat).1.length : Int) < limit := by
      show (0 : Int) < limit
      omega
    obtain ⟨denied, ran⟩ := examine_within known candidates ([], 0) space
    refine ⟨denied, ?_⟩
    rw [ran, if_pos room, if_pos room]
    rfl
  · rw [if_neg room, if_neg room]
    cases candidates with
    | nil => exact ⟨0, rfl⟩
    | cons chunk rest =>
      rw [examine_cons, examineChunk_known known, List.take_succ_cons, List.take_zero]
      by_cases allowed : ctx.authorises clearance chunk = true
      · rw [if_pos allowed, List.filter_cons_of_pos allowed]
        exact ⟨0, if_pos (by show limit ≤ 1; omega)⟩
      · rw [if_neg allowed, List.filter_cons_of_neg allowed]
        exact ⟨1, if_pos (by show limit ≤ 0; omega)⟩

theorem examine_unknown_within {raised : PyExc} (unknown : personaClearanceFor catalog ctx.persona = .error raised)
    (room : 1 ≤ limit) (candidates : List RagChunk) (denied : Nat) :
    examine catalog ctx limit candidates ([], denied) =
      if candidates.any ctx.sees then .error raised else .ok ([], denied + candidates.length) := by
  induction candidates generalizing denied with
  | nil => rfl
  | cons chunk rest ih =>
    rw [examine_cons, examineChunk_unknown unknown, List.any_cons]
    by_cases seen : ctx.sees chunk = true
    · rw [if_pos seen, seen, Bool.true_or, if_pos rfl]
      rfl
    · rw [if_neg seen, Bool.eq_false_iff.mpr seen, Bool.false_or]
      show (if limit ≤ (0 : Int) then _ else examine catalog ctx limit rest ([], denied + 1)) = _
      rw [if_neg (by omega), ih, List.length_cons]
      rw [Nat.add_assoc, Nat.add_comm 1]

theorem examine_unknown {raised : PyExc} (unknown : personaClearanceFor catalog ctx.persona = .error raised)
    (candidates : List RagChunk) :
    examine catalog ctx limit candidates ([], 0) =
      if (examined limit candidates).any ctx.sees then .error raised
      else .ok ([], (examined limit candidates).length) := by
  unfold examined
  by_cases room : 1 ≤ limit
  · rw [if_pos room, examine_unknown_within unknown room, Nat.zero_add]
  · rw [if_neg room]
    cases candidates with
    | nil => rfl
    | cons chunk rest =>
      rw [examine_cons, examineChunk_unknown unknown, List.take_succ_cons, List.take_zero, List.any_cons,
        List.any_nil, Bool.or_false]
      by_cases seen : ctx.sees chunk = true
      · rw [if_pos seen, if_pos seen]
        rfl
      · rw [if_neg seen, if_neg seen]
        exact if_pos (by show limit ≤ 0; omega)

end

def askedBy (persona tenant : String) (roles : Option (List String)) : SecureContextBuilder :=
  { persona, tenant, roles := effectiveRoles roles }

section

variable {settings : RagSettings} {search : String → Int → Except PyExc (List RagChunk)} {query persona tenant : String}
  {roles : Option (List String)} {maxChunks : Option Int} {candidates : List RagChunk}

theorem ragQuery_chunks_blank (blank : strip query = "") :
    RetrievalResult.chunks <$> ragQuery settings search query persona tenant roles maxChunks = .ok [] := by
  unfold ragQuery
  rw [if_pos blank]
  rfl

theorem ragQuery_chunks_examined (asked : strip query ≠ "")
    (answered : search query (settings.limit maxChunks * 3) = .ok candidates) :
    RetrievalResult.chunks <$> ragQuery settings search query persona tenant roles maxChunks =
      Prod.fst <$> examine settings.catalog (askedBy persona tenant roles) (settings.limit maxChunks) candidates ([], 0) := by
  unfold ragQuery
  rw [if_neg asked]
  simp only [answered]
  show RetrievalResult.chunks <$> (examine settings.catalog (askedBy persona tenant roles) (settings.limit maxChunks)
    candidates ([], 0) >>= _) = _
  cases examine settings.catalog (askedBy persona tenant roles) (settings.limit maxChunks) candidates ([], 0) with
  | error raised => rfl
  | ok found =>
    show RetrievalResult.chunks <$> (if found.1 = [] then _ else _) = _
    by_cases empty : found.1 = []
    · rw [if_pos empty]
      exact congrArg Except.ok empty.symm
    · rw [if_neg empty]
      rfl

theorem ragQuery_chunks_known {clearance : DataClassification} (asked : strip query ≠ "")
    (answered : search query (settings.limit maxChunks * 3) = .ok candidates)
    (known : personaClearanceFor settings.catalog persona = .ok clearance) :
    RetrievalResult.chunks <$> ragQuery settings search query persona tenant roles maxChunks =
      .ok (delivered (settings.limit maxChunks) ((askedBy persona tenant roles).authorises clearance) candidates) := by
  rw [ragQuery_chunks_examined asked answered]
  have ran : ∃ denied, examine settings.catalog (askedBy persona tenant roles) (settings.limit maxChunks) candidates
      ([], 0) = .ok (delivered _ ((askedBy persona tenant roles).authorises clearance) candidates, denied) :=
    examine_known known candidates
  obtain ⟨denied, ran⟩ := ran
  rw [ran]
  rfl

theorem ragQuery_chunks_unknown {raised : PyExc} (asked : strip query ≠ "")
    (answered : search query (settings.limit maxChunks * 3) = .ok candidates)
    (unknown : personaClearanceFor settings.catalog persona = .error raised) :
    RetrievalResult.chunks <$> ragQuery settings search query persona tenant roles maxChunks =
      if (examined (settings.limit maxChunks) candidates).any (askedBy persona tenant roles).sees then .error raised
      else .ok [] := by
  have ran : examine settings.catalog (askedBy persona tenant roles) (settings.limit maxChunks) candidates ([], 0) = _ :=
    examine_unknown unknown candidates
  rw [ragQuery_chunks_examined asked answered, ran]
  by_cases seen : (examined (settings.limit maxChunks) candidates).any (askedBy persona tenant roles).sees = true
  · rw [if_pos seen, if_pos seen]
    rfl
  · rw [if_neg seen, if_neg seen]
    rfl

theorem ragQuery_chunks_failed {raised : PyExc} {result : RetrievalResult} (asked : strip query ≠ "")
    (failed : search query (settings.limit maxChunks * 3) = .error raised)
    (answered : ragQuery settings search query persona tenant roles maxChunks = .ok result) : result.chunks = [] := by
  unfold ragQuery at answered
  rw [if_neg asked] at answered
  simp only [failed] at answered
  by_cases caught : raised.caught = true
  · rw [if_pos caught] at answered
    cases answered
    rfl
  · rw [if_neg caught] at answered
    cases answered

theorem mem_delivered {limit : Int} {authorised : RagChunk → Bool} {chunk : RagChunk}
    (member : chunk ∈ delivered limit authorised candidates) : chunk ∈ candidates ∧ authorised chunk = true := by
  have kept := List.mem_filter.mp (List.mem_of_mem_take member)
  refine ⟨?_, kept.2⟩
  unfold examined at kept
  by_cases room : 1 ≤ limit
  · rw [if_pos room] at kept
    exact kept.1
  · rw [if_neg room] at kept
    exact List.mem_of_mem_take kept.1

theorem mem_roles_of_authorises {ctx : SecureContextBuilder} {clearance : DataClassification} {chunk : RagChunk}
    (allowed : ctx.authorises clearance chunk = true) (roles : ctx.roles ≠ []) (listed : chunk.acl.roles ≠ []) :
    ∃ role ∈ chunk.acl.roles, role ∈ ctx.roles := by
  unfold SecureContextBuilder.authorises at allowed
  rcases (of_decide_eq_true allowed).2.2 with free | free | shared
  · exact absurd free listed
  · exact absurd free roles
  · obtain ⟨role, member, held⟩ := List.any_eq_true.mp shared
    exact ⟨role, member, of_decide_eq_true held⟩

theorem effectiveRoles_ne_nil (roles : Option (List String)) : effectiveRoles roles ≠ [] := by
  unfold effectiveRoles
  by_cases none : roles.getD [] = []
  · rw [if_pos none]
    exact List.cons_ne_nil _ _
  · rw [if_neg none]
    exact none

theorem mem_chunks_authorised {result : RetrievalResult} {chunk : RagChunk}
    (answered : ragQuery settings search query persona tenant roles maxChunks = .ok result)
    (member : chunk ∈ result.chunks) :
    ∃ clearance, personaClearanceFor settings.catalog persona = .ok clearance ∧
      (askedBy persona tenant roles).authorises clearance chunk = true := by
  have chunks : RetrievalResult.chunks <$> ragQuery settings search query persona tenant roles maxChunks =
      .ok result.chunks := by
    rw [answered]
    rfl
  by_cases blank : strip query = ""
  · rw [ragQuery_chunks_blank blank] at chunks
    rw [← Except.ok.inj chunks] at member
    cases member
  · cases found : search query (settings.limit maxChunks * 3) with
    | error raised =>
      rw [ragQuery_chunks_failed blank found answered] at member
      cases member
    | ok candidates =>
      cases cleared : personaClearanceFor settings.catalog persona with
      | ok clearance =>
        rw [ragQuery_chunks_known blank found cleared] at chunks
        rw [← Except.ok.inj chunks] at member
        exact ⟨clearance, rfl, (mem_delivered member).2⟩
      | error raised =>
        rw [ragQuery_chunks_unknown blank found cleared] at chunks
        by_cases seen :
            (examined (settings.limit maxChunks) candidates).any (askedBy persona tenant roles).sees = true
        · rw [if_pos seen] at chunks
          cases chunks
        · rw [if_neg seen] at chunks
          rw [← Except.ok.inj chunks] at member
          cases member

end

/-- Whatever the store answers, a chunk is returned to its own tenant or to the default one, to a persona of
    its clearance, and for a role of its list, where a caller without roles is an analyst. -/
theorem ragQuery_authorised (settings : RagSettings) (search : String → Int → Except PyExc (List RagChunk))
    (query persona tenant : String) (roles : Option (List String)) (maxChunks : Option Int) (result : RetrievalResult)
    (answered : ragQuery settings search query persona tenant roles maxChunks = .ok result) :
    ∀ chunk ∈ result.chunks, (chunk.acl.tenant = tenant ∨ tenant = "default") ∧
      (∃ clearance, personaClearanceFor settings.catalog persona = .ok clearance ∧
        chunk.acl.classification.order ≤ clearance.order) ∧
      (chunk.acl.roles ≠ [] → ∃ role ∈ chunk.acl.roles, role ∈ effectiveRoles roles) := by
  intro chunk member
  obtain ⟨clearance, known, allowed⟩ := mem_chunks_authorised answered member
  have shared := mem_roles_of_authorises allowed (effectiveRoles_ne_nil roles)
  unfold SecureContextBuilder.authorises SecureContextBuilder.sees at allowed
  have checks := of_decide_eq_true allowed
  exact ⟨of_decide_eq_true checks.1, ⟨clearance, known, checks.2.1⟩, shared⟩

def playbook : RagChunk := { chunkId := "c-1", text := "secret playbook", acl := { tenant := "acme" } }

def plainSettings : RagSettings where
  catalog _ := .ok none

/-- The default tenant reads the chunk of another. -/
theorem ragQuery_across_tenants : ∃ result,
    ragQuery plainSettings (fun _ _ => .ok [playbook]) "playbook" "soc" "default" none none = .ok result ∧
      playbook ∈ result.chunks ∧ playbook.acl.tenant ≠ "default" := by
  refine ⟨{ query := "playbook", chunks := [playbook] }, ?_, ?_, ?_⟩
  · decide +kernel
  · decide
  · decide

theorem ragQuery_authorised_acme :
    ragQuery plainSettings (fun _ _ => .ok [playbook]) "playbook" "soc" "acme" none none =
      .ok { query := "playbook", chunks := [playbook] } ∧
    ∀ chunk ∈ [playbook], (chunk.acl.tenant = "acme" ∨ "acme" = "default") ∧
      (∃ clearance, personaClearanceFor plainSettings.catalog "soc" = .ok clearance ∧
        chunk.acl.classification.order ≤ clearance.order) ∧
      (chunk.acl.roles ≠ [] → ∃ role ∈ chunk.acl.roles, role ∈ effectiveRoles none) := by
  have answered : ragQuery plainSettings (fun _ _ => .ok [playbook]) "playbook" "soc" "acme" none none =
      .ok { query := "playbook", chunks := [playbook] } := by decide +kernel
  exact ⟨answered, ragQuery_authorised plainSettings _ _ _ _ _ _ _ answered⟩

end CysAgi
