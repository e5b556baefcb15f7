import CysAgi.Base.Json
import CysAgi.Base.Splitting
import CysAgi.Workers.Models

namespace CysAgi

open Py

structure AuthClaims where
  sub : String
  email : String := ""
  roles : List String := []
  deriving DecidableEq

def AuthClaims.hasAnyRole (claims : AuthClaims) (required : List String) : Bool :=
  required.isEmpty || required.any fun role => role ∈ claims.roles

/-- A round of `for item in role_list`. What was seen are the roles that are listed. -/
def addRole (roles : List String) : Json → List String
  | .str role => if role = "" ∨ role ∈ roles then roles else roles ++ [role]
  | _ => roles

/-- `add` of `extract_roles`. -/
def addRoles (roles : List String) : Json → List String
  | .arr items => items.foldl addRole roles
  | _ => roles

/-- What `extract_roles` adds of an access that is a dict. -/
def addAccess (roles : List String) : Option Json → List String
  | some (.obj access) => addRoles roles (JsonDict.getD access "roles" .null)
  | _ => roles

def extractRoles (claims : JsonDict) (clientId : String) : List String :=
  let realm := addAccess [] (JsonDict.get? claims "realm_access")
  match JsonDict.get? claims "resource_access" with
  | some (.obj access) => addAccess realm (JsonDict.get? access clientId)
  | _ => realm

inductive VerifyError where
  | auth (message : String)
  | other (raised : PyExc)

def emailOf (payload : JsonDict) : String :=
  match JsonDict.get? payload "email" with
  | some (.str email) => email
  | _ => ""

def claimsFromPayload (payload : JsonDict) (clientId : String) : Except VerifyError AuthClaims :=
  match JsonDict.get? payload "sub" with
  | some (.str sub) =>
    if sub = "" then .error (.auth "missing subject")
    else .ok { sub, email := emailOf payload, roles := extractRoles payload clientId }
  | _ => .error (.auth "missing subject")

/-- `decode` is what PyJWT makes of a token under the issuer's keys; `none` of its errors is a `PyJWTError`. -/
structure KeycloakJwtVerifier where
  lower : String → String
  decode : String → Except (Option PyExc) JsonDict
  audience : String
  clientId : String

def extractBearerToken (lower : String → String) : Option String → String
  | none => ""
  | some header =>
    let stripped := (strip header).toList
    let scheme := stripped.takeWhile fun c => !isSpace c
    let rest := (stripped.dropWhile fun c => !isSpace c).dropWhile isSpace
    if rest = [] ∨ lower (String.ofList scheme) ≠ "bearer" then "" else strip (String.ofList rest)

def audienceMatches (payload : JsonDict) (audience : String) : Bool :=
  let named := match JsonDict.get? payload "aud" with
    | some (.str aud) => aud = audience
    | some (.arr auds) => .str audience ∈ auds
    | _ => false
  named || JsonDict.get? payload "azp" = some (.str audience)

namespace KeycloakJwtVerifier

def verifyBearer (verifier : KeycloakJwtVerifier) (authorizationHeader : Option String) :
    Except VerifyError AuthClaims :=
  let token := extractBearerToken verifier.lower authorizationHeader
  if token = "" then .error (.auth "missing bearer token")
  else
    match verifier.decode token with
    | .error none => .error (.auth "invalid token")
    | .error (some raised) => .error (.other raised)
    | .ok payload =>
      if verifier.audience ≠ "" ∧ audienceMatches payload verifier.audience = false then
        .error (.auth "invalid audience")
      else claimsFromPayload payload verifier.clientId

end KeycloakJwtVerifier

inductive RoleSetting where
  | ingress
  | operator
  | gateway
  | reader
  deriving DecidableEq

structure AuthSettings where
  authEnabled : Bool
  rbacEnabled : Bool
  role : RoleSetting → String := fun
    | .ingress => "egregore-ingress"
    | .operator => "egregore-operator"
    | .gateway => "egregore-gateway"
    | .reader => "egregore-reader"

inductive Refusal where
  | http (statusCode : Nat) (detail : String)
  | raised (raised : PyExc)

/-- The dependency that `require_role_setting` makes. -/
def requireRoleSetting (settingFields : List RoleSetting) (settings : AuthSettings) (verifier : KeycloakJwtVerifier)
    (authorization : Option String) : Except Refusal (Option AuthClaims) :=
  if settings.authEnabled = false then .ok none
  else
    match verifier.verifyBearer authorization with
    | .error (.auth message) => .error (.http 401 message)
    | .error (.other raised) => .error (.raised raised)
    | .ok claims =>
      if settings.rbacEnabled ∧ settingFields ≠ [] ∧ claims.hasAnyRole (settingFields.map settings.role) = false then
        .error (.http 403 "Forbidden")
      else .ok (some claims)

def Lists (access : Option Json) (role : String) : Prop :=
  ∃ entry roles, access = some (.obj entry) ∧ JsonDict.get? entry "roles" = some (.arr roles) ∧ .str role ∈ roles

/-- The role is one of the realm or one of the client. -/
def Granted (payload : JsonDict) (clientId role : String) : Prop :=
  role ≠ "" ∧ (Lists (JsonDict.get? payload "realm_access") role ∨
    ∃ access, JsonDict.get? payload "resource_access" = some (.obj access) ∧
      Lists (JsonDict.get? access clientId) role)

theorem mem_addRole {roles : List String} {item : Json} {role : String} :
    role ∈ addRole roles item ↔ role ∈ roles ∨ role ≠ "" ∧ item = .str role := by
  cases item with
  | str other =>
    unfold addRole
    dsimp only
    by_cases kept : other = "" ∨ other ∈ roles
    · rw [if_pos kept]
      refine ⟨.inl, ?_⟩
      rintro (old | ⟨named, same⟩)
      · exact old
      · cases same
        exact kept.resolve_left named
    · rw [if_neg kept, List.mem_append, List.mem_singleton]
      constructor
      · rintro (old | rfl)
        · exact .inl old
        · exact .inr ⟨fun empty => kept (.inl empty), rfl⟩
      · rintro (old | ⟨-, same⟩)
        · exact .inl old
        · cases same
          exact .inr rfl
  | _ => simp [addRole]

theorem mem_foldl_addRole {items : List Json} {roles : List String} {role : String} :
    role ∈ items.foldl addRole roles ↔ role ∈ roles ∨ role ≠ "" ∧ .str role ∈ items := by
  induction items generalizing roles with
  | nil => simp
  | cons item rest ih =>
    rw [List.foldl_cons, ih, mem_addRole, List.mem_cons, or_assoc, ← and_or_left, @eq_comm Json]

theorem mem_addRoles {roles : List String} {value : Json} {role : String} :
    role ∈ addRoles roles value ↔ role ∈ roles ∨ role ≠ "" ∧ ∃ items, value = .arr items ∧ .str role ∈ items := by
  cases value with
  | arr items =>
    rw [addRoles, mem_foldl_addRole]
    simp
  | _ => simp [addRoles]

theorem mem_addAccess {roles : List String} {access : Option Json} {role : String} :
    role ∈ addAccess roles access ↔ role ∈ roles ∨ role ≠ "" ∧ Lists access role := by
  unfold addAccess
  split
  · next entry =>
    rw [mem_addRoles, JsonDict.getD]
    refine or_congr_right (and_congr_right fun _ => ⟨?_, ?_⟩)
    · rintro ⟨items, same, member⟩
      cases held : JsonDict.get? entry "roles" with
      | none =>
        rw [held] at same
        cases same
      | some value =>
        rw [held] at same
        exact ⟨entry, items, rfl, held.trans (congrArg some same), member⟩
    · rintro ⟨other, items, same, held, member⟩
      cases same
      exact ⟨items, by rw [held]; rfl, member⟩
  · next other =>
    refine ⟨.inl, ?_⟩
    rintro (old | ⟨-, entry, items, same, -⟩)
    · exact old
    · exact absurd same (other entry)

theorem mem_extractRoles {claims : JsonDict} {clientId role : String} :
    role ∈ extractRoles claims clientId ↔ Granted claims clientId role := by
  have realm : role ∈ addAccess [] (JsonDict.get? claims "realm_access") ↔
      role ≠ "" ∧ Lists (JsonDict.get? claims "realm_access") role := by
    rw [mem_addAccess]
    simp
  unfold extractRoles Granted
  dsimp only
  split
  · next access held =>
    rw [mem_addAccess, realm, ← and_or_left, held]
    refine and_congr_right fun _ => or_congr_right ⟨fun lists => ⟨access, rfl, lists⟩, ?_⟩
    rintro ⟨other, same, lists⟩
    cases same
    exact lists
  · next other =>
    rw [realm]
    refine and_congr_right fun _ => ⟨.inl, ?_⟩
    rintro (own | ⟨access, same, -⟩)
    · exact own
    · exact absurd same (other access)

def Presents (lower : String → String) (header token : String) : Prop :=
  ∃ before scheme gap after : List Char, header.toList = before ++ (scheme ++ (gap ++ token.toList)) ++ after ∧
    (∀ c ∈ before ++ gap ++ after, isSpace c = true) ∧ gap ≠ [] ∧ scheme ≠ [] ∧ (∀ c ∈ scheme, isSpace c = false) ∧
      lower (String.ofList scheme) = "bearer" ∧ Trimmed token

section

variable {word gap rest text : List Char}

structure GapAfter (word gap rest : List Char) : Prop where
  worded : word ≠ []
  visible : ∀ c ∈ word, isSpace c = false
  spaced : gap ≠ []
  blank : ∀ c ∈ gap, isSpace c = true
  begins : rest.head?.map isSpace = some false

theorem GapAfter.parts (parts : GapAfter word gap rest) :
    (word ++ (gap ++ rest)).takeWhile (fun c => !isSpace c) = word ∧
      (word ++ (gap ++ rest)).dropWhile (fun c => !isSpace c) = gap ++ rest ∧ (gap ++ rest).dropWhile isSpace = rest := by
  have passes : ∀ c ∈ word, (!isSpace c) = true := by
    intro c member
    rw [parts.visible c member]
    rfl
  obtain ⟨c, more, same⟩ := List.exists_cons_of_ne_nil parts.spaced
  have space : isSpace c = true := parts.blank c (by rw [same]; exact List.mem_cons_self)
  have stop : (gap ++ rest).head?.map (fun c => !isSpace c) = some false := by simp [same, space]
  refine ⟨?_, ?_, ?_⟩
  · rw [List.takeWhile_append_of_pos passes, same, List.cons_append, List.takeWhile_cons_of_neg (by simp [space]),
      List.append_nil]
  · rw [List.dropWhile_append_of_pos passes, dropWhile_of_head stop]
  · rw [List.dropWhile_append_of_pos parts.blank, dropWhile_of_head parts.begins]

theorem spaced_of_text (first : text.head?.map isSpace = some false)
    (given : (text.dropWhile fun c => !isSpace c).dropWhile isSpace ≠ []) :
    GapAfter (text.takeWhile fun c => !isSpace c) ((text.dropWhile fun c => !isSpace c).takeWhile isSpace)
      ((text.dropWhile fun c => !isSpace c).dropWhile isSpace) where
  worded := by
    cases text with
    | nil => cases first
    | cons c rest =>
      have visible : isSpace c = false := Option.some.inj first
      rw [List.takeWhile_cons_of_pos (by rw [visible]; rfl)]
      exact List.cons_ne_nil _ _
  visible := by
    intro c member
    have kept := List.mem_takeWhile_imp member
    simpa using kept
  spaced := by
    have behind : (text.dropWhile fun c => !isSpace c) ≠ [] := by
      intro none
      rw [none] at given
      exact given rfl
    obtain ⟨c, more, same⟩ := List.exists_cons_of_ne_nil behind
    have stops : (!isSpace c) = false := by
      have head := head_dropWhile behind
      rw [same] at head
      exact Option.some.inj head
    rw [same, List.takeWhile_cons_of_pos (by simpa using stops)]
    exact List.cons_ne_nil _ _
  blank _ member := List.mem_takeWhile_imp member
  begins := head_dropWhile given

end

theorem presents_of_extracted {lower : String → String} {header token : String} (named : token ≠ "")
    (extracted : extractBearerToken lower (some header) = token) : Presents lower header token := by
  simp only [extractBearerToken] at extracted
  split at extracted
  · exact absurd extracted.symm named
  · next passes =>
    obtain ⟨given, scheme⟩ := not_or.mp passes
    rw [not_not] at scheme
    obtain ⟨before, after, whole, blank⟩ := strip_parts header
    have present : Trimmed (strip header) := by
      apply trimmed_strip
      intro empty
      rw [empty] at given
      exact given rfl
    have parts := spaced_of_text present.first given
    have gap := List.takeWhile_append_dropWhile (p := isSpace)
      (l := (strip header).toList.dropWhile fun c => !isSpace c)
    have split := List.takeWhile_append_dropWhile (p := fun c => !isSpace c) (l := (strip header).toList)
    generalize (strip header).toList.takeWhile (fun c => !isSpace c) = word at *
    generalize ((strip header).toList.dropWhile fun c => !isSpace c).dropWhile isSpace = rest at *
    have trimmed : Trimmed (String.ofList rest) := by
      have last := present.last
      rw [← split, ← gap, List.getLast?_append_of_ne_nil _ (List.append_ne_nil_of_right_ne_nil _ given),
        List.getLast?_append_of_ne_nil _ given] at last
      exact ⟨by rw [String.toList_ofList]; exact parts.begins, by rwa [String.toList_ofList]⟩
    rw [strip_of_trimmed trimmed] at extracted
    rw [extracted] at trimmed
    have read : rest = token.toList := by rw [← extracted, String.toList_ofList]
    refine ⟨before, word, _, after, ?_, ?_, parts.spaced, parts.worded, parts.visible, scheme, trimmed⟩
    · rw [whole, ← read, gap, split]
    · obtain ⟨leading, trailing⟩ := List.forall_mem_append.mp blank
      exact List.forall_mem_append.mpr ⟨List.forall_mem_append.mpr ⟨leading, parts.blank⟩, trailing⟩

theorem extracted_of_presents {lower : String → String} {header token : String}
    (presents : Presents lower header token) : extractBearerToken lower (some header) = token := by
  obtain ⟨before, scheme, gap, after, whole, blank, spaced, worded, visible, bearer, trimmed⟩ := presents
  obtain ⟨inner, trailing⟩ := List.forall_mem_append.mp blank
  obtain ⟨leading, between⟩ := List.forall_mem_append.mp inner
  have there : token.toList ≠ [] := by
    intro none
    have first := trimmed.first
    rw [none] at first
    cases first
  have body : Trimmed (String.ofList (scheme ++ (gap ++ token.toList))) := by
    constructor
    · rw [String.toList_ofList]
      cases scheme with
      | nil => exact absurd rfl worded
      | cons c rest => exact congrArg some (visible c List.mem_cons_self)
    · rw [String.toList_ofList, ← List.append_assoc, List.getLast?_append_of_ne_nil _ there]
      exact trimmed.last
  have stripped : strip header = String.ofList (scheme ++ (gap ++ token.toList)) := by
    have inside : header.toList = before ++ (String.ofList (scheme ++ (gap ++ token.toList))).toList ++ after := by
      rw [String.toList_ofList, whole]
    exact strip_surrounded inside (List.forall_mem_append.mpr ⟨leading, trailing⟩) body
  have parts : GapAfter scheme gap token.toList := ⟨worded, visible, spaced, between, trimmed.first⟩
  obtain ⟨word, rest, value⟩ := parts.parts
  simp only [extractBearerToken, stripped, String.toList_ofList, word, rest, value]
  rw [if_neg (by simp [there, bearer]), String.ofList_toList, strip_of_trimmed trimmed]

theorem claimsFromPayload_ok_iff {payload : JsonDict} {clientId : String} {claims : AuthClaims} :
    claimsFromPayload payload clientId = .ok claims ↔
      JsonDict.get? payload "sub" = some (.str claims.sub) ∧ claims.sub ≠ "" ∧ claims.email = emailOf payload ∧
        claims.roles = extractRoles payload clientId := by
  unfold claimsFromPayload
  split
  · next sub held =>
    by_cases empty : sub = ""
    · rw [if_pos empty]
      constructor
      · nofun
      · rintro ⟨same, named, -⟩
        cases held.symm.trans same
        exact absurd empty named
    · rw [if_neg empty]
      constructor
      · intro made
        cases made
        exact ⟨held, empty, rfl, rfl⟩
      · obtain ⟨named, email, roles⟩ := claims
        rintro ⟨same, -, rfl, rfl⟩
        cases held.symm.trans same
        rfl
  · next other =>
    constructor
    · nofun
    · rintro ⟨same, -⟩
      exact absurd same (other claims.sub)

def Addressed (payload : JsonDict) (audience : String) : Prop :=
  JsonDict.get? payload "aud" = some (.str audience) ∨
    (∃ auds, JsonDict.get? payload "aud" = some (.arr auds) ∧ .str audience ∈ auds) ∨
    JsonDict.get? payload "azp" = some (.str audience)

theorem audienceMatches_iff {payload : JsonDict} {audience : String} :
    audienceMatches payload audience = true ↔ Addressed payload audience := by
  unfold audienceMatches Addressed
  dsimp only
  split
  · next aud held => simp [held]
  · next auds held => simp [held]
  · next text list =>
    rw [Bool.false_or, decide_eq_true_iff]
    refine ⟨fun party => .inr (.inr party), ?_⟩
    rintro (named | ⟨auds, held, -⟩ | party)
    · exact absurd named (text audience)
    · exact absurd held (list auds)
    · exact party

theorem verifyBearer_ok_iff {verifier : KeycloakJwtVerifier} {authorization : Option String} {claims : AuthClaims} :
    verifier.verifyBearer authorization = .ok claims ↔
      ∃ header token payload, authorization = some header ∧ Presents verifier.lower header token ∧
        verifier.decode token = .ok payload ∧ (verifier.audience ≠ "" → Addressed payload verifier.audience) ∧
          claimsFromPayload payload verifier.clientId = .ok claims := by
  unfold KeycloakJwtVerifier.verifyBearer
  dsimp only
  constructor
  · intro verified
    split at verified
    · cases verified
    · next present =>
      split at verified
      · cases verified
      · cases verified
      · next payload decoded =>
        split at verified
        · cases verified
        · next passes =>
          cases authorization with
          | none => exact absurd rfl present
          | some header =>
            refine ⟨header, _, payload, rfl, presents_of_extracted present rfl, decoded, ?_, verified⟩
            intro given
            rw [← audienceMatches_iff, ← Bool.not_eq_false]
            exact fun other => passes ⟨given, other⟩
  · rintro ⟨header, token, payload, rfl, presents, decoded, addressed, made⟩
    have extracted := extracted_of_presents presents
    have named : token ≠ "" := by
      obtain ⟨-, -, -, -, -, -, -, -, -, -, trimmed⟩ := presents
      exact trimmed.ne_empty
    have passes : ¬(verifier.audience ≠ "" ∧ audienceMatches payload verifier.audience = false) := by
      rintro ⟨given, other⟩
      rw [audienceMatches_iff.mpr (addressed given)] at other
      cases other
    rw [extracted, if_neg named, decoded]
    dsimp only
    rw [if_neg passes]
    exact made

structure KeycloakJwtVerifier.Accepts (verifier : KeycloakJwtVerifier) (header : String) (payload : JsonDict)
    (claims : AuthClaims) : Prop where
  token : ∃ token, Presents verifier.lower header token ∧ verifier.decode token = .ok payload
  addressed : verifier.audience ≠ "" → Addressed payload verifier.audience
  sub : JsonDict.get? payload "sub" = some (.str claims.sub)
  named : claims.sub ≠ ""
  email : claims.email = emailOf payload
  roles : claims.roles = extractRoles payload verifier.clientId

theorem verifyBearer_accepts_iff {verifier : KeycloakJwtVerifier} {authorization : Option String}
    {claims : AuthClaims} :
    verifier.verifyBearer authorization = .ok claims ↔
      ∃ header payload, authorization = some header ∧ verifier.Accepts header payload claims := by
  rw [verifyBearer_ok_iff]
  constructor
  · rintro ⟨header, token, payload, given, presents, decoded, addressed, made⟩
    obtain ⟨sub, named, email, roles⟩ := claimsFromPayload_ok_iff.mp made
    exact ⟨header, payload, given, ⟨token, presents, decoded⟩, addressed, sub, named, email, roles⟩
  · rintro ⟨header, payload, given, ⟨token, presents, decoded⟩, addressed, sub, named, email, roles⟩
    exact ⟨header, token, payload, given, presents, decoded, addressed,
      claimsFromPayload_ok_iff.mpr ⟨sub, named, email, roles⟩⟩

theorem hasAnyRole_iff {claims : AuthClaims} {required : List String} (given : required ≠ []) :
    claims.hasAnyRole required = true ↔ ∃ role ∈ required, role ∈ claims.roles := by
  cases required with
  | nil => exact absurd rfl given
  | cons first rest => simp [AuthClaims.hasAnyRole]

theorem KeycloakJwtVerifier.Accepts.hasAnyRole_granted {verifier : KeycloakJwtVerifier} {header : String}
    {payload : JsonDict} {claims : AuthClaims} (accepts : verifier.Accepts header payload claims)
    {settingFields : List RoleSetting} {settings : AuthSettings} (some : settingFields ≠ []) :
    claims.hasAnyRole (settingFields.map settings.role) = true ↔
      ∃ field ∈ settingFields, Granted payload verifier.clientId (settings.role field) := by
  rw [hasAnyRole_iff (by simpa using some), accepts.roles]
  simp [mem_extractRoles]

/-- With authentication on, a request is let in exactly when its header presents a token that decodes, is for the
    audience, names its subject and, with roles on, is granted one of those asked for by the realm or the client. -/
theorem let_in_iff (settingFields : List RoleSetting) (settings : AuthSettings) (verifier : KeycloakJwtVerifier)
    (authorization : Option String) (answer : Option AuthClaims) :
    requireRoleSetting settingFields settings verifier authorization = .ok answer ↔
      (settings.authEnabled = false ∧ answer = none) ∨
      (settings.authEnabled = true ∧ ∃ header payload claims, authorization = some header ∧ answer = some claims ∧
        verifier.Accepts header payload claims ∧
          (settings.rbacEnabled = true → settingFields ≠ [] →
            ∃ field ∈ settingFields, Granted payload verifier.clientId (settings.role field))) := by
  unfold requireRoleSetting
  by_cases off : settings.authEnabled = false
  · rw [if_pos off]
    constructor
    · intro passed
      cases passed
      exact .inl ⟨off, rfl⟩
    · rintro (⟨-, rfl⟩ | ⟨on, -⟩)
      · rfl
      · rw [off] at on
        cases on
  · rw [if_neg off]
    rw [Bool.not_eq_false] at off
    constructor
    · intro passed
      cases verified : verifier.verifyBearer authorization with
      | error raised =>
        rw [verified] at passed
        cases raised <;> cases passed
      | ok claims =>
        rw [verified] at passed
        obtain ⟨header, payload, given, accepts⟩ := verifyBearer_accepts_iff.mp verified
        dsimp only at passed
        split at passed
        · cases passed
        · next allowed =>
          cases passed
          refine .inr ⟨off, header, payload, claims, given, rfl, accepts, ?_⟩
          intro enabled some
          rw [← accepts.hasAnyRole_granted some, ← Bool.not_eq_false]
          exact fun none => allowed ⟨enabled, some, none⟩
    · rintro (⟨disabled, -⟩ | ⟨-, header, payload, claims, given, rfl, accepts, granted⟩)
      · rw [off] at disabled
        cases disabled
      · rw [verifyBearer_accepts_iff.mpr ⟨header, payload, given, accepts⟩]
        dsimp only
        rw [if_neg]
        rintro ⟨enabled, some, none⟩
        rw [(accepts.hasAnyRole_granted some).mpr (granted enabled some)] at none
        cases none

end CysAgi
