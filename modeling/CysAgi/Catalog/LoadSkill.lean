import CysAgi.Catalog.Requests

open Py

namespace CysAgi.Catalog

structure LoadCall where
  skillName : String
  persona : String
  allowedSkills : List String
  jobId : String := ""
  profileId : String := defaultProfileId

structure SkillService where
  lib : GateLibrary
  python : BodyLibrary
  backend : Backend
  useDynamicCatalog : Bool
  /-- What reading the file `SKILL.md` of a skill gives, where there is one. -/
  skillFile : String → Option (Except PyExc String)

namespace SkillService

variable (service : SkillService) (s : GateState)

def readSkillFile (skillName : String) : Except PyExc String :=
  match service.skillFile skillName with
  | none => .error (.exception s!"Unknown skill: {skillName}")
  | some read => read

def loadFromCatalog (skillName profileId : String) : Except PyExc (Option String) :=
  if service.useDynamicCatalog = false then .ok none
  else
    match s.skills.getItem skillName profileId with
    | none => .ok none
    | some entry =>
      if entry.enabled = false then .ok none
      else if entry.stagingStatus = .draft then
        .error (.exception s!"Skill \x27{skillName}\x27 is draft — approve before load")
      else .ok (some entry.body)

def skillBody (call : LoadCall) : Except PyExc String :=
  match service.loadFromCatalog s call.skillName call.profileId with
  | .error raised => .error raised
  | .ok (some body) => .ok body
  | .ok none => service.readSkillFile call.skillName

def skillHeader (call : LoadCall) (body : String) : String :=
  let digest := String.ofList ((service.lib.sha256Hex body).toList.take 12)
  s!"<!-- skill:{call.skillName} sha:{digest} persona:{call.persona} job:{call.jobId} -->\n"

def loadSkill (call : LoadCall) : GateState × Except PyExc String :=
  if call.skillName ∉ call.allowedSkills ∧ call.allowedSkills ≠ [] then
    (s, .error (.exception s!"Skill \x27{call.skillName}\x27 not allowlisted for persona \x27{call.persona}\x27"))
  else
    match service.skillBody s call with
    | .error raised => (s, .error raised)
    | .ok body =>
      match service.lib.sanitizer.sanitize body .skill with
      | .error raised => (s, .error raised)
      | .ok safe =>
        ({ s with skills := service.backend.incrementUsage s.skills call.skillName call.profileId false }
        , .ok (service.skillHeader call body ++ safe))

end SkillService

structure Standing where
  body : String
  stagingStatus : StagingStatus
  enabled : Bool
  deriving DecidableEq

def SkillCatalogEntry.standing (entry : SkillCatalogEntry) : Standing :=
  { body := entry.body, stagingStatus := entry.stagingStatus, enabled := entry.enabled }

def standingAt (skills : JsonPayloadCatalog SkillCatalogEntry) (key : ItemKey) : Option Standing :=
  (skills.get? key).map SkillCatalogEntry.standing

section

variable (skills : JsonPayloadCatalog SkillCatalogEntry)

theorem standingAt_put (entry : SkillCatalogEntry) (key : ItemKey) :
    standingAt (skills.put entry) key = if key = itemKey entry then some entry.standing else standingAt skills key :=
  KeyedDict.map_get?_put SkillCatalogEntry.standing skills entry key

theorem standingAt_upsertSkill (backend : Backend) (entry : SkillCatalogEntry) (key : ItemKey) :
    standingAt (backend.upsertSkill skills entry).1 key =
      if key = itemKey entry then some entry.standing else standingAt skills key := by
  rw [Backend.upsertSkill_eq]
  refine (JsonPayloadCatalog.map_get?_upsertItem _ mergeSkillVersion skills (fun _ _ => rfl) entry key).trans ?_
  rw [JsonPayloadCatalog.map_merged_new SkillCatalogEntry.standing mergeSkillVersion skills fun _ _ => rfl]
  rfl

theorem standingAt_same {entry : SkillCatalogEntry} {key : ItemKey}
    (same : standingAt skills (itemKey entry) = some entry.standing) :
    (if key = itemKey entry then some entry.standing else standingAt skills key) = standingAt skills key := by
  by_cases here : key = itemKey entry
  · rw [if_pos here, here, same]
  · rw [if_neg here]

theorem standingAt_deleteSkill {entry : SkillCatalogEntry} {skillId profileId : String}
    (found : skills.get? (skillId, profileId) = some entry) (backend : Backend) (key : ItemKey) :
    standingAt (backend.deleteSkill skills skillId profileId).1 key =
      if key = (skillId, profileId) then some { entry.standing with enabled := false } else standingAt skills key := by
  have keyed : itemKey entry = (skillId, profileId) := KeyedDict.keyOf_of_get? found
  cases backend with
  | inMemory =>
    simp only [Backend.deleteSkill, JsonPayloadCatalog.softDelete, found]
    refine (standingAt_put skills _ key).trans ?_
    rw [← keyed]
    rfl
  | postgres =>
    simp only [Backend.deleteSkill, PostgresSkillCatalog.deleteSkill, PostgresJsonCatalog.getItem, found]
    refine (standingAt_upsertSkill skills .postgres { entry with enabled := false } key).trans ?_
    rw [← keyed]
    rfl

theorem standingAt_incrementUsage (backend : Backend) (skillId profileId : String) (error : Bool) (key : ItemKey) :
    standingAt (backend.incrementUsage skills skillId profileId error) key = standingAt skills key := by
  cases found : skills.get? (skillId, profileId) with
  | none => rw [Backend.incrementUsage_none skills found]
  | some entry =>
    have keyed : itemKey entry = (skillId, profileId) := KeyedDict.keyOf_of_get? found
    have held : standingAt skills (itemKey entry) = some entry.standing := by
      rw [keyed]
      exact congrArg (Option.map SkillCatalogEntry.standing) found
    cases backend with
    | inMemory =>
      simp only [Backend.incrementUsage, InMemorySkillCatalog.incrementUsage, found]
      refine (standingAt_put skills _ key).trans ?_
      exact standingAt_same skills held
    | postgres =>
      simp only [Backend.incrementUsage, PostgresSkillCatalog.incrementUsage, PostgresJsonCatalog.getItem, found]
      refine (standingAt_upsertSkill skills .postgres _ key).trans ?_
      exact standingAt_same skills held

end

end CysAgi.Catalog
