import CysAgi.Base.Transition
import CysAgi.Catalog.LoadSkill
import Mathlib.Logic.Function.Basic

open Py

namespace CysAgi.Catalog

inductive SkillCall where
  | upsertSkill (skillId : String) (body : JsonDict) (actor : String)
  | approveSkill (skillId profileId actor : String)
  | deleteSkill (skillId profileId actor : String)
  | loadSkill (call : LoadCall)

/-- The gate, and the body of each skill for which an approval was asked and given after it was last written. -/
structure SkillHistory where
  gate : GateState
  approved : ItemKey → Option String := fun _ => none

namespace SkillService

variable (service : SkillService)

def afterUpsert (h : SkillHistory) (skillId : String) (body : JsonDict) (actor : String) : SkillHistory :=
  match UpsertSkill.entry service.python skillId body with
  | .error _ => h
  | .ok entry =>
    let performed := h.gate.upsertSkill service.lib service.backend false entry actor
    match performed.2 with
    | .error _ => { h with gate := performed.1 }
    | .ok _ => { gate := performed.1, approved := Function.update h.approved (itemKey entry) none }

def afterApproval (h : SkillHistory) (skillId profileId actor : String) : SkillHistory :=
  let performed := h.gate.approveSkill service.lib service.backend skillId profileId actor
  match h.gate.skills.getItem skillId profileId, performed.2 with
  | some entry, .ok _ =>
    { gate := performed.1, approved := Function.update h.approved (skillId, profileId) (some entry.body) }
  | _, _ => { h with gate := performed.1 }

def afterDeletion (h : SkillHistory) (skillId profileId actor : String) : SkillHistory :=
  { h with gate := (h.gate.deleteSkill service.backend skillId profileId actor).1 }

def afterLoad (h : SkillHistory) (call : LoadCall) : SkillHistory :=
  { h with gate := (service.loadSkill h.gate call).1 }

def step (h : SkillHistory) : SkillCall → Option SkillHistory
  | .upsertSkill skillId body actor => some (service.afterUpsert h skillId body actor)
  | .approveSkill skillId profileId actor => some (service.afterApproval h skillId profileId actor)
  | .deleteSkill skillId profileId actor => some (service.afterDeletion h skillId profileId actor)
  | .loadSkill call => some (service.afterLoad h call)

/-- A body served from the catalog is the approved one, and no load serves a skill that is disabled there. -/
structure OnlyApproved (h : SkillHistory) : Prop where
  approved : ∀ call body text, service.loadFromCatalog h.gate call.skillName call.profileId = .ok (some body) →
    (service.loadSkill h.gate call).2 = .ok text → h.approved (call.skillName, call.profileId) = some body
  withdrawn : ∀ call entry, h.gate.skills.getItem call.skillName call.profileId = some entry →
    entry.enabled = false → ∀ text, (service.loadSkill h.gate call).2 ≠ .ok text

def Serves (body : String) : Prop :=
  service.useDynamicCatalog = true ∧ ∃ safe, service.lib.sanitizer.sanitize body .skill = .ok safe

def ServesFile (skillName : String) : Prop :=
  ∃ body safe, service.readSkillFile skillName = .ok body ∧ service.lib.sanitizer.sanitize body .skill = .ok safe

/-- What `OnlyApproved` asks of one entry. -/
structure Sound (skillId : String) (approved : Option String) (standing : Standing) : Prop where
  approved : standing.enabled = true → standing.stagingStatus ≠ .draft → service.Serves standing.body →
    approved = some standing.body
  withdrawn : standing.enabled = false → ¬ service.ServesFile skillId

def AllSound (h : SkillHistory) : Prop :=
  ∀ key standing, standingAt h.gate.skills key = some standing → service.Sound key.1 (h.approved key) standing

section

variable {service} {s : GateState} {h t : SkillHistory}

theorem loadFromCatalog_some {skillName profileId body : String}
    (served : service.loadFromCatalog s skillName profileId = .ok (some body)) :
    service.useDynamicCatalog = true ∧ ∃ standing, standingAt s.skills (skillName, profileId) = some standing ∧
      standing.enabled = true ∧ standing.stagingStatus ≠ .draft ∧ standing.body = body := by
  unfold loadFromCatalog JsonPayloadCatalog.getItem at served
  by_cases static : service.useDynamicCatalog = false
  · rw [if_pos static] at served
    cases served
  · rw [if_neg static] at served
    refine ⟨Bool.not_eq_false _ ▸ static, ?_⟩
    cases found : s.skills.get? (skillName, profileId) with
    | none =>
      rw [found] at served
      cases served
    | some entry =>
      simp only [found] at served
      by_cases disabled : entry.enabled = false
      · rw [if_pos disabled] at served
        cases served
      · rw [if_neg disabled] at served
        by_cases draft : entry.stagingStatus = .draft
        · rw [if_pos draft] at served
          cases served
        · rw [if_neg draft] at served
          cases served
          exact ⟨entry.standing, congrArg (Option.map SkillCatalogEntry.standing) found,
            Bool.eq_true_of_not_eq_false disabled, draft, rfl⟩

theorem loadFromCatalog_of_standing {skillName profileId : String} {standing : Standing}
    (dynamic : service.useDynamicCatalog = true) (held : standingAt s.skills (skillName, profileId) = some standing)
    (enabled : standing.enabled = true) (staged : standing.stagingStatus ≠ .draft) :
    service.loadFromCatalog s skillName profileId = .ok (some standing.body) := by
  obtain ⟨entry, found, rfl⟩ := Option.map_eq_some_iff.mp held
  unfold loadFromCatalog JsonPayloadCatalog.getItem
  rw [if_neg (ne_false_of_eq_true dynamic)]
  simp only [found]
  have here : entry.enabled = true := enabled
  have ready : entry.stagingStatus ≠ .draft := staged
  rw [if_neg (ne_false_of_eq_true here), if_neg ready]
  rfl

theorem loadFromCatalog_disabled {skillName profileId : String} {entry : SkillCatalogEntry}
    (found : s.skills.getItem skillName profileId = some entry) (disabled : entry.enabled = false) :
    service.loadFromCatalog s skillName profileId = .ok none := by
  unfold loadFromCatalog
  by_cases static : service.useDynamicCatalog = false
  · rw [if_pos static]
  · rw [if_neg static]
    simp only [found, if_pos disabled]

theorem loadSkill_ok {call : LoadCall} {text : String} (loaded : (service.loadSkill s call).2 = .ok text) :
    ∃ body safe, service.skillBody s call = .ok body ∧ service.lib.sanitizer.sanitize body .skill = .ok safe := by
  unfold loadSkill at loaded
  by_cases refused : call.skillName ∉ call.allowedSkills ∧ call.allowedSkills ≠ []
  · rw [if_pos refused] at loaded
    cases loaded
  · rw [if_neg refused] at loaded
    cases read : service.skillBody s call with
    | error raised =>
      rw [read] at loaded
      cases loaded
    | ok body =>
      simp only [read] at loaded
      cases sanitized : service.lib.sanitizer.sanitize body .skill with
      | error raised =>
        rw [sanitized] at loaded
        cases loaded
      | ok safe => exact ⟨body, safe, rfl, sanitized⟩

def anyone (key : ItemKey) : LoadCall := { skillName := key.1, persona := "", allowedSkills := [], profileId := key.2 }

theorem loadSkill_anyone {key : ItemKey} {body safe : String} (read : service.skillBody s (anyone key) = .ok body)
    (sanitized : service.lib.sanitizer.sanitize body .skill = .ok safe) :
    ∃ text, (service.loadSkill s (anyone key)).2 = .ok text := by
  unfold loadSkill
  rw [if_neg fun refused => refused.2 rfl]
  simp only [read, sanitized]
  exact ⟨_, rfl⟩

theorem onlyApproved_iff : service.OnlyApproved h ↔ service.AllSound h := by
  constructor
  · intro only key standing held
    constructor
    · intro enabled staged serves
      obtain ⟨dynamic, safe, sanitized⟩ := serves
      have served : service.loadFromCatalog h.gate key.1 key.2 = .ok (some standing.body) :=
        loadFromCatalog_of_standing dynamic held enabled staged
      have read : service.skillBody h.gate (anyone key) = .ok standing.body := by
        simp only [skillBody, anyone, served]
      obtain ⟨text, loaded⟩ := loadSkill_anyone read sanitized
      exact only.approved (anyone key) standing.body text served loaded
    · intro disabled both
      obtain ⟨body, safe, file, sanitized⟩ := both
      obtain ⟨entry, found, rfl⟩ := Option.map_eq_some_iff.mp held
      have read : service.skillBody h.gate (anyone key) = .ok body := by
        have passed : service.loadFromCatalog h.gate key.1 key.2 = .ok none := loadFromCatalog_disabled found disabled
        simp only [skillBody, anyone, passed, file]
      obtain ⟨text, loaded⟩ := loadSkill_anyone read sanitized
      exact only.withdrawn (anyone key) entry found disabled text loaded
  · intro sound
    constructor
    · intro call body text served loaded
      obtain ⟨dynamic, standing, held, enabled, staged, rfl⟩ := loadFromCatalog_some served
      obtain ⟨read, safe, given, sanitized⟩ := loadSkill_ok loaded
      simp only [skillBody, served] at given
      cases given
      exact (sound _ _ held).approved enabled staged ⟨dynamic, safe, sanitized⟩
    · intro call entry found disabled text loaded
      obtain ⟨body, safe, given, sanitized⟩ := loadSkill_ok loaded
      simp only [skillBody, loadFromCatalog_disabled found disabled] at given
      have held : standingAt h.gate.skills (call.skillName, call.profileId) = some entry.standing :=
        congrArg (Option.map SkillCatalogEntry.standing) found
      exact (sound _ _ held).withdrawn disabled ⟨body, safe, given, sanitized⟩

theorem allSound_replaced_iff {key : ItemKey} {standing : Standing} (sound : service.AllSound h)
    (here : standingAt t.gate.skills key = some standing)
    (others : ∀ other, other ≠ key → standingAt t.gate.skills other = standingAt h.gate.skills other ∧
      t.approved other = h.approved other) :
    service.AllSound t ↔ service.Sound key.1 (t.approved key) standing := by
  constructor
  · intro all
    exact all key standing here
  · intro one other stored held
    by_cases same : other = key
    · subst same
      rw [here] at held
      cases held
      exact one
    · obtain ⟨kept, approved⟩ := others other same
      rw [kept] at held
      rw [approved]
      exact sound other stored held

theorem allSound_congr (sound : service.AllSound h) (approved : t.approved = h.approved)
    (same : ∀ key, standingAt t.gate.skills key = standingAt h.gate.skills key) : service.AllSound t := by
  intro key standing held
  rw [same key] at held
  rw [approved]
  exact sound key standing held

end

def checkedStanding (entry : SkillCatalogEntry) : Standing := (checkSkill service.lib entry).1.standing

/-- What a call may do: write drafts, approve a body that the checks pass as it is, and delete what has no file. -/
def Approves (h : SkillHistory) : SkillCall → Prop
  | .upsertSkill skillId body _ => ∀ entry, UpsertSkill.entry service.python skillId body = .ok entry →
    (checkSkill service.lib entry).2 = .ok () → service.Serves (service.checkedStanding entry).body →
    entry.stagingStatus = .draft
  | .approveSkill skillId profileId _ => ∀ entry, h.gate.skills.getItem skillId profileId = some entry →
    entry.enabled = true → service.Serves (service.checkedStanding { entry with stagingStatus := .vetted }).body →
    ((checkSkill service.lib { entry with stagingStatus := .vetted }).2 = .ok () →
      (service.checkedStanding { entry with stagingStatus := .vetted }).body = entry.body) ∧
    ((checkSkill service.lib { entry with stagingStatus := .vetted }).2 ≠ .ok () → service.backend.live = true →
      h.approved (skillId, profileId) = some (service.checkedStanding { entry with stagingStatus := .vetted }).body)
  | .deleteSkill skillId profileId _ => ∀ entry, h.gate.skills.getItem skillId profileId = some entry →
    ¬ service.ServesFile skillId
  | .loadSkill _ => True

section

variable {service} {s : GateState} {h t : SkillHistory}

theorem checkedStanding_kept (entry : SkillCatalogEntry) :
    (service.checkedStanding entry).stagingStatus = entry.stagingStatus ∧
    (service.checkedStanding entry).enabled = entry.enabled :=
  ⟨checkSkill_map SkillCatalogEntry.stagingStatus service.lib fun _ _ => rfl,
    checkSkill_map SkillCatalogEntry.enabled service.lib fun _ _ => rfl⟩

theorem upsertSkill_passed (s : GateState) (live : Bool) {entry : SkillCatalogEntry} (actor : String)
    (passed : (checkSkill service.lib entry).2 = .ok ()) :
    (∃ stored, (s.upsertSkill service.lib service.backend live entry actor).2 = .ok stored) ∧
    ∀ key, standingAt (s.upsertSkill service.lib service.backend live entry actor).1.skills key =
      if key = itemKey entry then some (service.checkedStanding entry) else standingAt s.skills key := by
  simp only [GateState.upsertSkill, passed]
  refine ⟨⟨_, rfl⟩, fun key => ?_⟩
  have stored := standingAt_upsertSkill (s.holdSkill live (checkSkill service.lib entry).1).skills service.backend
    (checkSkill service.lib entry).1 key
  rw [checkSkill_key] at stored
  refine stored.trans ?_
  by_cases here : key = itemKey entry
  · rw [if_pos here, if_pos here]
    rfl
  · rw [if_neg here, if_neg here]
    cases live with
    | false => rfl
    | true =>
      refine (standingAt_put s.skills _ key).trans (if_neg ?_)
      rw [checkSkill_key]
      exact here

theorem upsertSkill_failed (s : GateState) (live : Bool) {entry : SkillCatalogEntry} (actor : String)
    (failed : (checkSkill service.lib entry).2 ≠ .ok ()) :
    (∃ raised, (s.upsertSkill service.lib service.backend live entry actor).2 = .error raised) ∧
    ∀ key, standingAt (s.upsertSkill service.lib service.backend live entry actor).1.skills key =
      if live = true ∧ key = itemKey entry then some (service.checkedStanding entry) else standingAt s.skills key := by
  cases checked : (checkSkill service.lib entry).2 with
  | ok _ => exact absurd checked failed
  | error raised =>
    simp only [GateState.upsertSkill, checked]
    refine ⟨⟨_, rfl⟩, fun key => ?_⟩
    cases live with
    | false => exact (if_neg fun both => Bool.false_ne_true both.1).symm
    | true =>
      refine (standingAt_put s.skills _ key).trans ?_
      rw [checkSkill_key]
      simp only [true_and]
      rfl

theorem afterUpsert_sound_iff {skillId : String} {body : JsonDict} (actor : String) (sound : service.AllSound h) :
    service.AllSound (service.afterUpsert h skillId body actor) ↔
      service.Approves h (.upsertSkill skillId body actor) := by
  unfold afterUpsert
  cases made : UpsertSkill.entry service.python skillId body with
  | error raised =>
    refine ⟨fun _ entry given => ?_, fun _ => sound⟩
    cases made.symm.trans given
  | ok entry =>
    by_cases passed : (checkSkill service.lib entry).2 = .ok ()
    · obtain ⟨⟨stored, saved⟩, held⟩ := upsertSkill_passed h.gate false actor passed
      simp only [saved]
      have kept := service.checkedStanding_kept entry
      have enabled := kept.2.trans (UpsertSkill.entry_made made).1
      rw [allSound_replaced_iff sound ((held (itemKey entry)).trans (if_pos rfl))]
      · simp only [Function.update_self]
        constructor
        · intro one other given _ serves
          cases made.symm.trans given
          by_contra staged
          cases one.approved enabled (fun draft => staged (kept.1.symm.trans draft)) serves
        · intro allowed
          constructor
          · intro _ staged serves
            exact absurd (kept.1.trans (allowed entry made passed serves)) staged
          · intro disabled
            cases enabled.symm.trans disabled
      · intro other ne
        exact ⟨(held other).trans (if_neg ne), Function.update_of_ne ne none h.approved⟩
    · obtain ⟨⟨raised, failed⟩, held⟩ := upsertSkill_failed h.gate false actor passed
      simp only [failed]
      constructor
      · intro _ other given checks
        cases made.symm.trans given
        exact absurd checks passed
      · intro _
        refine allSound_congr sound rfl ?_
        intro key
        exact (held key).trans (if_neg fun both => Bool.false_ne_true both.1)

theorem sound_vetted_iff {skillId : String} {before approved : Option String} {entry : SkillCatalogEntry}
    (sound : service.Sound skillId before entry.standing) :
    service.Sound skillId approved (service.checkedStanding { entry with stagingStatus := .vetted }) ↔
      (entry.enabled = true → service.Serves (service.checkedStanding { entry with stagingStatus := .vetted }).body →
        approved = some (service.checkedStanding { entry with stagingStatus := .vetted }).body) := by
  have kept := service.checkedStanding_kept { entry with stagingStatus := .vetted }
  have vetted : (service.checkedStanding { entry with stagingStatus := .vetted }).stagingStatus ≠ .draft := by
    rw [kept.1]
    intro same
    cases same
  constructor
  · intro one enabled serves
    exact one.approved (kept.2.trans enabled) vetted serves
  · intro allowed
    constructor
    · intro enabled _ serves
      exact allowed (kept.2.symm.trans enabled) serves
    · intro disabled
      exact sound.withdrawn (kept.2.symm.trans disabled)

theorem afterApproval_sound_iff {skillId profileId : String} (actor : String) (sound : service.AllSound h) :
    service.AllSound (service.afterApproval h skillId profileId actor) ↔
      service.Approves h (.approveSkill skillId profileId actor) := by
  unfold afterApproval GateState.approveSkill
  cases found : h.gate.skills.getItem skillId profileId with
  | none =>
    refine ⟨fun _ entry given => ?_, fun _ => sound⟩
    cases found.symm.trans given
  | some entry =>
    have keyed : itemKey { entry with stagingStatus := .vetted } = (skillId, profileId) :=
      (KeyedDict.keyOf_of_get? found : itemKey entry = (skillId, profileId))
    have stored : standingAt h.gate.skills (skillId, profileId) = some entry.standing :=
      congrArg (Option.map SkillCatalogEntry.standing) found
    have before := sound _ _ stored
    by_cases passed : (checkSkill service.lib { entry with stagingStatus := .vetted }).2 = .ok ()
    · obtain ⟨⟨saved, returned⟩, held⟩ := upsertSkill_passed h.gate service.backend.live actor passed
      rw [keyed] at held
      simp only [returned]
      rw [allSound_replaced_iff sound ((held (skillId, profileId)).trans (if_pos rfl)), sound_vetted_iff before]
      · simp only [Function.update_self]
        constructor
        · intro one other given enabled serves
          cases found.symm.trans given
          have same := Option.some.inj (one enabled serves)
          exact ⟨fun _ => same.symm, fun failed => absurd passed failed⟩
        · intro allowed enabled serves
          exact congrArg some ((allowed entry found enabled serves).1 passed).symm
      · intro other ne
        exact ⟨(held other).trans (if_neg ne), Function.update_of_ne ne (some entry.body) h.approved⟩
    · obtain ⟨⟨raised, failed⟩, held⟩ := upsertSkill_failed h.gate service.backend.live actor passed
      rw [keyed] at held
      simp only [failed]
      by_cases live : service.backend.live = true
      · rw [allSound_replaced_iff sound ((held (skillId, profileId)).trans (if_pos ⟨live, rfl⟩)),
          sound_vetted_iff before]
        · constructor
          · intro one other given enabled serves
            cases found.symm.trans given
            exact ⟨fun checks => absurd checks passed, fun _ _ => one enabled serves⟩
          · intro allowed enabled serves
            exact (allowed entry found enabled serves).2 passed live
        · intro other ne
          exact ⟨(held other).trans (if_neg fun both => ne both.2), rfl⟩
      · constructor
        · intro _ other given _ _
          cases found.symm.trans given
          exact ⟨fun checks => absurd checks passed, fun _ rewritten => absurd rewritten live⟩
        · intro _
          refine allSound_congr sound rfl ?_
          intro key
          exact (held key).trans (if_neg fun both => live both.1)

theorem afterDeletion_sound_iff {skillId profileId : String} (actor : String) (sound : service.AllSound h) :
    service.AllSound (service.afterDeletion h skillId profileId actor) ↔
      service.Approves h (.deleteSkill skillId profileId actor) := by
  have skills : (h.gate.deleteSkill service.backend skillId profileId actor).1.skills =
      (service.backend.deleteSkill h.gate.skills skillId profileId).1 := by
    simp only [GateState.deleteSkill]
    split <;> rfl
  cases found : h.gate.skills.get? (skillId, profileId) with
  | none =>
    have unchanged := skills.trans (Backend.deleteSkill_none h.gate.skills found service.backend)
    constructor
    · intro _ entry given
      cases found.symm.trans given
    · intro _
      refine allSound_congr sound rfl ?_
      intro key
      exact congrArg (standingAt · key) unchanged
  | some entry =>
    have held := standingAt_deleteSkill h.gate.skills found service.backend
    rw [← skills] at held
    rw [allSound_replaced_iff sound ((held (skillId, profileId)).trans (if_pos rfl))]
    · constructor
      · intro one _ _
        exact one.withdrawn rfl
      · intro allowed
        constructor
        · intro enabled
          cases enabled
        · intro _
          exact allowed entry found
    · intro other ne
      exact ⟨(held other).trans (if_neg ne), rfl⟩

theorem afterLoad_sound {call : LoadCall} (sound : service.AllSound h) :
    service.AllSound (service.afterLoad h call) := by
  refine allSound_congr sound rfl ?_
  intro key
  unfold afterLoad loadSkill
  by_cases refused : call.skillName ∉ call.allowedSkills ∧ call.allowedSkills ≠ []
  · rw [if_pos refused]
  · rw [if_neg refused]
    cases service.skillBody h.gate call with
    | error raised => rfl
    | ok body =>
      simp only
      cases service.lib.sanitizer.sanitize body .skill with
      | error raised => rfl
      | ok safe => exact standingAt_incrementUsage h.gate.skills service.backend call.skillName call.profileId false key

theorem step_sound_iff {call : SkillCall} (sound : service.AllSound h) (taken : service.step h call = some t) :
    service.AllSound t ↔ service.Approves h call := by
  cases call with
  | upsertSkill skillId body actor =>
    cases taken
    exact afterUpsert_sound_iff actor sound
  | approveSkill skillId profileId actor =>
    cases taken
    exact afterApproval_sound_iff actor sound
  | deleteSkill skillId profileId actor =>
    cases taken
    exact afterDeletion_sound_iff actor sound
  | loadSkill call =>
    cases taken
    exact ⟨fun _ => trivial, fun _ => afterLoad_sound sound⟩

end

def Clean (skills : JsonPayloadCatalog SkillCatalogEntry) : Prop :=
  ∀ key standing, standingAt skills key = some standing →
    (standing.enabled = true → service.Serves standing.body → standing.stagingStatus = .draft) ∧
    (standing.enabled = false → ¬ service.ServesFile key.1)

theorem allSound_start_iff (seeded : GateState) :
    service.AllSound { gate := seeded } ↔ service.Clean seeded.skills := by
  constructor
  · intro sound key standing held
    have one := sound key standing held
    refine ⟨fun enabled serves => ?_, one.withdrawn⟩
    by_contra staged
    cases one.approved enabled staged serves
  · intro clean key standing held
    obtain ⟨drafts, withdrawn⟩ := clean key standing held
    exact ⟨fun enabled staged serves => absurd (drafts enabled serves) staged, withdrawn⟩

/-- Over any history on any catalog only approved bodies are served, and nothing that is disabled, exactly when
    the catalog starts clean and each call only approves. -/
theorem onlyApproved_always_iff (service : SkillService) (seeded : GateState) (calls : List SkillCall) :
    Transition.Always service.step service.OnlyApproved { gate := seeded } calls ↔
      service.Clean seeded.skills ∧ Transition.Guarded service.step service.Approves { gate := seeded } calls := by
  have total : ∀ h call, ∃ t, service.step h call = some t := by
    intro h call
    cases call <;> exact ⟨_, rfl⟩
  obtain ⟨last, reached⟩ := Transition.run_total total { gate := seeded } calls
  have exact_step : ∀ h call t, True → service.OnlyApproved h → service.step h call = some t →
      (service.OnlyApproved t ↔ service.Approves h call) := by
    intro h call t _ only taken
    rw [onlyApproved_iff] at only ⊢
    exact step_sound_iff only taken
  have run := fun start => Transition.always_iff_guarded (fun _ => True) (fun _ _ _ _ _ _ _ => trivial) exact_step
    trivial start reached
  rw [← allSound_start_iff, ← onlyApproved_iff]
  constructor
  · intro always
    exact ⟨always.head, (run always.head).mp always⟩
  · intro given
    obtain ⟨start, guarded⟩ := given
    exact (run start).mpr guarded

end SkillService

def fileService : SkillService where
  lib := gateLibrary
  python := plainBodies
  backend := .inMemory
  useDynamicCatalog := true
  skillFile _ := some (.ok "built in")

def vettedBody : JsonDict := [("body", .str "uploaded"), ("staging_status", .str "vetted")]

/-- It is served without an approval, and a skill that is deleted is served from its file. -/
theorem served_unapproved_and_deleted :
    ¬ Transition.Always fileService.step fileService.OnlyApproved { gate := emptyGate }
      [.upsertSkill "triage" vettedBody "api"] ∧
    ¬ Transition.Always fileService.step fileService.OnlyApproved { gate := emptyGate }
      [.upsertSkill "triage" [("body", .str "uploaded")] "api", .deleteSkill "triage" defaultProfileId "api"] := by
  constructor
  · intro always
    have sound := SkillService.onlyApproved_iff.mp (always.last rfl)
    have held : standingAt (fileService.afterUpsert { gate := emptyGate } "triage" vettedBody "api").gate.skills
        ("triage", defaultProfileId) = some
          { body := wrapUserData "uploaded" .skill, stagingStatus := .vetted, enabled := true } := by
      decide +kernel
    have unapproved : (fileService.afterUpsert { gate := emptyGate } "triage" vettedBody "api").approved
        ("triage", defaultProfileId) = none := by
      decide +kernel
    have serves : fileService.Serves (wrapUserData "uploaded" .skill) :=
      ⟨rfl, wrapUserData "uploaded" .skill, by decide +kernel⟩
    have approved := (sound _ _ held).approved rfl (by decide) serves
    rw [unapproved] at approved
    cases approved
  · intro always
    have sound := SkillService.onlyApproved_iff.mp (always.last rfl)
    have held : standingAt (fileService.afterDeletion (fileService.afterUpsert { gate := emptyGate } "triage"
        [("body", .str "uploaded")] "api") "triage" defaultProfileId "api").gate.skills ("triage", defaultProfileId) =
          some { body := wrapUserData "uploaded" .skill, stagingStatus := .draft, enabled := false } := by
      decide +kernel
    have serves : fileService.ServesFile "triage" :=
      ⟨"built in", wrapUserData "built in" .skill, rfl, by decide +kernel⟩
    exact (sound _ _ held).withdrawn rfl serves

end CysAgi.Catalog
