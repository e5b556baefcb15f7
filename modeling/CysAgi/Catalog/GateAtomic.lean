import CysAgi.Base.Transition
import CysAgi.Catalog.WriteGate

open Py

namespace CysAgi.Catalog

inductive Resource where
  | agent (name : String)
  | skill (key : ItemKey)
  | plan (key : ItemKey)
  | mcpServer (key : ItemKey)

def Resource.type : Resource → String
  | .agent _ => "agent"
  | .skill _ => "skill"
  | .plan _ => "plan"
  | .mcpServer _ => "mcp_server"

def Resource.id : Resource → String
  | .agent name => name
  | .skill key => key.1
  | .plan key => key.1
  | .mcpServer key => key.1

def GateState.SameAt (s t : GateState) : Resource → Prop
  | .agent name => t.agents.getAgent name = s.agents.getAgent name
  | .skill key => t.skills.get? key = s.skills.get? key
  | .plan key => t.plans.get? key = s.plans.get? key
  | .mcpServer key => t.mcp.get? key = s.mcp.get? key

structure GateStep where
  before : GateState
  raised : Option PyExc
  after : GateState

/-- A call that raises leaves every entry and the trail alone. Any other changes at most one entry, which it
    names in one record at the end of the trail, or changes nothing without a record. -/
structure GateStep.Atomic (step : GateStep) : Prop where
  untouched : step.raised ≠ none →
    (∀ resource, step.before.SameAt step.after resource) ∧ step.after.audit = step.before.audit
  recorded : step.raised = none →
    ((∀ resource, step.before.SameAt step.after resource) ∧ step.after.audit = step.before.audit) ∨
    ∃ resource record, record.resourceType = resource.type ∧ record.resourceId = resource.id ∧
      step.after.audit = step.before.audit ++ [record] ∧
      ∀ other, other ≠ resource → step.before.SameAt step.after other

section

variable {lib : GateLibrary} {s t : GateState}

theorem sameAt_refl (s : GateState) (resource : Resource) : s.SameAt s resource := by
  cases resource <;> rfl

theorem atomic_unchanged (s : GateState) (raised : Option PyExc) : (GateStep.mk s raised s).Atomic where
  untouched _ := ⟨sameAt_refl s, rfl⟩
  recorded _ := .inl ⟨sameAt_refl s, rfl⟩

theorem atomic_record (resource : Resource) {record : AuditRecord} (type : record.resourceType = resource.type)
    (id : record.resourceId = resource.id) (trail : t.audit = s.audit)
    (others : ∀ other, other ≠ resource → s.SameAt t other) : (GateStep.mk s none (t.record record)).Atomic where
  untouched raised := absurd rfl raised
  recorded _ := by
    refine .inr ⟨resource, record, type, id, congrArg (· ++ [record]) trail, fun other ne => ?_⟩
    have same := others other ne
    cases other <;> exact same

theorem atomic_raised_iff {raised : PyExc} (trail : t.audit = s.audit) :
    (GateStep.mk s (some raised) t).Atomic ↔ ∀ resource, s.SameAt t resource := by
  constructor
  · intro atomic
    exact (atomic.untouched (Option.some_ne_none raised)).1
  · intro same
    exact ⟨fun _ => ⟨same, trail⟩, fun none => nomatch none⟩

theorem audit_holdAgent (s : GateState) (live : Bool) (entry : AgentCatalogEntry) :
    (s.holdAgent live entry).audit = s.audit := by
  cases live <;> rfl

theorem audit_holdSkill (s : GateState) (live : Bool) (entry : SkillCatalogEntry) :
    (s.holdSkill live entry).audit = s.audit := by
  cases live <;> rfl

theorem sameAt_holdAgent (s : GateState) (live : Bool) (entry : AgentCatalogEntry) (other : Resource)
    (ne : other ≠ .agent entry.name) : s.SameAt (s.holdAgent live entry) other := by
  cases live with
  | false => exact sameAt_refl s other
  | true =>
    cases other with
    | agent name =>
      apply KeyedDict.get?_put_of_ne
      exact fun same => ne (congrArg Resource.agent same)
    | _ => rfl

theorem sameAt_holdSkill (s : GateState) (live : Bool) (entry : SkillCatalogEntry) (other : Resource)
    (ne : other ≠ .skill (itemKey entry)) : s.SameAt (s.holdSkill live entry) other := by
  cases live with
  | false => exact sameAt_refl s other
  | true =>
    cases other with
    | skill key =>
      apply KeyedDict.get?_put_of_ne
      exact fun same => ne (congrArg Resource.skill same)
    | _ => rfl

theorem sameAt_holdAgent_iff {entry original : AgentCatalogEntry}
    (stored : s.agents.getAgent entry.name = some original) :
    (∀ resource, s.SameAt (s.holdAgent true entry) resource) ↔ entry = original := by
  constructor
  · intro same
    have here : (s.agents.agents.put entry).get? entry.name = s.agents.getAgent entry.name := same (.agent entry.name)
    rw [KeyedDict.get?_put_self, stored] at here
    exact Option.some.inj here
  · intro equal resource
    subst equal
    cases resource with
    | agent name => exact KeyedDict.get?_put_stored stored name
    | _ => rfl

theorem sameAt_holdSkill_iff {entry original : SkillCatalogEntry}
    (stored : s.skills.get? (itemKey entry) = some original) :
    (∀ resource, s.SameAt (s.holdSkill true entry) resource) ↔ entry = original := by
  constructor
  · intro same
    have here : (s.skills.put entry).get? (itemKey entry) = s.skills.get? (itemKey entry) :=
      same (.skill (itemKey entry))
    rw [KeyedDict.get?_put_self, stored] at here
    exact Option.some.inj here
  · intro equal resource
    subst equal
    cases resource with
    | skill key => exact KeyedDict.get?_put_stored stored key
    | _ => rfl

theorem upsertAgent_raised {live : Bool} {entry : AgentCatalogEntry} {raised : PyExc} (actor : String)
    (failed : (checkAgent lib s.skills.ids entry).2 = .error raised) :
    s.upsertAgent lib live entry actor = (s.holdAgent live (checkAgent lib s.skills.ids entry).1, .error raised) := by
  simp only [GateState.upsertAgent, failed]

theorem upsertSkill_raised {live : Bool} {entry : SkillCatalogEntry} {raised : PyExc} (actor : String)
    (failed : (checkSkill lib entry).2 = .error raised) :
    s.upsertSkill lib .inMemory live entry actor = (s.holdSkill live (checkSkill lib entry).1, .error raised) := by
  simp only [GateState.upsertSkill, failed]

theorem atomic_upsertAgent_ok {live : Bool} {entry : AgentCatalogEntry} (actor : String)
    (passed : (checkAgent lib s.skills.ids entry).2 = .ok ()) :
    (GateStep.mk s (raisedBy (s.upsertAgent lib live entry actor).2)
      (s.upsertAgent lib live entry actor).1).Atomic := by
  simp only [GateState.upsertAgent, passed]
  apply atomic_record (.agent (checkAgent lib s.skills.ids entry).1.name) rfl rfl
  · exact audit_holdAgent s live _
  · intro other ne
    have held := sameAt_holdAgent s live (checkAgent lib s.skills.ids entry).1 other ne
    cases other with
    | agent name =>
      refine Eq.trans ?_ held
      apply KeyedDict.get?_put_of_ne
      intro same
      apply ne
      rw [same, InMemoryAgentCatalog.name_saved]
    | _ => exact held

theorem get?_upsertItem_of_ne {ε : Type} [PayloadEntry ε] (catalog : JsonPayloadCatalog ε) (merge : ε → ε → ε)
    (kept : ∀ new existing, itemKey (merge new existing) = itemKey new) {entry : ε} {key : ItemKey}
    (ne : key ≠ itemKey entry) : (catalog.upsertItem merge entry).1.get? key = catalog.get? key := by
  apply KeyedDict.get?_put_of_ne
  rw [JsonPayloadCatalog.map_merged_new itemKey merge catalog kept]
  exact ne

theorem atomic_upsertSkill_ok {live : Bool} {entry : SkillCatalogEntry} (actor : String)
    (passed : (checkSkill lib entry).2 = .ok ()) :
    (GateStep.mk s (raisedBy (s.upsertSkill lib .inMemory live entry actor).2)
      (s.upsertSkill lib .inMemory live entry actor).1).Atomic := by
  simp only [GateState.upsertSkill, passed]
  apply atomic_record (.skill (itemKey (checkSkill lib entry).1)) rfl rfl
  · exact audit_holdSkill s live _
  · intro other ne
    have held := sameAt_holdSkill s live (checkSkill lib entry).1 other ne
    cases other with
    | skill key =>
      refine Eq.trans ?_ held
      apply get?_upsertItem_of_ne _ mergeSkillVersion fun _ _ => rfl
      exact fun same => ne (congrArg Resource.skill same)
    | _ => exact held

theorem atomic_upsertPlan (s : GateState) (entry : PlanCatalogEntry) (actor : String) :
    (GateStep.mk s none (s.upsertPlan entry actor).1).Atomic := by
  apply atomic_record (.plan (itemKey entry)) rfl rfl
  · rfl
  · intro other ne
    cases other with
    | plan key =>
      apply get?_upsertItem_of_ne _ mergePlanVersion fun _ _ => rfl
      exact fun same => ne (congrArg Resource.plan same)
    | _ => rfl

theorem atomic_upsertMcpServer (s : GateState) (entry : McpServerEntry) (actor : String) :
    (GateStep.mk s none (s.upsertMcpServer entry actor).1).Atomic := by
  apply atomic_record (.mcpServer (itemKey entry)) rfl rfl
  · rfl
  · intro other ne
    cases other with
    | mcpServer key =>
      apply get?_upsertItem_of_ne _ (fun new _ => new) fun _ _ => rfl
      exact fun same => ne (congrArg Resource.mcpServer same)
    | _ => rfl

theorem atomic_deleteAgent (s : GateState) (name profileId actor : String) :
    (GateStep.mk s none (s.deleteAgent name profileId actor).1).Atomic := by
  unfold GateState.deleteAgent InMemoryAgentCatalog.deleteAgent
  cases found : s.agents.getAgent name with
  | none => exact atomic_unchanged s none
  | some entry =>
    by_cases foreign : entry.profileId ≠ profileId
    · simp only [if_pos foreign]
      exact atomic_unchanged s none
    · simp only [if_neg foreign]
      have named : entry.name = name := KeyedDict.keyOf_of_get? found
      apply atomic_record (.agent name) rfl rfl
      · rfl
      · intro other ne
        cases other with
        | agent other =>
          apply KeyedDict.get?_put_of_ne
          exact fun same => ne (congrArg Resource.agent (same.trans named))
        | _ => rfl

theorem atomic_deleteSkill (s : GateState) (skillId profileId actor : String) :
    (GateStep.mk s none (s.deleteSkill .inMemory skillId profileId actor).1).Atomic := by
  unfold GateState.deleteSkill Backend.deleteSkill JsonPayloadCatalog.softDelete
  cases found : s.skills.get? (skillId, profileId) with
  | none => exact atomic_unchanged s none
  | some entry =>
    have keyed : itemKey entry = (skillId, profileId) := KeyedDict.keyOf_of_get? found
    apply atomic_record (.skill (skillId, profileId)) rfl rfl
    · rfl
    · intro other ne
      cases other with
      | skill key =>
        apply KeyedDict.get?_put_of_ne
        exact fun same => ne (congrArg Resource.skill (same.trans keyed))
      | _ => rfl

end

def Spoiled {ε : Type} (checked : ε × Except PyExc Unit) (original : ε) : Prop :=
  checked.2 ≠ .ok () ∧ checked.1 ≠ original

def Spoils (lib : GateLibrary) (s : GateState) : GateCall → Prop
  | .upsertAgent (.stored name) _ =>
    ∃ entry, s.agents.getAgent name = some entry ∧ Spoiled (checkAgent lib s.skills.ids entry) entry
  | .upsertSkill (.stored key) _ => ∃ entry, s.skills.get? key = some entry ∧ Spoiled (checkSkill lib entry) entry
  | .approveSkill skillId profileId _ => ∃ entry, s.skills.get? (skillId, profileId) = some entry ∧
    Spoiled (checkSkill lib { entry with stagingStatus := .vetted }) entry
  | _ => False

section

variable {lib : GateLibrary} {s t : GateState}

theorem iff_not_spoiled {ε : Type} {p : Prop} {checked : ε × Except PyExc Unit} {original : ε}
    (passes : checked.2 = .ok () → p) (fails : ∀ raised, checked.2 = .error raised → (p ↔ checked.1 = original)) :
    p ↔ ¬ Spoiled checked original := by
  unfold Spoiled
  cases said : checked.2 with
  | ok _ =>
    have holds := passes said
    exact ⟨fun _ spoiled => spoiled.1 rfl, fun _ => holds⟩
  | error raised =>
    have failed : (.error raised : Except PyExc Unit) ≠ .ok () := by
      intro same
      cases same
    rw [fails raised said]
    constructor
    · intro same spoiled
      exact spoiled.2 same
    · intro intact
      by_contra differs
      exact intact ⟨failed, differs⟩

theorem exists_found_iff {ε : Type} {held : Option ε} {entry : ε} (found : held = some entry) (p : ε → Prop) :
    (∃ other, held = some other ∧ p other) ↔ p entry := by
  simp only [found, Option.some.injEq, exists_eq_left']

theorem atomic_upsertAgent_fresh (entry : AgentCatalogEntry) (actor : String) :
    (GateStep.mk s (raisedBy (s.upsertAgent lib false entry actor).2)
      (s.upsertAgent lib false entry actor).1).Atomic := by
  cases checked : (checkAgent lib s.skills.ids entry).2 with
  | ok _ => exact atomic_upsertAgent_ok actor checked
  | error raised =>
    rw [upsertAgent_raised actor checked]
    exact atomic_unchanged s _

theorem atomic_upsertAgent_stored_iff {entry : AgentCatalogEntry} (actor : String)
    (stored : s.agents.getAgent entry.name = some entry) :
    (GateStep.mk s (raisedBy (s.upsertAgent lib true entry actor).2) (s.upsertAgent lib true entry actor).1).Atomic ↔
      ¬ Spoiled (checkAgent lib s.skills.ids entry) entry := by
  apply iff_not_spoiled
  · intro checked
    exact atomic_upsertAgent_ok actor checked
  · intro raised checked
    have kept : s.agents.getAgent (checkAgent lib s.skills.ids entry).1.name = some entry := by
      rw [checkAgent_name]
      exact stored
    rw [upsertAgent_raised actor checked]
    exact (atomic_raised_iff (audit_holdAgent s true _)).trans (sameAt_holdAgent_iff kept)

theorem atomic_upsertSkill_fresh (entry : SkillCatalogEntry) (actor : String) :
    (GateStep.mk s (raisedBy (s.upsertSkill lib .inMemory false entry actor).2)
      (s.upsertSkill lib .inMemory false entry actor).1).Atomic := by
  cases checked : (checkSkill lib entry).2 with
  | ok _ => exact atomic_upsertSkill_ok actor checked
  | error raised =>
    rw [upsertSkill_raised actor checked]
    exact atomic_unchanged s _

theorem atomic_upsertSkill_stored_iff {entry original : SkillCatalogEntry} (actor : String)
    (stored : s.skills.get? (itemKey entry) = some original) :
    (GateStep.mk s (raisedBy (s.upsertSkill lib .inMemory true entry actor).2)
      (s.upsertSkill lib .inMemory true entry actor).1).Atomic ↔
      ¬ Spoiled (checkSkill lib entry) original := by
  apply iff_not_spoiled
  · intro checked
    exact atomic_upsertSkill_ok actor checked
  · intro raised checked
    have kept : s.skills.get? (itemKey (checkSkill lib entry).1) = some original := by
      rw [checkSkill_key]
      exact stored
    rw [upsertSkill_raised actor checked]
    exact (atomic_raised_iff (audit_holdSkill s true _)).trans (sameAt_holdSkill_iff kept)

theorem atomic_perform_iff {call : GateCall} {raised : Option PyExc}
    (performed : s.perform lib call = some (t, raised)) : (GateStep.mk s raised t).Atomic ↔ ¬ Spoils lib s call := by
  cases call with
  | upsertAgent given actor =>
    obtain ⟨entry, found, same⟩ := Option.map_eq_some_iff.mp performed
    cases same
    cases given with
    | fresh other =>
      exact ⟨fun _ spoils => spoils, fun _ => atomic_upsertAgent_fresh entry actor⟩
    | stored name =>
      have named : entry.name = name := KeyedDict.keyOf_of_get? found
      have stored : s.agents.getAgent entry.name = some entry := named ▸ found
      have spoils := exists_found_iff found fun other => Spoiled (checkAgent lib s.skills.ids other) other
      exact (atomic_upsertAgent_stored_iff actor stored).trans (not_congr spoils.symm)
  | upsertSkill given actor =>
    obtain ⟨entry, found, same⟩ := Option.map_eq_some_iff.mp performed
    cases same
    cases given with
    | fresh other =>
      exact ⟨fun _ spoils => spoils, fun _ => atomic_upsertSkill_fresh entry actor⟩
    | stored key =>
      have keyed : itemKey entry = key := KeyedDict.keyOf_of_get? found
      have stored : s.skills.get? (itemKey entry) = some entry := keyed ▸ found
      have spoils := exists_found_iff found fun other => Spoiled (checkSkill lib other) other
      exact (atomic_upsertSkill_stored_iff actor stored).trans (not_congr spoils.symm)
  | approveSkill skillId profileId actor =>
    cases performed
    unfold GateState.approveSkill JsonPayloadCatalog.getItem
    cases found : s.skills.get? (skillId, profileId) with
    | none =>
      refine ⟨?_, fun _ => atomic_unchanged s _⟩
      intro _ both
      obtain ⟨entry, held, -⟩ := both
      rw [found] at held
      cases held
    | some entry =>
      have keyed : itemKey entry = (skillId, profileId) := KeyedDict.keyOf_of_get? found
      have stored : s.skills.get? (itemKey { entry with stagingStatus := .vetted }) = some entry :=
        (congrArg s.skills.get? keyed).trans found
      have spoils := exists_found_iff found fun other =>
        Spoiled (checkSkill lib { other with stagingStatus := .vetted }) other
      exact (atomic_upsertSkill_stored_iff actor stored).trans (not_congr spoils.symm)
  | upsertPlan given actor =>
    obtain ⟨entry, -, same⟩ := Option.map_eq_some_iff.mp performed
    cases same
    exact ⟨fun _ spoils => spoils, fun _ => atomic_upsertPlan s entry actor⟩
  | upsertMcpServer given actor =>
    obtain ⟨entry, -, same⟩ := Option.map_eq_some_iff.mp performed
    cases same
    exact ⟨fun _ spoils => spoils, fun _ => atomic_upsertMcpServer s entry actor⟩
  | deleteAgent name profileId actor =>
    cases performed
    exact ⟨fun _ spoils => spoils, fun _ => atomic_deleteAgent s name profileId actor⟩
  | deleteSkill skillId profileId actor =>
    cases performed
    exact ⟨fun _ spoils => spoils, fun _ => atomic_deleteSkill s skillId profileId actor⟩

end

structure GateHistory where
  gate : GateState
  steps : List GateStep := []

def GateHistory.step (lib : GateLibrary) (history : GateHistory) (call : GateCall) : Option GateHistory :=
  match history.gate.perform lib call with
  | none => some history
  | some (gate, raised) =>
    some { gate, steps := history.steps ++ [{ before := history.gate, raised, after := gate }] }

def GateHistory.AllAtomic (history : GateHistory) : Prop := ∀ step ∈ history.steps, step.Atomic

theorem not_spoils_of_perform_none {lib : GateLibrary} {s : GateState} {call : GateCall}
    (refused : s.perform lib call = none) : ¬ Spoils lib s call := by
  intro spoils
  cases call with
  | upsertAgent given actor =>
    cases given with
    | fresh entry => exact spoils
    | stored name =>
      obtain ⟨entry, found, -⟩ := spoils
      exact absurd (found.symm.trans (Option.map_eq_none_iff.mp refused)) (Option.some_ne_none entry)
  | upsertSkill given actor =>
    cases given with
    | fresh entry => exact spoils
    | stored key =>
      obtain ⟨entry, found, -⟩ := spoils
      exact absurd (found.symm.trans (Option.map_eq_none_iff.mp refused)) (Option.some_ne_none entry)
  | approveSkill skillId profileId actor => cases refused
  | _ => exact spoils

theorem allAtomic_step_iff {lib : GateLibrary} {history next : GateHistory} {call : GateCall}
    (atomic : history.AllAtomic) (taken : history.step lib call = some next) :
    next.AllAtomic ↔ ¬ Spoils lib history.gate call := by
  unfold GateHistory.step at taken
  cases performed : history.gate.perform lib call with
  | none =>
    rw [performed] at taken
    cases taken
    exact ⟨fun _ => not_spoils_of_perform_none performed, fun _ => atomic⟩
  | some result =>
    obtain ⟨gate, raised⟩ := result
    rw [performed] at taken
    cases taken
    rw [← atomic_perform_iff performed]
    constructor
    · intro all
      exact all _ (List.mem_append_right _ List.mem_cons_self)
    · intro last step member
      rcases List.mem_append.mp member with member | member
      · exact atomic step member
      · cases List.mem_singleton.mp member
        exact last

/-- Over any history on any seeded catalogs the calls are atomic and audited exactly when none of them
    rewrites an object of a catalog and then fails its checks. -/
theorem gate_atomic_iff (lib : GateLibrary) (seeded : GateState) (calls : List GateCall) :
    Transition.Always (GateHistory.step lib) GateHistory.AllAtomic { gate := seeded } calls ↔
      Transition.Guarded (GateHistory.step lib) (fun history call => ¬ Spoils lib history.gate call)
        { gate := seeded } calls := by
  have total : ∀ (history : GateHistory) call, ∃ next, history.step lib call = some next := by
    intro history call
    unfold GateHistory.step
    cases history.gate.perform lib call with
    | none => exact ⟨_, rfl⟩
    | some result => exact ⟨_, rfl⟩
  obtain ⟨last, reached⟩ := Transition.run_total total { gate := seeded } calls
  have start : GateHistory.AllAtomic { gate := seeded } := fun step member => nomatch member
  apply Transition.always_iff_guarded (fun _ => True) _ _ trivial start reached
  · intro history call next _ _ _ _
    trivial
  · intro history call next _ atomic taken
    exact allAtomic_step_iff atomic taken

def injectedSkill : SkillCatalogEntry := { id := "triage", body := injection, stagingStatus := .draft }

def injectedGate : GateState := { emptyGate with skills := emptyGate.skills.seed [injectedSkill] }

/-- The approval raises, and leaves the skill vetted without a record. -/
theorem approve_leaves_vetted :
    injectedGate.skills.getItem "triage" defaultProfileId = some injectedSkill ∧
    (injectedGate.perform gateLibrary (.approveSkill "triage" defaultProfileId "api")).map
        (fun result => (result.1.skills.getItem "triage" defaultProfileId, result.1.audit, result.2)) =
      some (some { injectedSkill with stagingStatus := .vetted }, [], some injectionDetected) := by
  decide +kernel

end CysAgi.Catalog
