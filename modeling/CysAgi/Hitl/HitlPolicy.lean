import CysAgi.Hitl.SecurityMiddleware
import CysAgi.Runtime.BlockedGlobs

open Py

namespace CysAgi

/-- `parse_threshold`, given Python's `str.lower`. -/
def parseThreshold (lowering : Lowering) (value : String) : RiskLevel :=
  match lowering.lower value with
  | "low" => .low
  | "medium" => .medium
  | "high" => .high
  | "critical" => .critical
  | _ => .low

structure PendingApproval where
  trustScore : Rat
  findingsCount : Int
  highSeverity : List JsonDict := []
  message : String

def PendingApproval.modelDump (pending : PendingApproval) : JsonDict :=
  [("trust_score", .float pending.trustScore), ("findings_count", .int pending.findingsCount),
    ("high_severity", .arr (pending.highSeverity.map .obj)), ("message", .str pending.message)]

structure HitlDecision where
  approved : Json
  pendingApproval : Option JsonDict
  interruptPreview : Option JsonDict := none

inductive ManualDecision where
  | verdict (approved : Bool)
  | form (fields : JsonDict)

/-- The policy with the built-ins it reads findings by: `str.lower`, `str` of what is no string, and `float` of a
    string. -/
structure HitlPolicy where
  lowering : Lowering
  str : Json → String
  float : String → Except PyExc Rat

namespace HitlPolicy

variable (policy : HitlPolicy)

def text : Json → String
  | .str text => text
  | value => policy.str value

/-- `str(fields.get(key, "")).lower() in ("high", "critical")`. -/
def grave (fields : JsonDict) (key : String) : Bool :=
  ["critical", "high"].contains (policy.lowering.lower (policy.text (JsonDict.getD fields key (.str ""))))

/-- `finding.get("data", default)`, whose `get` is called next. -/
def dataOr (finding default : JsonDict) : Except PyExc JsonDict :=
  match JsonDict.get? finding "data" with
  | none => .ok default
  | some (.obj fields) => .ok fields
  | some _ => .error (.exception "object has no attribute 'get'")

def anyGrave : List JsonDict → Except PyExc Bool
  | [] => .ok false
  | finding :: rest => do
    let fields ← dataOr finding finding
    if policy.grave fields "severity" then return true
    if policy.grave fields "risk_level" then return true
    anyGrave rest

def requiresHitl (findings : List JsonDict) (trustScore threshold : Rat) : Except PyExc Bool :=
  if trustScore < threshold then .ok true else policy.anyGrave findings

/-- The comprehension over the findings in `preview`. -/
def highSeverity : List JsonDict → Except PyExc (List JsonDict)
  | [] => .ok []
  | finding :: rest => do
    let fields ← dataOr finding []
    let others ← highSeverity rest
    return if policy.grave fields "severity" then finding :: others else others

def preview (trustScore : Rat) (findings : List JsonDict) : Except PyExc PendingApproval := do
  let highSeverity ← policy.highSeverity findings
  return { trustScore, findingsCount := findings.length, highSeverity
           message := "Human approval required before publishing assessment report." }

def trustScore (criticResult : JsonDict) : Except PyExc Rat :=
  (JsonDict.getD criticResult "trust_score" (.float 0)).toFloat
    (.exception "float() argument must be a string or a real number") policy.float

def decide (criticResult : JsonDict) (findings : List JsonDict) (trustScoreThreshold : Rat)
    (stage autoApproveThreshold : String) (manualDecision : Option ManualDecision) : Except PyExc HitlDecision := do
  let trustScore ← policy.trustScore criticResult
  let needsApproval ← policy.requiresHitl findings trustScore trustScoreThreshold
  if ¬needsApproval then return { approved := .bool true, pendingApproval := none }
  if stage = "dev" ∧ (parseThreshold policy.lowering "medium").order ≤
      (parseThreshold policy.lowering autoApproveThreshold).order then
    return { approved := .bool true
             pendingApproval := some [("auto_approved", .bool true), ("reason", .str "dev stage")] }
  let preview ← policy.preview trustScore findings
  match manualDecision with
  | none =>
    return { approved := .bool false, pendingApproval := some preview.modelDump
             interruptPreview := some preview.modelDump }
  | some (.verdict approved) => return { approved := .bool approved, pendingApproval := some preview.modelDump }
  | some (.form fields) =>
    return { approved := JsonDict.getD fields "approved" (.bool false), pendingApproval := some preview.modelDump }

def triggers (finding : JsonDict) : Bool := (policy.requiresHitl [finding] 0 0).toOption == some true

/-- The preview lists the findings that require approval by themselves, and where only findings are the reason for
    asking, it lists one. -/
structure PreviewAgrees (findings : List JsonDict) : Prop where
  listed : ∀ trustScore, ∃ pending, policy.preview trustScore findings = .ok pending ∧
    pending.highSeverity = findings.filter policy.triggers
  explained : ∀ criticResult threshold stage autoApproveThreshold manualDecision decision trustScore,
    policy.decide criticResult findings threshold stage autoApproveThreshold manualDecision = .ok decision →
    policy.trustScore criticResult = .ok trustScore → threshold ≤ trustScore →
    ∀ pending, decision.pendingApproval = some pending → JsonDict.get? pending "high_severity" ≠ some (.arr [])

end HitlPolicy

/-- What is under `data`, if anything, is a dict. -/
def Wrapped (finding : JsonDict) : Prop :=
  ∀ value, JsonDict.get? finding "data" = some value → ∃ fields, value = .obj fields

def levelsOf (finding : JsonDict) : JsonDict :=
  match JsonDict.get? finding "data" with
  | some (.obj fields) => fields
  | _ => finding

theorem Wrapped.dataOr_eq {finding : JsonDict} (wrapped : Wrapped finding) (default : JsonDict) :
    HitlPolicy.dataOr finding default =
      .ok (if JsonDict.has finding "data" = true then levelsOf finding else default) := by
  unfold HitlPolicy.dataOr levelsOf JsonDict.has
  cases found : JsonDict.get? finding "data" with
  | none => rfl
  | some value =>
    obtain ⟨fields, rfl⟩ := wrapped value found
    rfl

namespace HitlPolicy

variable (policy : HitlPolicy)

def graveAlone (finding : JsonDict) : Bool :=
  policy.grave (levelsOf finding) "severity" || policy.grave (levelsOf finding) "risk_level"

def previewed (finding : JsonDict) : Bool :=
  JsonDict.has finding "data" && policy.grave (levelsOf finding) "severity"

theorem grave_empty (key : String) : policy.grave [] key = false := by
  have nothing : policy.lowering.lower "" = "" := rfl
  unfold grave JsonDict.getD
  rw [show (JsonDict.get? [] key).getD (.str "") = .str "" from rfl, text, nothing]
  rfl

variable {policy}

theorem anyGrave_eq {findings : List JsonDict} (wrapped : ∀ finding ∈ findings, Wrapped finding) :
    policy.anyGrave findings = .ok (findings.any policy.graveAlone) := by
  induction findings with
  | nil => rfl
  | cons finding rest ih =>
    have others := ih fun other member => wrapped other (List.mem_cons_of_mem finding member)
    have read : dataOr finding finding = .ok (levelsOf finding) := by
      rw [(wrapped finding List.mem_cons_self).dataOr_eq]
      unfold levelsOf JsonDict.has
      cases JsonDict.get? finding "data" <;> rfl
    simp only [anyGrave, read, others, bind, Except.bind, pure, Except.pure, List.any_cons, graveAlone]
    cases policy.grave (levelsOf finding) "severity"
    · cases policy.grave (levelsOf finding) "risk_level" <;> rfl
    · rfl

theorem requiresHitl_eq {findings : List JsonDict} (wrapped : ∀ finding ∈ findings, Wrapped finding)
    {trustScore threshold : Rat} (sufficient : threshold ≤ trustScore) :
    policy.requiresHitl findings trustScore threshold = .ok (findings.any policy.graveAlone) := by
  unfold requiresHitl
  rw [if_neg (Rat.not_lt.mpr sufficient), anyGrave_eq wrapped]

theorem triggers_eq {finding : JsonDict} (wrapped : Wrapped finding) :
    policy.triggers finding = policy.graveAlone finding := by
  have alone : ∀ other ∈ [finding], Wrapped other := by
    intro other member
    rwa [List.mem_singleton.mp member]
  unfold triggers
  rw [requiresHitl_eq alone Rat.le_refl, List.any_cons, List.any_nil, Bool.or_false]
  cases policy.graveAlone finding <;> rfl

theorem highSeverity_eq {findings : List JsonDict} (wrapped : ∀ finding ∈ findings, Wrapped finding) :
    policy.highSeverity findings = .ok (findings.filter policy.previewed) := by
  induction findings with
  | nil => rfl
  | cons finding rest ih =>
    have others := ih fun other member => wrapped other (List.mem_cons_of_mem finding member)
    have read := (wrapped finding List.mem_cons_self).dataOr_eq []
    simp only [highSeverity, read, others, bind, Except.bind, pure, Except.pure, List.filter_cons, previewed]
    by_cases present : JsonDict.has finding "data" = true
    · simp only [present, if_true, Bool.true_and]
    · simp only [present, Bool.false_eq_true, if_false, grave_empty, Bool.false_and]

theorem preview_eq {findings : List JsonDict} (wrapped : ∀ finding ∈ findings, Wrapped finding) (trustScore : Rat) :
    policy.preview trustScore findings = .ok
      { trustScore, findingsCount := findings.length, highSeverity := findings.filter policy.previewed
        message := "Human approval required before publishing assessment report." } := by
  unfold preview
  rw [highSeverity_eq wrapped]
  rfl

theorem filter_eq_iff {α : Type} {p q : α → Bool} {items : List α} :
    items.filter p = items.filter q ↔ ∀ item ∈ items, p item = q item := by
  constructor
  · intro same item member
    apply Bool.eq_iff_iff.mpr
    have listed : item ∈ items.filter p ↔ item ∈ items.filter q := by rw [same]
    simpa [member] using listed
  · exact List.filter_congr

theorem decide_explained {findings : List JsonDict} (wrapped : ∀ finding ∈ findings, Wrapped finding)
    {criticResult : JsonDict} {threshold trustScore : Rat} {stage autoApproveThreshold : String}
    {manualDecision : Option ManualDecision} {decision : HitlDecision}
    (decided : policy.decide criticResult findings threshold stage autoApproveThreshold manualDecision = .ok decision)
    (scored : policy.trustScore criticResult = .ok trustScore) (sufficient : threshold ≤ trustScore)
    {pending : JsonDict} (asked : decision.pendingApproval = some pending) :
    JsonDict.get? pending "high_severity" = none ∨ findings.any policy.graveAlone = true ∧
      JsonDict.get? pending "high_severity" = some (.arr ((findings.filter policy.previewed).map .obj)) := by
  simp only [HitlPolicy.decide, scored, requiresHitl_eq wrapped sufficient, preview_eq wrapped, bind, Except.bind, pure,
    Except.pure] at decided
  cases needed : findings.any policy.graveAlone with
  | false =>
    rw [needed] at decided
    cases decided
    cases asked
  | true =>
    rw [needed] at decided
    by_cases auto : stage = "dev" ∧ (parseThreshold policy.lowering "medium").order ≤
        (parseThreshold policy.lowering autoApproveThreshold).order
    · simp only [not_true_eq_false, if_false, if_pos auto] at decided
      cases decided
      cases asked
      exact .inl rfl
    · simp only [not_true_eq_false, if_false, if_neg auto] at decided
      refine .inr ⟨rfl, ?_⟩
      cases manualDecision with
      | none =>
        cases decided
        cases asked
        rfl
      | some manual =>
        cases manual with
        | verdict approved =>
          cases decided
          cases asked
          rfl
        | form fields =>
          cases decided
          cases asked
          rfl

/-- The preview agrees with the trigger exactly when the findings that trigger are wrapped, and by their severity. -/
theorem preview_agrees_iff (policy : HitlPolicy) (findings : List JsonDict)
    (wrapped : ∀ finding ∈ findings, Wrapped finding) :
    policy.PreviewAgrees findings ↔ ∀ finding ∈ findings, policy.graveAlone finding = true →
      JsonDict.has finding "data" = true ∧ policy.grave (levelsOf finding) "severity" = true := by
  have same : findings.filter policy.triggers = findings.filter policy.graveAlone :=
    List.filter_congr fun finding member => triggers_eq (wrapped finding member)
  have implied : ∀ finding, policy.previewed finding = true → policy.graveAlone finding = true := by
    intro finding listed
    exact Bool.or_eq_true_iff.mpr (.inl (Bool.and_eq_true_iff.mp listed).2)
  constructor
  · intro agrees finding member grave
    obtain ⟨pending, previewed, listed⟩ := agrees.listed 0
    rw [preview_eq wrapped] at previewed
    cases previewed
    rw [same, filter_eq_iff] at listed
    exact Bool.and_eq_true_iff.mp ((listed finding member).trans grave)
  · intro shown
    have agree : findings.filter policy.previewed = findings.filter policy.graveAlone := by
      rw [filter_eq_iff]
      intro finding member
      apply Bool.eq_iff_iff.mpr
      exact ⟨implied finding, fun grave => Bool.and_eq_true_iff.mpr (shown finding member grave)⟩
    constructor
    · intro trustScore
      exact ⟨_, preview_eq wrapped trustScore, agree.trans same.symm⟩
    · intro criticResult threshold stage autoApproveThreshold manualDecision decision trustScore decided scored
        sufficient pending asked
      rcases decide_explained wrapped decided scored sufficient asked with absent | ⟨needed, listed⟩
      · rw [absent]
        exact nofun
      · obtain ⟨finding, member, grave⟩ := List.any_eq_true.mp needed
        have kept : finding ∈ findings.filter policy.previewed := by
          rw [agree]
          exact List.mem_filter.mpr ⟨member, grave⟩
        rw [listed]
        intro none
        cases empty : findings.filter policy.previewed with
        | nil =>
          rw [empty] at kept
          cases kept
        | cons first others =>
          rw [empty] at none
          cases none

def plainHitl : HitlPolicy where
  lowering := asciiLowering
  str _ := "other"
  float _ := .error (.exception "could not convert string to float")

/-- A critical finding with no wrapper asks for approval, and the reviewer is shown none. -/
theorem bare_finding_not_previewed : ¬ plainHitl.PreviewAgrees [[("severity", .str "critical")]] := by
  intro agrees
  obtain ⟨pending, previewed, listed⟩ := agrees.listed 1
  cases previewed
  exact absurd listed (by decide +kernel)

theorem preview_agrees_wrapped : plainHitl.PreviewAgrees
      [[("data", .obj [("severity", .str "High"), ("risk_level", .str "critical")])], [("severity", .str "low")]] := by
  apply (preview_agrees_iff plainHitl _ _).mpr
  · intro finding member grave
    rcases List.mem_cons.mp member with rfl | member
    · exact ⟨rfl, by decide +kernel⟩
    · rw [List.mem_singleton.mp member] at grave
      exact absurd grave (by decide +kernel)
  · intro finding member value found
    rcases List.mem_cons.mp member with rfl | member
    · cases found
      exact ⟨_, rfl⟩
    · rw [List.mem_singleton.mp member] at found
      cases found

end HitlPolicy

end CysAgi
