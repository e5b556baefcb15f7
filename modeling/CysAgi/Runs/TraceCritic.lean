import Mathlib.Algebra.Order.Ring.Rat
import CysAgi.Base.Text
import CysAgi.Runs.RunStep

namespace CysAgi

open Py

structure JudgeRequest where
  rubricRef : String
  inputText : String
  outputText : String
  context : JsonDict := []

structure JudgeResult where
  score : Rat := 0
  verdict : String := ""
  reasoning : String := ""
  nonneg : 0 ≤ score
  le_one : score ≤ 1

/-- `EvaluateTraceCritic`, with the reasoning model where one is configured: the text that it answers a prompt
    with. `float` reads a text as a number that is not infinite, and raises on every other text: such a score
    is refused later on in any case. -/
structure EvaluateTraceCritic where
  judgeBackend : Option (JudgeRequest → Except PyExc JudgeResult) := none
  threshold : Rat := 11 / 20
  reasoningModel : Option (String → Except PyExc String) := none
  lower : String → String
  dumps : Json → String
  str : Json → String
  loads : String → Except PyExc Json
  float : String → Except PyExc Rat

def heuristicIssues (lower : String → String) (traceText : String) : List String :=
  (if contains (lower traceText) "error" ∧ contains (lower traceText) "stub" then
    ["trace contains tool errors or stub responses"] else []) ++
  (if contains (lower traceText) "spawn" ∧ ¬contains (lower traceText) "result" then
    ["spawn requested without visible spawn_result"] else []) ++
  (if traceText.toList.length < 40 then ["trace too short to verify reasoning"] else [])

/-- `max(0.2, 0.9 - 0.15 * len(issues))`. -/
def baseScore (issues : List String) : Rat := max (1 / 5) (9 / 10 - 3 / 20 * issues.length)

namespace EvaluateTraceCritic

variable (critic : EvaluateTraceCritic)

def traceText : Json → String
  | .str text => text
  | trace => critic.dumps trace

def issues (trace : Json) : List String := heuristicIssues critic.lower (critic.traceText trace)

/-- `"pass" if score >= self.threshold else "fail"`. -/
def verdictOf (score : Rat) : String := if critic.threshold ≤ score then "pass" else "fail"

def request (goal : String) (trace : Json) (stepCount : Int) : JudgeRequest where
  rubricRef := "trace-critic"
  inputText := goal
  outputText := String.ofList ((critic.traceText trace).toList.take 8000)
  context := [("step_count", .int stepCount)]

def toFloat : Json → Except PyExc Rat
  | .bool value => .ok (if value then 1 else 0)
  | .int value => .ok value
  | .float value => .ok value
  | .str text => critic.float text
  | _ => .error (.exception "float() argument must be a string or a real number")

def prompt (goal : String) (trace : Json) : String :=
  let clipped := String.ofList ((critic.traceText trace).toList.take 6000)
  s!"Rate trace quality for goal: {goal}\nTrace:\n{clipped}\n" ++
    "Reply JSON: \x7b\"score\":0.0-1.0,\"verdict\":\"pass|fail\",\"reasoning\":\"...\"\x7d"

def replyFields (text : String) : Except PyExc JsonDict :=
  if '{' ∈ text.toList then do
    match ← critic.loads (String.ofList ((text.toList.rdropWhile (· ≠ '}')).dropWhile (· ≠ '{'))) with
    | .obj fields => return fields
    | _ => .error (.exception "object has no attribute 'get'")
  else .ok []

def replyScore (fields : JsonDict) : Except PyExc Rat := do
  let score ← match JsonDict.get? fields "score" with
    | some value => critic.toFloat value
    | none => .ok (1 / 2)
  if 0 ≤ score ∧ score ≤ 1 then return score else .error (.exception "validation error for TraceVerdict")

def askReasoning (invoke : String → Except PyExc String) (goal : String) (trace : Json) :
    Except PyExc (JsonDict × Rat) := do
  let text ← invoke (critic.prompt goal trace)
  let fields ← critic.replyFields text
  let score ← critic.replyScore fields
  return (fields, score)

def reply (goal : String) (trace : Json) : Except PyExc (Option (JsonDict × Rat)) :=
  match critic.reasoningModel with
  | none => .ok none
  | some invoke =>
    match critic.askReasoning invoke goal trace with
    | .ok answer => .ok (some answer)
    | .error raised => if raised.caught then .ok none else .error raised

def verdictOfReply (fields : JsonDict) (score : Rat) : TraceVerdict where
  score
  verdict :=
    match JsonDict.get? fields "verdict" with
    | some value => critic.str value
    | none => critic.verdictOf score
  reasoning :=
    match JsonDict.get? fields "reasoning" with
    | some value => critic.str value
    | none => ""
  shouldRerun := score < critic.threshold

def reasoningJudge (goal : String) (trace : Json) : Except PyExc (Option TraceVerdict) :=
  (critic.reply goal trace).map (Option.map fun answer => critic.verdictOfReply answer.1 answer.2)

def judgedScore (issues : List String) (result : JudgeResult) : Rat :=
  if 0 < result.score then min (baseScore issues) result.score else baseScore issues

def execute (goal : String) (trace : Json) (stepCount : Int) : Except PyExc TraceVerdict :=
  let issues := critic.issues trace
  match critic.judgeBackend with
  | some judge => do
    let result ← judge (critic.request goal trace stepCount)
    let score := judgedScore issues result
    return {
      score
      verdict := orElse result.verdict (critic.verdictOf score)
      reasoning := result.reasoning
      shouldRerun := score < critic.threshold
      issues := if result.verdict = "fail" ∨ score < critic.threshold then
        issues ++ [orElse result.reasoning "judge flagged trace"] else issues }
  | none => do
    match ← critic.reasoningJudge goal trace with
    | some verdict => return { verdict with
        issues := if verdict.issues = [] then issues else verdict.issues ++ issues }
    | none => return {
        score := baseScore issues
        verdict := critic.verdictOf (baseScore issues)
        reasoning := "heuristic trace evaluation"
        shouldRerun := baseScore issues < critic.threshold
        issues }

/-- The verdict, the flag and the score say the same, and the score is not above the judge's. -/
structure Consistent (goal : String) (trace : Json) (stepCount : Int) (verdict : TraceVerdict) : Prop where
  fails : verdict.verdict = "fail" ↔ verdict.shouldRerun = true
  reruns : verdict.shouldRerun = true ↔ verdict.score < critic.threshold
  judged : ∀ judge result, critic.judgeBackend = some judge →
    judge (critic.request goal trace stepCount) = .ok result → verdict.score ≤ result.score

/-- A judge gives a score above zero, and a verdict that fails exactly when its score or the heuristic one is below
    the threshold, or none; the reasoning model gives a verdict that fails exactly when its score is below the
    threshold, or none. -/
def AnswersAgree (goal : String) (trace : Json) (stepCount : Int) : Prop :=
  match critic.judgeBackend with
  | some judge => ∀ result, judge (critic.request goal trace stepCount) = .ok result →
    0 < result.score ∧ (result.verdict = "" ∨
      (result.verdict = "fail" ↔
        result.score < critic.threshold ∨ baseScore (critic.issues trace) < critic.threshold))
  | none => ∀ fields score, critic.reply goal trace = .ok (some (fields, score)) →
    ∀ value, JsonDict.get? fields "verdict" = some value → (critic.str value = "fail" ↔ score < critic.threshold)

variable {critic}

theorem verdictOf_fail (score : Rat) : critic.verdictOf score = "fail" ↔ score < critic.threshold := by
  unfold verdictOf
  by_cases passed : critic.threshold ≤ score
  · rw [if_pos passed]
    exact iff_of_false (by decide) (not_lt.mpr passed)
  · rw [if_neg passed]
    exact iff_of_true rfl (not_le.mp passed)

theorem baseScore_pos (issues : List String) : 0 < baseScore issues :=
  lt_of_lt_of_le (by decide +kernel) (le_max_left _ _)

theorem judgedScore_le_iff (issues : List String) (result : JudgeResult) :
    judgedScore issues result ≤ result.score ↔ 0 < result.score := by
  unfold judgedScore
  by_cases scored : 0 < result.score
  · rw [if_pos scored]
    exact iff_of_true (min_le_right _ _) scored
  · rw [if_neg scored]
    have above := baseScore_pos issues
    exact iff_of_false (fun low => scored (above.trans_le low)) scored

theorem judgedScore_lt_iff {issues : List String} {result : JudgeResult} (scored : 0 < result.score) :
    judgedScore issues result < critic.threshold ↔
      result.score < critic.threshold ∨ baseScore issues < critic.threshold := by
  rw [judgedScore, if_pos scored, min_lt_iff, or_comm]

theorem judged_consistent_iff {issues : List String} (result : JudgeResult) :
    ((orElse result.verdict (critic.verdictOf (judgedScore issues result)) = "fail" ↔
        judgedScore issues result < critic.threshold) ∧ judgedScore issues result ≤ result.score) ↔
      0 < result.score ∧ (result.verdict = "" ∨
        (result.verdict = "fail" ↔ result.score < critic.threshold ∨ baseScore issues < critic.threshold)) := by
  rw [judgedScore_le_iff, and_comm]
  apply and_congr_right
  intro scored
  rw [← judgedScore_lt_iff scored]
  by_cases silent : result.verdict = ""
  · rw [orElse, if_pos silent]
    exact iff_of_true (verdictOf_fail _) (.inl silent)
  · rw [orElse, if_neg silent]
    exact (or_iff_right silent).symm

section

variable {goal : String} {trace : Json} {stepCount : Int} {verdict : TraceVerdict}

theorem consistent_of_judge_iff {judge : JudgeRequest → Except PyExc JudgeResult}
    (backend : critic.judgeBackend = some judge) (returned : critic.execute goal trace stepCount = .ok verdict) :
    critic.Consistent goal trace stepCount verdict ↔ critic.AnswersAgree goal trace stepCount := by
  unfold execute at returned
  unfold AnswersAgree
  dsimp only at returned
  rw [backend] at returned ⊢
  obtain ⟨result, judged, made⟩ := except_bind_ok.mp returned
  cases made
  simp only [judged, Except.ok.injEq, forall_eq']
  rw [← judged_consistent_iff result]
  constructor
  · intro consistent
    exact ⟨by simpa using consistent.fails, consistent.judged judge result backend judged⟩
  · intro agrees
    constructor
    · simpa using agrees.1
    · exact decide_eq_true_iff
    · intro judge' result' same again
      rw [backend] at same
      cases same
      rw [judged] at again
      cases again
      exact agrees.2

theorem consistent_unjudged_iff (backend : critic.judgeBackend = none)
    (reruns : verdict.shouldRerun = true ↔ verdict.score < critic.threshold) :
    critic.Consistent goal trace stepCount verdict ↔ (verdict.verdict = "fail" ↔ verdict.score < critic.threshold) := by
  constructor
  · intro consistent
    exact consistent.fails.trans reruns
  · intro fails
    refine ⟨fails.trans reruns.symm, reruns, ?_⟩
    intro judge result same
    rw [backend] at same
    cases same

theorem verdictOfReply_fail_iff (fields : JsonDict) (score : Rat) :
    ((critic.verdictOfReply fields score).verdict = "fail" ↔ score < critic.threshold) ↔
      ∀ value, JsonDict.get? fields "verdict" = some value → (critic.str value = "fail" ↔ score < critic.threshold) := by
  unfold verdictOfReply
  dsimp only
  cases JsonDict.get? fields "verdict" with
  | none => exact iff_of_true (verdictOf_fail score) fun value given => by cases given
  | some value =>
    constructor
    · intro agrees other same
      cases same
      exact agrees
    · intro agrees
      exact agrees value rfl

end

/-- The critic is consistent exactly when the answer that it is given agrees with itself. -/
theorem consistent_iff (critic : EvaluateTraceCritic) (goal : String) (trace : Json) (stepCount : Int)
    (verdict : TraceVerdict) (returned : critic.execute goal trace stepCount = .ok verdict) :
    critic.Consistent goal trace stepCount verdict ↔ critic.AnswersAgree goal trace stepCount := by
  cases backend : critic.judgeBackend with
  | some judge => exact consistent_of_judge_iff backend returned
  | none =>
    unfold execute at returned
    unfold AnswersAgree
    dsimp only at returned
    rw [backend] at returned ⊢
    obtain ⟨asked, answered, made⟩ := except_bind_ok.mp returned
    obtain ⟨reply, replied, same⟩ := except_map_ok.mp answered
    dsimp only
    cases reply with
    | none =>
      cases same
      cases made
      rw [consistent_unjudged_iff backend decide_eq_true_iff]
      apply iff_of_true
      · exact verdictOf_fail _
      · intro fields score other
        rw [replied] at other
        cases other
    | some answer =>
      obtain ⟨fields, score⟩ := answer
      cases same
      cases made
      rw [consistent_unjudged_iff backend decide_eq_true_iff]
      apply (verdictOfReply_fail_iff fields score).trans
      constructor
      · intro agrees fields' score' again
        rw [replied] at again
        cases again
        exact agrees
      · intro agrees
        exact agrees fields score replied

def langfuseJudge (lower : String → String) (request : JudgeRequest) : JudgeResult :=
  let text := lower request.outputText
  let errors : Rat := if contains text "error" then 1 / 5 else 0
  let short : Rat := if text.toList.length < 30 then 3 / 10 else 0
  let score := max 0 (min 1 (3 / 4 - errors - short))
  let issues := (if contains text "error" then ["errors in trace"] else []) ++
    (if text.toList.length < 30 then ["trace too short"] else [])
  { score
    verdict := if 11 / 20 ≤ score then "pass" else "fail"
    reasoning := if issues = [] then "langfuse judge heuristic" else "; ".intercalate issues
    nonneg := le_max_left _ _
    le_one := max_le (by decide +kernel) (min_le_left _ _) }

def noopJudge (_ : JudgeRequest) : JudgeResult where
  verdict := "noop"
  reasoning := "judge backend disabled"
  nonneg := by decide +kernel
  le_one := by decide +kernel

def plainCritic : EvaluateTraceCritic where
  lower text := text
  dumps _ := ""
  str _ := ""
  loads _ := .error (.exception "Expecting value")
  float _ := .error (.exception "could not convert string to float")

def stubTrace : Json := .str "error from stub; spawn requested now"

def langfuseCritic : EvaluateTraceCritic :=
  { plainCritic with judgeBackend := some fun request => .ok (langfuseJudge id request) }

def noopCritic : EvaluateTraceCritic := { plainCritic with judgeBackend := some fun request => .ok (noopJudge request) }

/-- The judge passes a trace that the heuristic score sends into a rerun; a judge that is switched off scores it with
    zero, and the final score is above that. -/
theorem judged_inconsistent :
    (∃ verdict, langfuseCritic.execute "triage" stubTrace 1 = .ok verdict ∧
        ¬langfuseCritic.Consistent "triage" stubTrace 1 verdict) ∧
      ∃ verdict, noopCritic.execute "triage" stubTrace 1 = .ok verdict ∧
        ¬noopCritic.Consistent "triage" stubTrace 1 verdict := by
  refine ⟨⟨_, rfl, fun consistent => ?_⟩, ⟨_, rfl, fun consistent => ?_⟩⟩
  · exact absurd (consistent.fails.mpr (by decide +kernel)) (by decide +kernel)
  · exact absurd (consistent.judged _ _ rfl rfl) (by decide +kernel)

theorem heuristic_consistent :
    ∃ verdict, plainCritic.execute "triage" stubTrace 1 = .ok verdict ∧
      plainCritic.Consistent "triage" stubTrace 1 verdict := by
  refine ⟨_, rfl, ?_⟩
  apply (consistent_iff plainCritic "triage" stubTrace 1 _ rfl).mpr
  intro fields score answered
  cases answered

end EvaluateTraceCritic

end CysAgi
