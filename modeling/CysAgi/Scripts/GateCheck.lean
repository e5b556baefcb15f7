import CysAgi.Base.Effect
import CysAgi.Base.Json
import CysAgi.Base.Splitting
import CysAgi.Runtime.BlockedGlobs

namespace CysAgi

open Py

structure GatePolicy where
  mode : Option String := none
  severityBlock : Option (List String) := none
  severityWarn : Option (List String) := none

structure GateExit where
  ok : Bool
  message : String
  findings : Nat

namespace GateCheck

/-- `value.get(key, default)`. -/
def get (value : Json) (key : String) (default : Json) : Except PyExc Json :=
  match value with
  | .obj fields => .ok (JsonDict.getD fields key default)
  | _ => .error (.exception "object has no attribute \x27get\x27")

/-- What a `for` loop goes through. -/
def iter : Json → Except PyExc (List Json)
  | .arr items => .ok items
  | .obj fields => .ok (fields.map fun entry => .str entry.1)
  | .str text => .ok (text.toList.map fun c => .str (String.singleton c))
  | _ => .error (.exception "object is not iterable")

/-- `value[0]`. -/
def first : Json → Except PyExc Json
  | .arr [] => .error (.exception "list index out of range")
  | .arr (item :: _) => .ok item
  | .obj _ => .error (.exception "0")
  | .str text =>
    match text.toList with
    | [] => .error (.exception "string index out of range")
    | c :: _ => .ok (.str (String.singleton c))
  | _ => .error (.exception "object is not subscriptable")

variable (lower : String → String)

def normalizeLevel (level : String) : String :=
  replaceAll "error" "high" (replaceAll "warning" "medium" (lower (orElse level "note")))

/-- `normalize_level` of whatever a report holds. -/
def normalizeValue : Json → Except PyExc String
  | .str level => .ok (normalizeLevel lower level)
  | value =>
    if value.truthy then .error (.exception "object has no attribute \x27lower\x27")
    else .ok (normalizeLevel lower "")

def levelOf (key : String) (default : String) (entry : Json) : Except PyExc String := do
  normalizeValue lower (← get entry key (.str default))

def runLevels (run : Json) : Except PyExc (List String) := do
  (← iter (← get run "results" (.arr []))).mapM (levelOf lower "level" "note")

def parseSarif (data : Json) : Except PyExc (List String) := do
  let levels ← (← iter (← get data "runs" (.arr []))).mapM (runLevels lower)
  return levels.flatten

def parseGitlabSecrets (data : Json) : Except PyExc (List String) := do
  let entries ← iter (← get data "vulnerabilities" (← get data "secrets" (.arr [])))
  let levels ← entries.mapM (levelOf lower "severity" "high")
  let total ← get data "total" .null
  let detection ← get data "secret_detection" .null
  return if total.truthy || detection.truthy then levels ++ ["high"] else levels

def parseReport : Option Json → Except PyExc (List String)
  | none => .ok []
  | some data => do
    let levels ← runLevels lower (← first (← get data "runs" (.arr [.obj []])))
    if levels ≠ [] then return levels
    else
      match data with
      | .obj fields =>
        if JsonDict.has fields "runs" then parseSarif lower data
        else if JsonDict.has fields "vulnerabilities" || JsonDict.has fields "secrets" then
          parseGitlabSecrets lower data
        else return []
      -- a list has no `get`, so that this branch is never reached
      | .arr items => items.mapM (levelOf lower "severity" "high")
      | _ => return []

def blockSet (policy : GatePolicy) : List String :=
  (policy.severityBlock.getD ["critical", "high"]).map (normalizeLevel lower)

def warnSet (policy : GatePolicy) : List String := (policy.severityWarn.getD ["medium"]).map (normalizeLevel lower)

variable (repr : List String → String)

def evaluate (levels : List String) (policy : GatePolicy) : Bool × String :=
  let mode := policy.mode.getD "warn"
  if mode ∈ ["info", "optional", "artifact"] then (true, s!"mode={mode}, gate skipped")
  else
    let blocking := levels.filter (· ∈ blockSet lower policy)
    let warning := levels.filter (· ∈ warnSet lower policy)
    if blocking ≠ [] then
      let msg := s!"blocking findings: {repr blocking}"
      if mode = "block" then (false, msg) else (true, s!"warn only — {msg}")
    else if warning ≠ [] ∧ mode = "block" then (true, s!"warnings only: {repr warning}")
    else (true, "ok")

def main (report : Option Json) (policy : GatePolicy) : Except PyExc GateExit := do
  let levels ← parseReport lower report
  let (ok, message) := evaluate lower repr levels policy
  let found ← parseReport lower report
  return { ok, message, findings := found.length }

def sarifLevel : Json → Option (Option String)
  | .obj result =>
    match JsonDict.get? result "level" with
    | none => some none
    | some (.str level) => some (some level)
    | some _ => none
  | _ => none

def sarifResults : Json → Option (List (Option String))
  | .obj run =>
    match JsonDict.get? run "results" with
    | none => some []
    | some (.arr results) => results.mapM sarifLevel
    | some _ => none
  | _ => none

def sarifRuns : Json → Option (List (List (Option String)))
  | .obj report =>
    match JsonDict.get? report "runs" with
    | some (.arr runs) => runs.mapM sarifResults
    | _ => none
  | _ => none

def normalised (level : Option String) : String := normalizeLevel lower (level.getD "note")

def Blocks (policy : GatePolicy) (level : Option String) : Prop := normalised lower level ∈ blockSet lower policy

instance (policy : GatePolicy) (level : Option String) : Decidable (Blocks lower policy level) :=
  inferInstanceAs (Decidable (_ ∈ _))

/-- The gate comes to an end, and fails where some run has a blocking result. -/
def GateHolds (policy : GatePolicy) (report : Json) (runs : List (List (Option String))) : Prop :=
  ∃ exit, main lower repr (some report) policy = .ok exit ∧
    ((∃ run ∈ runs, ∃ level ∈ run, Blocks lower policy level) → exit.ok = false)

theorem levelOf_sarif {result : Json} {level : Option String} (read : sarifLevel result = some level) :
    levelOf lower "level" "note" result = .ok (normalised lower level) := by
  cases result with
  | obj fields =>
    unfold sarifLevel at read
    dsimp only at read
    unfold levelOf get
    cases stated : JsonDict.get? fields "level" with
    | none =>
      rw [stated] at read
      cases read
      simp only [JsonDict.getD, stated]
      rfl
    | some value =>
      rw [stated] at read
      cases value with
      | str text =>
        cases read
        simp only [JsonDict.getD, stated]
        rfl
      | _ => cases read
  | _ => cases read

theorem runLevels_sarif {run : Json} {levels : List (Option String)} (read : sarifResults run = some levels) :
    runLevels lower run = .ok (levels.map (normalised lower)) := by
  cases run with
  | obj fields =>
    unfold sarifResults at read
    dsimp only at read
    unfold runLevels get
    cases stated : JsonDict.get? fields "results" with
    | none =>
      rw [stated] at read
      cases read
      simp only [JsonDict.getD, stated]
      rfl
    | some value =>
      rw [stated] at read
      cases value with
      | arr results =>
        simp only [JsonDict.getD, stated]
        exact mapM_of_read (fun _ _ => levelOf_sarif lower) read
      | _ => cases read
  | _ => cases read

theorem sarifRuns_eq_some {report : Json} {runs : List (List (Option String))} (read : sarifRuns report = some runs) :
    ∃ fields items, report = .obj fields ∧ JsonDict.get? fields "runs" = some (.arr items) ∧
      items.mapM sarifResults = some runs := by
  cases report with
  | obj fields =>
    unfold sarifRuns at read
    dsimp only at read
    cases stated : JsonDict.get? fields "runs" with
    | none =>
      rw [stated] at read
      cases read
    | some value =>
      rw [stated] at read
      cases value with
      | arr items => exact ⟨fields, items, rfl, stated, read⟩
      | _ => cases read
  | _ => cases read

theorem parseSarif_sarif {report : Json} {runs : List (List (Option String))} (read : sarifRuns report = some runs) :
    parseSarif lower report = .ok (runs.flatten.map (normalised lower)) := by
  obtain ⟨fields, items, rfl, stated, read⟩ := sarifRuns_eq_some read
  have levels := mapM_of_read (fun _ _ => runLevels_sarif lower) read
  unfold parseSarif get
  simp only [JsonDict.getD, stated]
  change (do let levels ← items.mapM (runLevels lower); pure levels.flatten) = _
  rw [levels, List.map_flatten]
  rfl

theorem parseReport_nil {report : Json} (read : sarifRuns report = some []) :
    parseReport lower (some report) = .error (.exception "list index out of range") := by
  obtain ⟨fields, items, rfl, stated, read⟩ := sarifRuns_eq_some read
  cases items with
  | nil =>
    unfold parseReport get
    simp only [JsonDict.getD, stated]
    rfl
  | cons item rest =>
    rw [List.mapM_cons] at read
    obtain ⟨levels, -, read⟩ := Option.bind_eq_some_iff.mp read
    obtain ⟨below, -, read⟩ := Option.bind_eq_some_iff.mp read
    cases read

theorem parseReport_cons {report : Json} {head : List (Option String)} {rest : List (List (Option String))}
    (read : sarifRuns report = some (head :: rest)) :
    parseReport lower (some report) = .ok ((if head = [] then rest.flatten else head).map (normalised lower)) := by
  have whole := parseSarif_sarif lower read
  obtain ⟨fields, items, rfl, stated, read⟩ := sarifRuns_eq_some read
  cases items with
  | nil => cases read
  | cons item others =>
    rw [List.mapM_cons] at read
    obtain ⟨levels, here, read⟩ := Option.bind_eq_some_iff.mp read
    obtain ⟨below, _, read⟩ := Option.bind_eq_some_iff.mp read
    cases read
    have begins := runLevels_sarif lower here
    have runs : JsonDict.has fields "runs" = true := by simp [JsonDict.has, stated]
    unfold parseReport get
    simp only [JsonDict.getD, stated]
    change (runLevels lower item >>= fun found => if found ≠ [] then Except.ok found else _) = _
    rw [begins]
    change (if head.map (normalised lower) ≠ [] then Except.ok (head.map (normalised lower)) else _) = _
    by_cases empty : head = []
    · subst empty
      rw [if_neg (by simp), if_pos runs, whole, if_pos rfl]
      rfl
    · rw [if_pos (by simp [empty]), if_neg empty]

theorem evaluate_block (levels : List String) {policy : GatePolicy} (block : policy.mode = some "block") :
    (evaluate lower repr levels policy).1 = false ↔ ∃ level ∈ levels, level ∈ blockSet lower policy := by
  unfold evaluate
  simp only [block, Option.getD_some]
  rw [if_neg (by decide)]
  by_cases none : levels.filter (· ∈ blockSet lower policy) = []
  · rw [if_neg (by simp [none])]
    have quiet := List.filter_eq_nil_iff.mp none
    constructor
    · intro failed
      split at failed <;> cases failed
    · rintro ⟨level, member, blocked⟩
      exact absurd (decide_eq_true blocked) (quiet level member)
  · rw [if_pos none]
    obtain ⟨level, member⟩ := List.exists_mem_of_ne_nil _ none
    obtain ⟨member, blocked⟩ := List.mem_filter.mp member
    exact ⟨fun _ => ⟨level, member, of_decide_eq_true blocked⟩, fun _ => rfl⟩

theorem main_cons {report : Json} {head : List (Option String)} {rest : List (List (Option String))}
    (read : sarifRuns report = some (head :: rest)) {policy : GatePolicy} (block : policy.mode = some "block") :
    ∃ exit, main lower repr (some report) policy = .ok exit ∧
      (exit.ok = false ↔ ∃ level ∈ if head = [] then rest.flatten else head, Blocks lower policy level) := by
  have levels := parseReport_cons lower read
  unfold main
  rw [levels]
  refine ⟨_, rfl, (evaluate_block lower repr _ block).trans ?_⟩
  simp only [List.mem_map, Blocks, exists_exists_and_eq_and]

/-- The condition for the gate to see every run. A first run with results hides the others. -/
theorem gateHolds_iff (policy : GatePolicy) (report : Json) (runs : List (List (Option String)))
    (block : policy.mode = some "block") (read : sarifRuns report = some runs) :
    GateHolds lower repr policy report runs ↔
      ∃ head rest, runs = head :: rest ∧
        (head = [] ∨ (∃ level ∈ head, Blocks lower policy level) ∨
          ∀ run ∈ rest, ∀ level ∈ run, ¬Blocks lower policy level) := by
  cases runs with
  | nil =>
    constructor
    · rintro ⟨exit, ended, -⟩
      unfold main at ended
      rw [parseReport_nil lower read] at ended
      cases ended
    · rintro ⟨head, rest, same, -⟩
      cases same
  | cons head rest =>
    obtain ⟨exit, ended, failed⟩ := main_cons lower repr read block
    constructor
    · rintro ⟨other, ends, blocks⟩
      cases ended.symm.trans ends
      refine ⟨head, rest, rfl, ?_⟩
      by_cases empty : head = []
      · exact .inl empty
      · rw [if_neg empty] at failed
        by_cases found : ∃ level ∈ head, Blocks lower policy level
        · exact .inr (.inl found)
        · refine .inr (.inr fun run member level inside blocked => found (failed.mp ?_))
          exact blocks ⟨run, List.mem_cons_of_mem head member, level, inside, blocked⟩
    · rintro ⟨first, others, same, covered⟩
      cases same
      refine ⟨exit, ended, fun ⟨run, member, level, inside, blocked⟩ => failed.mpr ?_⟩
      rcases List.mem_cons.mp member with rfl | later
      · rw [if_neg (List.ne_nil_of_mem inside)]
        exact ⟨level, inside, blocked⟩
      · rcases covered with rfl | ⟨found, mem, blocks⟩ | none
        · rw [if_pos rfl]
          exact ⟨level, List.mem_flatten_of_mem later inside, blocked⟩
        · rw [if_neg (List.ne_nil_of_mem mem)]
          exact ⟨found, mem, blocks⟩
        · exact absurd blocked (none run later level inside)

def reprWords (words : List String) : String :=
  "[" ++ ", ".intercalate (words.map fun word => "'" ++ word ++ "'") ++ "]"

def scan (levels : List String) : Json :=
  .obj [("results", .arr (levels.map fun level => .obj [("level", .str level)]))]

def scans (levels : List (List String)) : Json := .obj [("runs", .arr (levels.map scan))]

def blockHigh : GatePolicy := { mode := some "block", severityBlock := some ["critical", "high"] }

/-- A note in the first run lets an error in the second pass; a report without runs crashes the gate. -/
theorem second_run_unseen :
    ¬∀ (policy : GatePolicy) (report : Json) (runs : List (List (Option String))), policy.mode = some "block" →
      sarifRuns report = some runs → GateHolds asciiLowering.lower reprWords policy report runs := by
  intro holds
  obtain ⟨exit, ended, blocks⟩ := holds blockHigh (scans [["note"], ["error"]]) [[some "note"], [some "error"]] rfl rfl
  have passed : main asciiLowering.lower reprWords (some (scans [["note"], ["error"]])) blockHigh =
      .ok { ok := true, message := "ok", findings := 1 } := by rfl
  cases ended.symm.trans passed
  have blocked : Blocks asciiLowering.lower blockHigh (some "error") := by decide
  cases blocks ⟨_, List.mem_cons_of_mem _ (List.mem_singleton_self _), _, List.mem_singleton_self _, blocked⟩

example : main asciiLowering.lower reprWords (some (scans [])) blockHigh =
    .error (.exception "list index out of range") := rfl

theorem gateHolds_first_empty :
    GateHolds asciiLowering.lower reprWords blockHigh (scans [[], ["error"]]) [[], [some "error"]] :=
  (gateHolds_iff asciiLowering.lower reprWords blockHigh (scans [[], ["error"]]) _ rfl rfl).mpr
    ⟨[], [[some "error"]], rfl, .inl rfl⟩

end GateCheck

end CysAgi
