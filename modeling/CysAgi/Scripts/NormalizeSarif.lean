import CysAgi.Base.Dict
import CysAgi.Base.JsonDecode
import CysAgi.Scripts.GateCheck

namespace CysAgi

open Py

namespace NormalizeSarif

/-- `fields.setdefault(key, default)`. -/
def setdefault (fields : JsonDict) (key : String) (default : Json) : JsonDict :=
  if JsonDict.has fields key then fields else JsonDict.set fields key default

def fieldsOf : Json → JsonDict
  | .obj fields => fields
  | _ => []

def defaultPhysicalLocation : Json :=
  .obj [("artifactLocation", .obj [("uri", .str "unknown"), ("uriBaseId", .str "%SRCROOT%")]),
    ("region", .obj [("startLine", .int 1)])]

def defaultLocation : Json := .obj [("physicalLocation", defaultPhysicalLocation)]

def normalizeLocation : Json → Json
  | .obj location => .obj (setdefault location "physicalLocation" defaultPhysicalLocation)
  | location => location

def normalizeResult : Json → Json
  | .obj result =>
    let locations := JsonDict.getD result "locations" .null
    if ¬locations.truthy then .obj (JsonDict.set result "locations" (.arr [defaultLocation]))
    else
      match locations with
      | .arr locations => .obj (JsonDict.set result "locations" (.arr (locations.map normalizeLocation)))
      | _ => .obj result
  | result => result

def normalizeTool (toolName : String) (tool : Json) : Json :=
  let driver := fieldsOf (JsonDict.getD (fieldsOf tool) "driver" (.obj []))
  .obj (JsonDict.set (fieldsOf tool) "driver" (.obj (setdefault driver "name" (.str toolName))))

def normalizeResults : Json → Json
  | .arr results => .arr (results.map normalizeResult)
  | _ => .arr []

def normalizeRun (toolName : String) : Json → Json
  | .obj run =>
    let run := JsonDict.set run "tool" (normalizeTool toolName (JsonDict.getD run "tool" (.obj [])))
    .obj (JsonDict.set run "results" (normalizeResults (JsonDict.getD run "results" .null)))
  | run => run

def runsOf : Json → List Json
  | .arr (run :: rest) => run :: rest
  | _ => [.obj []]

/-- What `normalize` writes of what it has loaded; there is nothing where the report is missing, empty or no JSON. -/
def normalizeData (toolName : String) (report : Option Json) : Json :=
  let data := setdefault (fieldsOf (report.getD .null)) "version" (.str "2.1.0")
  .obj (JsonDict.set data "runs" (.arr ((runsOf (JsonDict.getD data "runs" .null)).map (normalizeRun toolName))))

def unicodeDecodeError : PyExc := .exception "UnicodeDecodeError"

/-- What comes of `json.loads` where there is a report, as bytes. Only a `JSONDecodeError` is caught. -/
def loaded (floats : FloatCodec) (report : Option ByteArray) : Except PyExc (Option (Option Json)) :=
  match report with
  | none => .ok none
  | some bytes =>
    if 0 < bytes.size then
      match String.fromUTF8? bytes with
      | none => .error unicodeDecodeError
      | some text => .ok (readWhole floats text)
    else .ok none

/-- The data that `normalize` writes, nothing inside where it has read more than `Json` holds. -/
def normalize (floats : FloatCodec) (toolName : String) (report : Option ByteArray) : Except PyExc (Option Json) :=
  (loaded floats report).map fun parsed =>
    match parsed with
    | none => some (normalizeData toolName none)
    | some data => data.map fun data => normalizeData toolName (some data)

def NormalLocation (location : Json) : Prop :=
  ∀ fields, location = .obj fields → JsonDict.has fields "physicalLocation" = true

def NormalResult (result : Json) : Prop :=
  ∀ fields, result = .obj fields → (JsonDict.getD fields "locations" .null).truthy = true ∧
    ∀ locations, JsonDict.getD fields "locations" .null = .arr locations → ∀ location ∈ locations, NormalLocation location

structure NormalRun (run : JsonDict) : Prop where
  named : ∃ tool driver, JsonDict.get? run "tool" = some (.obj tool) ∧
    JsonDict.get? tool "driver" = some (.obj driver) ∧ JsonDict.has driver "name" = true
  results : ∃ results, JsonDict.get? run "results" = some (.arr results) ∧ ∀ result ∈ results, NormalResult result

/-- What is left as it is: what an upload and the gate rely on, as far as the parts of a report are dicts. -/
structure Normal (report : JsonDict) : Prop where
  version : JsonDict.has report "version" = true
  runs : ∃ run rest, JsonDict.get? report "runs" = some (.arr (run :: rest)) ∧
    ∀ run' ∈ run :: rest, ∀ fields, run' = .obj fields → NormalRun fields

def TypedLocation (location : Json) : Prop := ∃ fields, location = .obj fields

def TypedResult (result : Json) : Prop :=
  ∃ fields, result = .obj fields ∧ ((JsonDict.getD fields "locations" .null).truthy = true →
    ∃ locations, JsonDict.getD fields "locations" .null = .arr locations ∧ ∀ location ∈ locations, TypedLocation location)

def TypedRun (run : Json) : Prop :=
  ∃ fields, run = .obj fields ∧ ∀ results, JsonDict.get? fields "results" = some (.arr results) →
    ∀ result ∈ results, TypedResult result

/-- The parts of the report are dicts throughout. -/
def Typed (report : JsonDict) : Prop := ∀ run ∈ runsOf (JsonDict.getD report "runs" .null), TypedRun run

section

variable {fields : JsonDict} {key : String} {value default : Json}

theorem get?_set (fields : JsonDict) (key other : String) (value : Json) :
    JsonDict.get? (JsonDict.set fields key value) other = if other = key then some value else JsonDict.get? fields other :=
  Assoc.lookup_set fields key other value

theorem has_setdefault : JsonDict.has (setdefault fields key default) key = true := by
  unfold setdefault
  by_cases there : JsonDict.has fields key = true
  · rwa [if_pos there]
  · rw [if_neg there, JsonDict.has, get?_set, if_pos rfl]
    rfl

theorem get?_setdefault_of_ne {other : String} (apart : other ≠ key) :
    JsonDict.get? (setdefault fields key default) other = JsonDict.get? fields other := by
  unfold setdefault
  split
  · rfl
  · rw [get?_set, if_neg apart]

theorem setdefault_eq_iff : setdefault fields key default = fields ↔ JsonDict.has fields key = true := by
  constructor
  · intro same
    rw [← same]
    exact has_setdefault
  · intro there
    exact if_pos there

theorem set_eq_iff : JsonDict.set fields key value = fields ↔ JsonDict.get? fields key = some value := by
  constructor
  · intro same
    rw [← same, get?_set, if_pos rfl]
  · exact Assoc.set_stored

theorem map_eq_iff {f : Json → Json} {items : List Json} : items.map f = items ↔ ∀ item ∈ items, f item = item := by
  rw [List.map_eq_iff]
  constructor
  · intro same item member
    obtain ⟨i, place⟩ := List.mem_iff_getElem?.mp member
    have here := same i
    rw [place] at here
    exact (Option.some.inj here).symm
  · intro same i
    cases place : items[i]? with
    | none => rfl
    | some item => exact congrArg some (same item (List.mem_of_getElem? place)).symm

end

theorem normalizeLocation_eq_iff (location : Json) : normalizeLocation location = location ↔ NormalLocation location := by
  cases location with
  | obj fields => simp [normalizeLocation, NormalLocation, setdefault_eq_iff]
  | _ => simp [normalizeLocation, NormalLocation]

theorem normal_normalizeLocation (location : Json) : NormalLocation (normalizeLocation location) := by
  cases location with
  | obj fields =>
    intro normalized same
    cases same
    exact has_setdefault
  | _ => simp [normalizeLocation, NormalLocation]

theorem normal_normalizeResult (result : Json) : NormalResult (normalizeResult result) := by
  cases result with
  | obj fields =>
    intro normalized same
    unfold normalizeResult at same
    dsimp only at same
    by_cases stated : (JsonDict.getD fields "locations" .null).truthy = true
    · rw [if_neg (not_not_intro stated)] at same
      split at same
      · next locations found =>
        cases same
        rw [JsonDict.getD, get?_set, if_pos rfl]
        constructor
        · rw [found] at stated
          simpa [Json.truthy] using stated
        · intro items listed location member
          cases listed
          obtain ⟨before, -, rfl⟩ := List.mem_map.mp member
          exact normal_normalizeLocation before
      · next other =>
        cases same
        exact ⟨stated, fun locations found => absurd found (other locations)⟩
    · rw [if_pos stated] at same
      cases same
      rw [JsonDict.getD, get?_set, if_pos rfl]
      refine ⟨rfl, ?_⟩
      intro items listed location member
      cases listed
      rw [List.mem_singleton.mp member]
      intro place same
      cases same
      rfl
  | _ => simp [normalizeResult, NormalResult]

theorem normalizeResult_eq_iff (result : Json) : normalizeResult result = result ↔ NormalResult result := by
  constructor
  · intro same
    rw [← same]
    exact normal_normalizeResult result
  · intro normal
    cases result with
    | obj fields =>
      obtain ⟨stated, placed⟩ := normal fields rfl
      unfold normalizeResult
      dsimp only
      rw [if_neg (not_not_intro stated)]
      split
      · next locations found =>
        have whole : locations.map normalizeLocation = locations :=
          map_eq_iff.mpr fun location member => (normalizeLocation_eq_iff location).mpr (placed locations found location member)
        have kept : JsonDict.get? fields "locations" = some (.arr locations) := by
          cases there : JsonDict.get? fields "locations" with
          | none =>
            rw [JsonDict.getD, there] at found
            cases found
          | some value =>
            rw [JsonDict.getD, there] at found
            exact congrArg some found
        rw [whole, set_eq_iff.mpr kept]
      · rfl
    | _ => rfl

theorem named_normalizeTool (toolName : String) (tool : Json) :
    ∃ fields driver, normalizeTool toolName tool = .obj fields ∧ JsonDict.get? fields "driver" = some (.obj driver) ∧
      JsonDict.has driver "name" = true := by
  have named : JsonDict.get? (JsonDict.set (fieldsOf tool) "driver" (.obj (setdefault
      (fieldsOf (JsonDict.getD (fieldsOf tool) "driver" (.obj []))) "name" (.str toolName)))) "driver" =
        some (.obj (setdefault (fieldsOf (JsonDict.getD (fieldsOf tool) "driver" (.obj []))) "name" (.str toolName))) := by
    rw [get?_set, if_pos rfl]
  exact ⟨_, _, rfl, named, has_setdefault⟩

theorem normalizeTool_eq_iff (toolName : String) (tool : Json) :
    normalizeTool toolName tool = tool ↔ ∃ fields driver, tool = .obj fields ∧
      JsonDict.get? fields "driver" = some (.obj driver) ∧ JsonDict.has driver "name" = true := by
  constructor
  · intro same
    rw [← same]
    exact named_normalizeTool toolName tool
  · rintro ⟨fields, driver, rfl, held, name⟩
    have stays : setdefault driver "name" (.str toolName) = driver := setdefault_eq_iff.mpr name
    have found : fieldsOf (JsonDict.getD fields "driver" (.obj [])) = driver := by
      rw [JsonDict.getD, held]
      rfl
    have own : fieldsOf (.obj fields) = fields := rfl
    simp only [normalizeTool, own, found, stays, set_eq_iff.mpr held]

theorem normal_normalizeRun (toolName : String) (run fields : JsonDict)
    (same : normalizeRun toolName (.obj run) = .obj fields) : NormalRun fields := by
  cases same
  constructor
  · obtain ⟨tool, driver, made, held, name⟩ := named_normalizeTool toolName (JsonDict.getD run "tool" (.obj []))
    refine ⟨tool, driver, ?_, held, name⟩
    rw [get?_set, if_neg (by decide), get?_set, if_pos rfl, made]
  · rw [get?_set, if_pos rfl]
    unfold normalizeResults
    split
    · refine ⟨_, rfl, ?_⟩
      intro result member
      obtain ⟨before, -, rfl⟩ := List.mem_map.mp member
      exact normal_normalizeResult before
    · exact ⟨[], rfl, List.forall_mem_nil _⟩

theorem normalizeRun_eq_of_normal (toolName : String) {run : JsonDict} (normal : NormalRun run) :
    normalizeRun toolName (.obj run) = .obj run := by
  obtain ⟨tool, driver, held, named, name⟩ := normal.named
  obtain ⟨results, listed, each⟩ := normal.results
  have same : normalizeTool toolName (.obj tool) = .obj tool :=
    (normalizeTool_eq_iff toolName _).mpr ⟨tool, driver, rfl, named, name⟩
  have whole : results.map normalizeResult = results :=
    map_eq_iff.mpr fun result member => (normalizeResult_eq_iff result).mpr (each result member)
  have kept : JsonDict.set run "tool" (normalizeTool toolName (JsonDict.getD run "tool" (.obj []))) = run := by
    rw [JsonDict.getD, held]
    exact set_eq_iff.mpr (held.trans (congrArg some same.symm))
  unfold normalizeRun
  dsimp only
  rw [kept, JsonDict.getD, listed]
  have still : JsonDict.set run "results" (normalizeResults (.arr results)) = run := by
    apply set_eq_iff.mpr
    rw [listed, normalizeResults, whole]
  exact congrArg Json.obj still

theorem exists_runsOf (runs : Json) : ∃ run rest, runsOf runs = run :: rest := by
  unfold runsOf
  split
  · exact ⟨_, _, rfl⟩
  · exact ⟨_, _, rfl⟩

theorem normal_normalizeData (toolName : String) (report : Option Json) (fields : JsonDict)
    (same : normalizeData toolName report = .obj fields) : Normal fields := by
  cases same
  constructor
  · have there : JsonDict.has (setdefault (fieldsOf (report.getD .null)) "version" (.str "2.1.0")) "version" = true :=
      has_setdefault
    rw [JsonDict.has, get?_set, if_neg (by decide)]
    exact there
  · rw [get?_set, if_pos rfl]
    obtain ⟨run, rest, runs⟩ := exists_runsOf
      (JsonDict.getD (setdefault (fieldsOf (report.getD .null)) "version" (.str "2.1.0")) "runs" .null)
    rw [runs, List.map_cons]
    refine ⟨_, _, rfl, ?_⟩
    intro made member normalized shape
    rw [← List.map_cons] at member
    obtain ⟨before, -, rfl⟩ := List.mem_map.mp member
    cases before with
    | obj run => exact normal_normalizeRun toolName run normalized shape
    | _ => cases shape

theorem normalizeData_eq_of_normal (toolName : String) {fields : JsonDict} (normal : Normal fields) :
    normalizeData toolName (some (.obj fields)) = .obj fields := by
  obtain ⟨run, rest, listed, each⟩ := normal.runs
  have stays : setdefault fields "version" (.str "2.1.0") = fields := setdefault_eq_iff.mpr normal.version
  have whole : (run :: rest).map (normalizeRun toolName) = run :: rest := by
    apply map_eq_iff.mpr
    intro item member
    cases item with
    | obj run => exact normalizeRun_eq_of_normal toolName (each _ member run rfl)
    | _ => rfl
  unfold normalizeData
  simp only [Option.getD_some, fieldsOf, stays, JsonDict.getD, listed, runsOf, whole]
  exact congrArg Json.obj (set_eq_iff.mpr listed)

theorem listed_normalize (toolName : String) (report : Option Json) :
    ∃ fields, normalizeData toolName report = .obj fields ∧ JsonDict.get? fields "runs" =
      some (.arr ((runsOf (JsonDict.getD (fieldsOf (report.getD .null)) "runs" .null)).map (normalizeRun toolName))) := by
  refine ⟨_, rfl, ?_⟩
  rw [get?_set, if_pos rfl, JsonDict.getD, get?_setdefault_of_ne (by decide)]
  rfl

theorem typed_normalizeLocation_iff (location : Json) :
    TypedLocation (normalizeLocation location) ↔ TypedLocation location := by
  cases location with
  | obj fields => exact iff_of_true ⟨_, rfl⟩ ⟨_, rfl⟩
  | _ => exact Iff.rfl

theorem typedResult_iff (fields : JsonDict) : TypedResult (.obj fields) ↔
    ((JsonDict.getD fields "locations" .null).truthy = true → ∃ locations,
      JsonDict.getD fields "locations" .null = .arr locations ∧ ∀ location ∈ locations, TypedLocation location) := by
  simp [TypedResult]

theorem typed_normalizeResult_iff (result : Json) : TypedResult (normalizeResult result) ↔ TypedResult result := by
  cases result with
  | obj fields =>
    unfold normalizeResult
    dsimp only
    by_cases stated : (JsonDict.getD fields "locations" .null).truthy = true
    · rw [if_neg (not_not_intro stated)]
      split
      · next locations found =>
        have normalized : JsonDict.getD (JsonDict.set fields "locations" (.arr (locations.map normalizeLocation)))
            "locations" .null = .arr (locations.map normalizeLocation) := by
          rw [JsonDict.getD, get?_set, if_pos rfl]
          rfl
        have some_location : locations ≠ [] := by
          rw [found] at stated
          simpa [Json.truthy] using stated
        rw [typedResult_iff, typedResult_iff, normalized, found]
        simp [Json.truthy, some_location, typed_normalizeLocation_iff]
      · exact Iff.rfl
    · rw [if_pos stated]
      refine iff_of_true ((typedResult_iff _).mpr fun _ => ⟨[defaultLocation], ?_, ?_⟩)
        ((typedResult_iff fields).mpr fun given => absurd given stated)
      · rw [JsonDict.getD, get?_set, if_pos rfl]
        rfl
      · exact List.forall_mem_singleton.mpr ⟨_, rfl⟩
  | _ => exact Iff.rfl

theorem typed_normalizeRun_iff (toolName : String) (run : Json) : TypedRun (normalizeRun toolName run) ↔ TypedRun run := by
  cases run with
  | obj fields =>
    have other : JsonDict.getD (JsonDict.set fields "tool" (normalizeTool toolName (JsonDict.getD fields "tool" (.obj []))))
        "results" .null = JsonDict.getD fields "results" .null := by
      rw [JsonDict.getD, get?_set, if_neg (by decide)]
      rfl
    unfold normalizeRun TypedRun
    dsimp only
    rw [other]
    simp only [Json.obj.injEq, exists_eq_left', get?_set, if_true, Option.some.injEq]
    cases stated : JsonDict.get? fields "results" with
    | none => simp [JsonDict.getD, stated, normalizeResults]
    | some results =>
      cases results with
      | arr results => simp [JsonDict.getD, stated, normalizeResults, typed_normalizeResult_iff]
      | _ => simp [JsonDict.getD, stated, normalizeResults]
  | _ => exact Iff.rfl

theorem typed_normalizeData_iff (toolName : String) (report : Option Json) {fields : JsonDict}
    (made : normalizeData toolName report = .obj fields) : Typed fields ↔ Typed (fieldsOf (report.getD .null)) := by
  obtain ⟨normalized, same, listed⟩ := listed_normalize toolName report
  obtain ⟨run, rest, runs⟩ := exists_runsOf (JsonDict.getD (fieldsOf (report.getD .null)) "runs" .null)
  rw [same] at made
  cases made
  have still : runsOf (JsonDict.getD fields "runs" .null) =
      (runsOf (JsonDict.getD (fieldsOf (report.getD .null)) "runs" .null)).map (normalizeRun toolName) := by
    rw [JsonDict.getD, listed, runs]
    rfl
  unfold Typed
  rw [still, List.forall_mem_map]
  simp only [typed_normalizeRun_iff]

theorem loaded_error_iff (floats : FloatCodec) (report : Option ByteArray) (e : PyExc) :
    loaded floats report = .error e ↔
      e = unicodeDecodeError ∧ ∃ bytes ∈ report, 0 < bytes.size ∧ String.fromUTF8? bytes = none := by
  unfold loaded
  cases report with
  | none => simp
  | some bytes =>
    by_cases empty : 0 < bytes.size
    · cases text : String.fromUTF8? bytes <;> simp [empty, text, eq_comm]
    · simp [empty]

/-- The script fails on a report that is not UTF-8 and on no other. What it writes else is normal, with the parts that
    were no dicts as they were: it is what was read just when that was normal, and a second pass, for whatever tool,
    changes nothing. -/
theorem normalizes_once (floats : FloatCodec) (toolName other : String) (report : Option ByteArray) :
    (∀ e, normalize floats toolName report = .error e ↔
      e = unicodeDecodeError ∧ ∃ bytes ∈ report, 0 < bytes.size ∧ String.fromUTF8? bytes = none) ∧
      ∀ parsed, loaded floats report = .ok parsed → parsed ≠ some none →
        ∃ fields, normalize floats toolName report = .ok (some (.obj fields)) ∧ Normal fields ∧
          (Typed fields ↔ Typed (fieldsOf (parsed.join.getD .null))) ∧
          (parsed = some (some (.obj fields)) ↔ ∃ before, parsed = some (some (.obj before)) ∧ Normal before) ∧
          normalizeData other (some (.obj fields)) = .obj fields := by
  constructor
  · intro e
    rw [← loaded_error_iff floats report e]
    unfold normalize
    cases loaded floats report <;> simp [Except.map]
  · intro parsed read held
    have whole : normalize floats toolName report = .ok (some (normalizeData toolName parsed.join)) := by
      unfold normalize
      rw [read]
      cases parsed with
      | none => rfl
      | some data =>
        cases data with
        | none => exact absurd rfl held
        | some data => rfl
    obtain ⟨fields, made, -⟩ := listed_normalize toolName parsed.join
    have normal : Normal fields := normal_normalizeData toolName parsed.join fields made
    rw [made] at whole
    refine ⟨fields, whole, normal, typed_normalizeData_iff toolName parsed.join made, ?_,
      normalizeData_eq_of_normal other normal⟩
    constructor
    · rintro rfl
      exact ⟨fields, rfl, normal⟩
    · rintro ⟨before, rfl, settled⟩
      have same : Json.obj before = .obj fields := (normalizeData_eq_of_normal toolName settled).symm.trans made
      rw [same]

section

open GateCheck

variable (lower : String → String)

theorem levelOf_normalizeResult (result : Json) :
    levelOf lower "level" "note" (normalizeResult result) = levelOf lower "level" "note" result := by
  cases result with
  | obj fields =>
    have other : ("level" : String) ≠ "locations" := by decide
    unfold normalizeResult
    dsimp only
    split
    · simp only [levelOf, GateCheck.get, JsonDict.getD, get?_set, if_neg other]
    · split
      · simp only [levelOf, GateCheck.get, JsonDict.getD, get?_set, if_neg other]
      · rfl
  | _ => rfl

theorem levels_of_texts {texts : List String} {levels : List String}
    (read : (texts.map Json.str).mapM (levelOf lower "level" "note") = .ok levels) : levels = [] := by
  cases texts with
  | nil =>
    cases read
    rfl
  | cons text rest =>
    rw [List.map_cons, List.mapM_cons] at read
    cases read

theorem mapM_normalized {f : Json → Json} {items : List Json} {read : Json → Except PyExc (List String)}
    {levels : List (List String)} (each : ∀ item levels, read item = .ok levels → read (f item) = .ok levels)
    (whole : items.mapM read = .ok levels) : (items.map f).mapM read = .ok levels := by
  induction items generalizing levels with
  | nil => exact whole
  | cons item rest ih =>
    rw [List.mapM_cons, except_bind_pair_ok] at whole
    obtain ⟨first, others, head, tail, rfl⟩ := whole
    rw [List.map_cons, List.mapM_cons, except_bind_pair_ok]
    exact ⟨first, others, each item first head, ih tail, rfl⟩

theorem runLevels_normalizeRun {run : Json} {levels : List String} (toolName : String)
    (read : runLevels lower run = .ok levels) : runLevels lower (normalizeRun toolName run) = .ok levels := by
  cases run with
  | obj fields =>
    have normalized : runLevels lower (normalizeRun toolName (.obj fields)) =
        (do (← iter (normalizeResults (JsonDict.getD fields "results" .null))).mapM (levelOf lower "level" "note")) := by
      simp only [normalizeRun, runLevels, GateCheck.get, JsonDict.getD, get?_set, if_true, Option.getD_some]
      rw [if_neg (by decide)]
      rfl
    rw [normalized]
    unfold runLevels GateCheck.get at read
    cases stated : JsonDict.get? fields "results" with
    | none =>
      simp only [JsonDict.getD, stated, Option.getD_none] at read ⊢
      exact read
    | some results =>
      simp only [JsonDict.getD, stated, Option.getD_some] at read ⊢
      cases results with
      | arr results =>
        have same : (results.map normalizeResult).mapM (levelOf lower "level" "note") =
            results.mapM (levelOf lower "level" "note") := by
          rw [List.mapM_map]
          congr 1
          funext result
          exact levelOf_normalizeResult lower result
        change (results.map normalizeResult).mapM (levelOf lower "level" "note") = .ok levels
        rw [same]
        exact read
      | obj entries =>
        have texts : ((entries.map Prod.fst).map Json.str).mapM (levelOf lower "level" "note") = .ok levels := by
          rw [List.map_map]
          exact read
        rw [levels_of_texts lower texts]
        rfl
      | str text =>
        have texts : ((text.toList.map String.singleton).map Json.str).mapM (levelOf lower "level" "note") = .ok levels := by
          rw [List.map_map]
          exact read
        rw [levels_of_texts lower texts]
        rfl
      | _ => cases read
  | _ => cases read

def HasRuns (report : Option Json) : Prop := ∃ fields, report = some (.obj fields) ∧ JsonDict.has fields "runs" = true

theorem parseReport_runs {fields : JsonDict} {run : Json} {rest : List Json}
    (listed : JsonDict.get? fields "runs" = some (.arr (run :: rest))) :
    parseReport lower (some (.obj fields)) = (do
      let levels ← runLevels lower run
      if levels ≠ [] then return levels
      else
        let levels ← (run :: rest).mapM (runLevels lower)
        return levels.flatten) := by
  have there : JsonDict.has fields "runs" = true := by
    rw [JsonDict.has, listed]
    rfl
  unfold parseReport parseSarif GateCheck.get
  simp only [JsonDict.getD, listed, Option.getD_some]
  change (runLevels lower run >>= fun levels => _) = _
  congr 1
  funext levels
  split <;> rfl

theorem parseReport_normalize_empty (toolName : String) {report : Option Json}
    (bare : runsOf (JsonDict.getD (fieldsOf (report.getD .null)) "runs" .null) = [.obj []]) :
    parseReport lower (some (normalizeData toolName report)) = .ok [] := by
  obtain ⟨fields, made, listed⟩ := listed_normalize toolName report
  rw [bare, List.map_singleton] at listed
  have quiet : runLevels lower (normalizeRun toolName (.obj [])) = .ok [] := runLevels_normalizeRun lower toolName rfl
  rw [made, parseReport_runs lower listed, List.mapM_cons, quiet]
  rfl

theorem first_run_read {fields : JsonDict} {runs : Json} {levels : List String}
    (stated : JsonDict.get? fields "runs" = some runs) (read : parseReport lower (some (.obj fields)) = .ok levels) :
    ∃ found, first runs >>= runLevels lower = .ok found := by
  unfold parseReport GateCheck.get at read
  simp only [JsonDict.getD, stated, Option.getD_some] at read
  obtain ⟨held, same, read⟩ := except_bind_ok.mp read
  cases same
  obtain ⟨run, head, read⟩ := except_bind_ok.mp read
  obtain ⟨found, done, -⟩ := except_bind_ok.mp read
  exact ⟨found, except_bind_ok.mpr ⟨run, head, done⟩⟩

theorem parseReport_normalize_runs (toolName : String) {fields : JsonDict} {levels : List String}
    (there : JsonDict.has fields "runs" = true) (read : parseReport lower (some (.obj fields)) = .ok levels) :
    parseReport lower (some (normalizeData toolName (some (.obj fields)))) = .ok levels := by
  obtain ⟨made, same, listed⟩ := listed_normalize toolName (some (.obj fields))
  cases stated : JsonDict.get? fields "runs" with
  | none =>
    rw [JsonDict.has, stated] at there
    cases there
  | some runs =>
    have got : JsonDict.getD (fieldsOf ((some (Json.obj fields)).getD .null)) "runs" .null = runs := by
      rw [JsonDict.getD]
      exact congrArg (·.getD .null) stated
    obtain ⟨found, begins⟩ := first_run_read lower stated read
    cases runs with
    | arr runs =>
      cases runs with
      | nil => cases begins
      | cons run rest =>
        rw [got] at listed
        rw [parseReport_runs lower stated] at read
        rw [same, parseReport_runs lower listed]
        have head := runLevels_normalizeRun lower toolName begins
        change runLevels lower run = .ok found at begins
        rw [begins] at read
        rw [head]
        change (if found ≠ [] then Except.ok found else _) = _ at read
        change (if found ≠ [] then Except.ok found else _) = _
        by_cases empty : found = []
        · rw [if_neg (not_not_intro empty)] at read ⊢
          obtain ⟨all, whole, done⟩ := except_bind_ok.mp read
          have each : ((run :: rest).map (normalizeRun toolName)).mapM (runLevels lower) = .ok all :=
            mapM_normalized (fun item levels => runLevels_normalizeRun lower toolName) whole
          exact except_bind_ok.mpr ⟨all, each, done⟩
        · rw [if_pos empty] at read ⊢
          exact read
    | str text =>
      unfold first at begins
      dsimp only at begins
      split at begins
      · cases begins
      · cases begins
    | _ => cases begins

variable (repr : List String → String)

theorem main_of_levels {report : Option Json} {levels : List String} (policy : GatePolicy)
    (read : parseReport lower report = .ok levels) :
    main lower repr report policy = .ok
      { ok := (evaluate lower repr levels policy).1, message := (evaluate lower repr levels policy).2
        findings := levels.length } := by
  unfold main
  rw [read]
  rfl

theorem levels_of_main {report : Option Json} {policy : GatePolicy} {exit : GateExit}
    (ended : main lower repr report policy = .ok exit) : ∃ levels, parseReport lower report = .ok levels := by
  unfold main at ended
  obtain ⟨levels, read, -⟩ := except_bind_ok.mp ended
  exact ⟨levels, read⟩

theorem evaluate_nil (policy : GatePolicy) : (evaluate lower repr [] policy).1 = true := by
  unfold evaluate
  dsimp only
  split
  · rfl
  · simp

def secretReport : Json := .obj [("vulnerabilities", .arr [.obj [("severity", .str "high")]])]

end

end NormalizeSarif

end CysAgi
