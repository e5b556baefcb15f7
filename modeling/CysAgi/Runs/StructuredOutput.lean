import CysAgi.Base.JsonReading
import CysAgi.Runs.SgrProgress

namespace CysAgi

open Py

/-- `re.search(r"\{.*\}", text, re.DOTALL)`: from the first opening brace to the last closing one. -/
def bracesMatch (text : String) : Option String :=
  let found := (text.toList.dropWhile fun c => c ≠ '{').rdropWhile fun c => c ≠ '}'
  if found = [] then none else some (String.ofList found)

section

variable (floats : FloatCodec)

/-- Nothing where the data that is read is more than `Json` holds. -/
def parseStructuredOutput (text : String) : Option JsonDict :=
  match (readWhole floats text).or ((bracesMatch text).bind (readWhole floats)) with
  | some none => none
  | some (some (.obj fields)) => some fields
  | _ => some [("raw", .str (strip text))]

end

def buildStructuredExtractionPrompt (goal schemaType agentSummary : String) : String :=
  "Extract a structured deliverable from the agent summary.\n\nGoal: " ++ goal ++ "\nExpected schema: " ++ schemaType ++
    "\n\nAgent summary:\n" ++ String.ofList (agentSummary.toList.take 8000) ++
    "\n\nOutput JSON only with keys:\n- schema_type (string)\n- confidence (0-100 integer)\n" ++
    "- weaknesses (list of strings)\n- payload (object matching schema_type)\n"

/-- `reply prompt i` is the content of the i-th reply of the model to the prompt. -/
structure ExtractTool where
  python : EnrichLibrary
  floats : FloatCodec
  selfConsistencyN : Int
  reply : String → Nat → String

namespace ExtractTool

def dictPayload (candidate : JsonDict) : Option JsonDict :=
  match JsonDict.get? candidate "payload" with
  | some (.obj payload) => some payload
  | _ => none

def merge (first : JsonDict) (samples : Nat) (payloads : List JsonDict) : JsonDict :=
  match payloads with
  | [] => first
  | payload :: _ =>
    JsonDict.set (JsonDict.set first "payload" (.obj payload)) "self_consistency"
      (.obj [("samples", .int samples), ("payloads", .arr (payloads.map .obj))])

variable (tool : ExtractTool)

def samples : Nat := (max 1 (if tool.selfConsistencyN = 0 then 1 else tool.selfConsistencyN)).toNat

def candidates (goal agentSummary schemaType : String) : Option (List JsonDict) :=
  let schema := if schemaType = "" then tool.python.detectOutputSchema goal else schemaType
  let prompt := buildStructuredExtractionPrompt goal schema agentSummary
  (List.range tool.samples).mapM fun i => parseStructuredOutput tool.floats (tool.reply prompt i)

def answer (candidates : List JsonDict) : JsonDict :=
  let first := candidates.headD []
  if tool.samples = 1 then first else merge first candidates.length (candidates.filterMap dictPayload)

def extractStructuredOutput (goal agentSummary schemaType : String) : Option String :=
  (tool.candidates goal agentSummary schemaType).map fun candidates =>
    controlEscaping.dumps tool.floats.toFloatRepr (.obj (tool.answer candidates))

end ExtractTool

section

variable {floats : FloatCodec}

theorem bracesMatch_between {before after middle : List Char} (first : '{' ∉ before) (last : '}' ∉ after) :
    bracesMatch (String.ofList (before ++ ('{' :: middle ++ ['}']) ++ after)) =
      some (String.ofList ('{' :: middle ++ ['}'])) := by
  have skipped : ∀ c ∈ before, decide (c ≠ '{') = true := by
    intro c member
    apply decide_eq_true
    rintro rfl
    exact first member
  have trailing : ∀ c ∈ after.reverse, decide (c ≠ '}') = true := by
    intro c member
    apply decide_eq_true
    rintro rfl
    exact last (List.mem_reverse.mp member)
  have found : ((before ++ ('{' :: middle ++ ['}']) ++ after).dropWhile fun c => decide (c ≠ '{')).rdropWhile
      (fun c => decide (c ≠ '}')) = '{' :: middle ++ ['}'] := by
    rw [List.append_assoc, List.dropWhile_append_of_pos skipped, List.cons_append, List.cons_append,
      List.dropWhile_cons_of_neg (by decide), ← List.cons_append, ← List.cons_append, List.rdropWhile,
      List.reverse_append, List.dropWhile_append_of_pos trailing, List.reverse_append, List.reverse_singleton,
      List.singleton_append, List.dropWhile_cons_of_neg (by decide), List.reverse_cons, List.reverse_reverse]
  rw [bracesMatch, String.toList_ofList]
  simp only [found]
  exact if_neg (List.cons_ne_nil _ _)

theorem readWhole_words {before rest words : List Char} {c : Char} (brace : '{' ∉ before)
    (start : skipSpace before = c :: words) (list : c ≠ '[') (string : c ≠ '"') :
    readWhole floats (String.ofList (before ++ '{' :: rest)) = none := by
  have dict : c ≠ '{' := by
    rintro rfl
    exact brace (mem_of_mem_skipSpace (by rw [start]; exact List.mem_cons_self))
  have opens : skipSpace (before ++ '{' :: rest) = c :: (words ++ '{' :: rest) := by
    rw [skipSpace_append, start, if_neg (List.cons_ne_nil _ _), List.cons_append]
  rw [readWhole, String.toList_ofList, opens]
  apply Option.bind_eq_none_iff.mpr
  rintro ⟨value, left⟩ read
  have behind : '{' ∈ left :=
    mem_rest_readValue string list dict read (List.mem_append_right _ List.mem_cons_self)
  apply if_neg
  intro ends
  have member : '{' ∈ skipSpace left := mem_dropWhile_of_mem behind (by decide)
  rw [ends] at member
  cases member

theorem readWhole_blank {fields : JsonDict} (keyed : (Json.obj fields).Keyed) (escaping : Escaping) {before : List Char}
    (blank : skipSpace before = []) (after : List Char) :
    readWhole floats (String.ofList (before ++ escaping.text floats.toFloatRepr (.obj fields) ++ after)) =
      if skipSpace after = [] then some (some (.obj fields)) else none := by
  have start : skipSpace (before ++ escaping.text floats.toFloatRepr (.obj fields) ++ after) =
      escaping.text floats.toFloatRepr (.obj fields) ++ after := by
    rw [List.append_assoc, skipSpace_append, if_pos blank, skipSpace_text]
  have enough : (Json.obj fields).levels ≤
      (before ++ escaping.text floats.toFloatRepr (.obj fields) ++ after).length + 1 := by
    have text := levels_le_text escaping floats.toFloatRepr (.obj fields)
    simp only [List.length_append]
    omega
  rw [readWhole, String.toList_ofList, start, readValue_dict keyed after enough]
  rfl

theorem parseStructuredOutput_keyed {text : String} {parsed : JsonDict}
    (read : parseStructuredOutput floats text = some parsed) : (Json.obj parsed).Keyed := by
  unfold parseStructuredOutput at read
  split at read
  · cases read
  · next fields whole =>
    cases read
    rcases Option.or_eq_some_iff.mp whole with first | ⟨-, second⟩
    · exact keyed_of_readWhole first
    · obtain ⟨found, -, again⟩ := Option.bind_eq_some_iff.mp second
      exact keyed_of_readWhole again
  · cases read
    exact ⟨List.nodup_singleton _, trivial, trivial⟩

end

namespace ExtractTool

theorem dictPayload_eq_some {candidate payload : JsonDict} (taken : dictPayload candidate = some payload) :
    JsonDict.get? candidate "payload" = some (.obj payload) := by
  unfold dictPayload at taken
  split at taken
  · next found =>
    cases taken
    exact found
  · cases taken

variable (tool : ExtractTool)

theorem samples_pos : 0 < tool.samples := by
  unfold samples
  omega

section

variable {tool} {goal agentSummary schemaType : String} {candidates : List JsonDict}
  (read : tool.candidates goal agentSummary schemaType = some candidates)

include read

theorem length_candidates : candidates.length = tool.samples := by
  have each := mapM_eq_some_iff.mp read
  rw [← each.length_eq, List.length_range]

theorem candidates_keyed : ∀ candidate ∈ candidates, (Json.obj candidate).Keyed := by
  have each := mapM_eq_some_iff.mp read
  generalize List.range tool.samples = asked at each
  clear read
  induction each with
  | nil => exact List.forall_mem_nil _
  | cons first _ ih => exact List.forall_mem_cons.mpr ⟨parseStructuredOutput_keyed first, ih⟩

theorem candidates_cons : ∃ first others, candidates = first :: others := by
  apply List.exists_cons_of_length_pos
  rw [length_candidates read]
  exact tool.samples_pos

end

theorem merge_keyed {first : JsonDict} (keyed : (Json.obj first).Keyed) (samples : Nat) {payloads : List JsonDict}
    (others : ∀ payload ∈ payloads, (Json.obj payload).Keyed) : (Json.obj (merge first samples payloads)).Keyed := by
  cases payloads with
  | nil => exact keyed
  | cons payload rest =>
    have listed : Json.KeyedItems ((payload :: rest).map .obj) := by
      rw [Json.keyedItems_iff]
      intro item member
      obtain ⟨dict, dict_member, rfl⟩ := List.mem_map.mp member
      exact others dict dict_member
    have keys : ["samples", "payloads"].Nodup := by decide
    have summary : (Json.obj [("samples", .int samples), ("payloads", .arr ((payload :: rest).map .obj))]).Keyed :=
      ⟨keys, trivial, listed, trivial⟩
    exact Json.keyed_set (Json.keyed_set keyed _ (others payload List.mem_cons_self)) _ summary

theorem get?_merge {first : JsonDict} {samples : Nat} {payloads : List JsonDict} {key : String}
    (payload : key ≠ "payload") (consistency : key ≠ "self_consistency") :
    JsonDict.get? (merge first samples payloads) key = JsonDict.get? first key := by
  cases payloads with
  | nil => rfl
  | cons _ _ =>
    simp only [merge, JsonDict.get?, JsonDict.set, Assoc.lookup_set, if_neg payload, if_neg consistency]

theorem dictPayload_merge (first : JsonDict) (others : List JsonDict) (samples : Nat) :
    dictPayload (merge first samples ((first :: others).filterMap dictPayload)) =
      ((first :: others).filterMap dictPayload).head? := by
  cases payloads : (first :: others).filterMap dictPayload with
  | nil =>
    rw [List.filterMap_eq_nil_iff] at payloads
    exact payloads first List.mem_cons_self
  | cons payload rest =>
    have found : JsonDict.get? (merge first samples (payload :: rest)) "payload" = some (.obj payload) := by
      simp only [merge, JsonDict.get?, JsonDict.set, Assoc.lookup_set]
      rfl
    rw [dictPayload, found, List.head?_cons]

theorem payload_keyed {candidates : List JsonDict} (keyed : ∀ candidate ∈ candidates, (Json.obj candidate).Keyed) :
    ∀ payload ∈ candidates.filterMap dictPayload, (Json.obj payload).Keyed := by
  intro payload member
  obtain ⟨candidate, listed, taken⟩ := List.mem_filterMap.mp member
  exact Json.keyed_get? (keyed candidate listed) (dictPayload_eq_some taken)

def twoReplies : ExtractTool where
  python := { lower goal := goal, dumps _ := "{}", parseFloat _ := .error (.exception "no number"), validates _ := false }
  floats := fractionCodec
  selfConsistencyN := 2
  reply _ i := if i = 0 then "\x7b\"confidence\": 80\x7d" else "Here: \x7b\"payload\": \x7b\"found\": true\x7d\x7d"

end ExtractTool

end CysAgi
