import CysAgi.Base.JsonPath
import CysAgi.Runtime.ToolStack

namespace CysAgi

open Py

def ScopePolicy.blocks (policy : ScopePolicy) (lower : String → String) (value : String) : Bool :=
  policy.blockedPathPatterns.any fun pattern =>
    let clean := String.ofList (pattern.toList.filter (· ≠ '*'))
    clean ≠ "" && contains (lower value) clean

theorem ScopePolicy.checkToolCall_text {policy : ScopePolicy} {lower : String → String} {toolName key value : String}
    {args : JsonDict} (passed : policy.checkToolCall lower toolName args = none) (member : (key, .str value) ∈ args)
    (named : contains (lower key) "path" = true) : policy.blocks lower value = false := by
  have allowed := checkToolCall_allowed passed
  rw [checkToolCall, checkTool, if_pos allowed] at passed
  have checked : policy.checkPathArg lower key value = none := List.findSome?_eq_none_iff.mp passed _ member
  by_contra blocked
  have matched : policy.blocks lower value = true := Bool.eq_true_of_not_eq_false blocked
  have given : ¬(¬contains (lower key) "path" = true) := fun other => other named
  rw [checkPathArg, if_neg given] at checked
  rw [blocks] at matched
  rw [if_pos matched] at checked
  cases checked

namespace TextReader

variable (reader : TextReader)

def Word (text : String) : Prop :=
  (reader.lower (strip text) = "true" ∨ reader.lower (strip text) = "false") ∨ reader.isDigit (strip text) = true

def Decodes (text : String) (json : Json) : Prop :=
  ¬reader.Word text ∧ (startsWith (strip text) "[" = true ∨ startsWith (strip text) "\x7b" = true) ∧
    reader.loads (strip text) = .ok (some json)

def Stays (text : String) : Prop := ¬reader.Word text ∧ ∀ json, ¬reader.Decodes text json

variable {reader} {text : String} {made : Json}

theorem coerceText_word (word : reader.Word text) (coerced : reader.coerceText text = .ok made) :
    (∃ b, made = .bool b) ∨ ∃ n, made = .int n := by
  unfold coerceText at coerced
  dsimp only at coerced
  by_cases truth : reader.lower (strip text) = "true" ∨ reader.lower (strip text) = "false"
  · rw [if_pos truth] at coerced
    exact .inl ⟨_, (Except.ok.inj coerced).symm⟩
  · have digits := word.resolve_left truth
    rw [if_neg truth, if_pos digits] at coerced
    obtain ⟨n, -, same⟩ := except_map_ok.mp coerced
    exact .inr ⟨n, same.symm⟩

theorem coerceText_decodes {json : Json} (decodes : reader.Decodes text json) : reader.coerceText text = .ok json := by
  obtain ⟨other, opens, decoded⟩ := decodes
  unfold coerceText
  dsimp only
  rw [if_neg fun truth => other (.inl truth), if_neg fun digits => other (.inr digits), if_pos opens, decoded]
  rfl

theorem coerceText_stays (stays : reader.Stays text) (coerced : reader.coerceText text = .ok made) :
    made = .str text := by
  obtain ⟨other, undecoded⟩ := stays
  unfold coerceText at coerced
  dsimp only at coerced
  rw [if_neg fun truth => other (.inl truth), if_neg fun digits => other (.inr digits)] at coerced
  by_cases opens : startsWith (strip text) "[" = true ∨ startsWith (strip text) "\x7b" = true
  · rw [if_pos opens] at coerced
    obtain ⟨decoded, loaded, same⟩ := except_map_ok.mp coerced
    cases decoded with
    | none => exact same.symm
    | some json => exact absurd ⟨other, opens, loaded⟩ (undecoded json)
  · rw [if_neg opens] at coerced
    exact (Except.ok.inj coerced).symm

theorem str_of_coerceText {path : List PathStep} {leaf : String} (coerced : reader.coerceText text = .ok made)
    (found : made.find path = some (.str leaf)) :
    (path = [] ∧ leaf = text ∧ reader.Stays text) ∨ reader.Decodes text made := by
  by_cases word : reader.Word text
  · rcases coerceText_word word coerced with ⟨b, same⟩ | ⟨n, same⟩
    · rw [same] at found
      exact (Json.find_atom_ne (by trivial) path leaf found).elim
    · rw [same] at found
      exact (Json.find_atom_ne (by trivial) path leaf found).elim
  · by_cases decodes : ∃ json, reader.Decodes text json
    · obtain ⟨json, decodes⟩ := decodes
      rw [coerceText_decodes decodes] at coerced
      cases coerced
      exact .inr decodes
    · have stays : reader.Stays text := ⟨word, fun json decoded => decodes ⟨json, decoded⟩⟩
      rw [coerceText_stays stays coerced] at found
      cases path with
      | nil =>
        cases found
        exact .inl ⟨rfl, rfl, stays⟩
      | cons step rest => cases step <;> cases found

theorem coerceItems_cons_ok {item : Json} {rest out : List Json} : reader.coerceItems (item :: rest) = .ok out ↔
    ∃ made others, reader.coerceValue item = .ok made ∧ reader.coerceItems rest = .ok others ∧
      out = made :: others := by
  rw [coerceItems, except_bind_pair_ok]

theorem coerceToolArgs_cons_ok {key : String} {value : Json} {rest out : JsonDict} :
    reader.coerceToolArgs ((key, value) :: rest) = .ok out ↔
      ∃ made others, reader.coerceValue value = .ok made ∧ reader.coerceToolArgs rest = .ok others ∧
        out = (key, made) :: others := by
  rw [coerceToolArgs, except_bind_pair_ok]

theorem get?_coerceToolArgs {fields coerced : JsonDict} (done : reader.coerceToolArgs fields = .ok coerced)
    (key : String) :
    Option.Rel (fun value made => reader.coerceValue value = .ok made) (JsonDict.get? fields key)
      (JsonDict.get? coerced key) := by
  induction fields generalizing coerced with
  | nil =>
    cases done
    exact .none
  | cons field fields ih =>
    obtain ⟨name, value⟩ := field
    obtain ⟨made, rest, head, tail, rfl⟩ := coerceToolArgs_cons_ok.mp done
    unfold JsonDict.get?
    rw [Assoc.lookup_cons, Assoc.lookup_cons]
    by_cases here : key = name
    · rw [if_pos here, if_pos here]
      exact .some head
    · rw [if_neg here, if_neg here]
      exact ih tail

theorem getElem?_coerceItems {items coerced : List Json} (done : reader.coerceItems items = .ok coerced) (i : Nat) :
    Option.Rel (fun value made => reader.coerceValue value = .ok made) items[i]? coerced[i]? := by
  induction items generalizing coerced i with
  | nil =>
    cases done
    exact .none
  | cons item items ih =>
    obtain ⟨made, rest, head, tail, rfl⟩ := coerceItems_cons_ok.mp done
    cases i with
    | zero => exact .some head
    | succ i => exact ih tail i

theorem child_coerceValue {value : Json} (coerced : reader.coerceValue value = .ok made)
    (inner : ∀ text, value ≠ .str text) (step : PathStep) :
    Option.Rel (fun value made => reader.coerceValue value = .ok made) (value.find [step]) (made.find [step]) := by
  cases value with
  | str text => exact absurd rfl (inner text)
  | obj fields =>
    obtain ⟨made, done, rfl⟩ := except_map_ok.mp coerced
    cases step with
    | index index => exact .none
    | key key => exact rel_bind (get?_coerceToolArgs done key) fun _ _ related => .some related
  | arr items =>
    obtain ⟨made, done, rfl⟩ := except_map_ok.mp coerced
    cases step with
    | key key => exact .none
    | index index => exact rel_bind (getElem?_coerceItems done index) fun _ _ related => .some related
  | _ =>
    cases coerced
    cases step <;> exact .none

theorem text_of_find {path : List PathStep} {value : Json} {leaf : String}
    (coerced : reader.coerceValue value = .ok made) (found : made.find path = some (.str leaf)) :
    ∃ before rest text json, path = before ++ rest ∧ value.find before = some (.str text) ∧
      reader.coerceText text = .ok json ∧ json.find rest = some (.str leaf) := by
  induction path generalizing value made with
  | nil =>
    cases value with
    | str text => exact ⟨[], [], text, made, rfl, rfl, coerced, found⟩
    | obj fields =>
      obtain ⟨_, -, same⟩ := except_map_ok.mp coerced
      rw [← same] at found
      cases found
    | arr items =>
      obtain ⟨_, -, same⟩ := except_map_ok.mp coerced
      rw [← same] at found
      cases found
    | _ =>
      cases coerced
      cases found
  | cons step path ih =>
    by_cases whole : ∃ text, value = .str text
    · obtain ⟨text, rfl⟩ := whole
      exact ⟨[], step :: path, text, made, rfl, rfl, coerced, found⟩
    · rw [Json.find_cons] at found
      obtain ⟨child, stored, below⟩ := Option.bind_eq_some_iff.mp found
      have related := child_coerceValue coerced (not_exists.mp whole) step
      rw [stored] at related
      obtain ⟨inner, original, coerced⟩ := rel_some_right related
      obtain ⟨before, rest, text, json, split, at', read, leafed⟩ := ih coerced below
      refine ⟨step :: before, rest, text, json, by rw [split, List.cons_append], ?_, read, leafed⟩
      rw [Json.find_cons, original]
      exact at'

theorem find_of_text {path : List PathStep} {value : Json} (coerced : reader.coerceValue value = .ok made)
    (found : value.find path = some (.str text)) :
    ∃ json, reader.coerceText text = .ok json ∧ made.find path = some json := by
  induction path generalizing value made with
  | nil =>
    cases found
    exact ⟨made, coerced, rfl⟩
  | cons step path ih =>
    have inner : ∀ other, value ≠ .str other := by
      rintro other rfl
      cases step <;> cases found
    rw [Json.find_cons] at found
    obtain ⟨child, stored, below⟩ := Option.bind_eq_some_iff.mp found
    have related := child_coerceValue coerced inner step
    rw [stored] at related
    obtain ⟨madeChild, kept, coerced⟩ := rel_some_left related
    obtain ⟨json, read, at'⟩ := ih coerced below
    refine ⟨json, read, ?_⟩
    rw [Json.find_cons, kept]
    exact at'

theorem coerceValue_of_mem {args coerced : JsonDict} (done : reader.coerceToolArgs args = .ok coerced) {key : String}
    {value : Json} (member : (key, value) ∈ args) : ∃ made, reader.coerceValue value = .ok made := by
  induction args generalizing coerced with
  | nil => cases member
  | cons arg args ih =>
    obtain ⟨name, first⟩ := arg
    obtain ⟨made, rest, head, tail, -⟩ := coerceToolArgs_cons_ok.mp done
    rcases List.mem_cons.mp member with same | member
    · cases same
      exact ⟨made, head⟩
    · exact ih tail member

theorem mem_coerceToolArgs {args coerced : JsonDict} (done : reader.coerceToolArgs args = .ok coerced) (key : String)
    (made : Json) :
    (key, made) ∈ coerced ↔ ∃ value, (key, value) ∈ args ∧ reader.coerceValue value = .ok made := by
  induction args generalizing coerced with
  | nil =>
    cases done
    simp
  | cons arg args ih =>
    obtain ⟨name, value⟩ := arg
    obtain ⟨made', rest, head, tail, rfl⟩ := coerceToolArgs_cons_ok.mp done
    rw [List.mem_cons, Prod.mk.injEq, ih tail]
    constructor
    · intro either
      rcases either with ⟨rfl, rfl⟩ | ⟨later, member, read⟩
      · exact ⟨value, List.mem_cons_self, head⟩
      · exact ⟨later, List.mem_cons_of_mem _ member, read⟩
    · intro found
      obtain ⟨later, member, read⟩ := found
      rcases List.mem_cons.mp member with same | member
      · cases same
        rw [head] at read
        exact .inl ⟨rfl, (Except.ok.inj read).symm⟩
      · exact .inr ⟨later, member, read⟩

end TextReader

namespace ScopePolicy

variable (policy : ScopePolicy) (reader : TextReader)

/-- No string under an argument with "path" in its name matches a blocked pattern. -/
def NoneBlocked (args : JsonDict) : Prop :=
  ∀ key value, (key, value) ∈ args → contains (reader.lower key) "path" = true →
    ∀ path text, value.find path = some (.str text) → policy.blocks reader.lower text = false

/-- What the check does not look at, and coercion leaves or brings out, matches no blocked pattern: the strings in
    the lists and dicts of such an argument, and those in the JSON that its strings hold. -/
structure UncheckedClear (args : JsonDict) : Prop where
  nested : ∀ key value, (key, value) ∈ args → contains (reader.lower key) "path" = true →
    ∀ path text, path ≠ [] → value.find path = some (.str text) → reader.Stays text →
      policy.blocks reader.lower text = false
  decoded : ∀ key value, (key, value) ∈ args → contains (reader.lower key) "path" = true →
    ∀ path text json, value.find path = some (.str text) → reader.Decodes text json →
      ∀ inner leaf, json.find inner = some (.str leaf) → policy.blocks reader.lower leaf = false

variable {policy reader} {toolName : String} {args made : JsonDict}

theorem noneBlocked_of_uncheckedClear (passed : policy.checkToolCall reader.lower toolName args = none)
    (coerced : reader.coerceToolArgs args = .ok made) (clear : policy.UncheckedClear reader args) :
    policy.NoneBlocked reader made := by
  intro key value member named path leaf found
  obtain ⟨given, original, read⟩ := (TextReader.mem_coerceToolArgs coerced key value).mp member
  obtain ⟨before, rest, text, json, split, at', taken, leafed⟩ := TextReader.text_of_find read found
  rcases TextReader.str_of_coerceText taken leafed with ⟨-, same, stays⟩ | decodes
  · rw [same]
    by_cases top : before = []
    · rw [top] at at'
      cases at'
      exact checkToolCall_text passed original named
    · exact clear.nested key given original named before text top at' stays
  · exact clear.decoded key given original named before text json at' decodes rest leaf leafed

theorem uncheckedClear_of_noneBlocked (coerced : reader.coerceToolArgs args = .ok made)
    (none : policy.NoneBlocked reader made) : policy.UncheckedClear reader args := by
  have kept : ∀ key value, (key, value) ∈ args → ∀ path text, value.find path = some (.str text) →
      ∃ value', (key, value') ∈ made ∧ ∃ json, reader.coerceText text = .ok json ∧ value'.find path = some json := by
    intro key value member path text found
    obtain ⟨value', read⟩ := TextReader.coerceValue_of_mem coerced member
    exact ⟨value', (TextReader.mem_coerceToolArgs coerced key value').mpr ⟨value, member, read⟩,
      TextReader.find_of_text read found⟩
  constructor
  · intro key value member named path text _ found stays
    obtain ⟨value', held, json, taken, there⟩ := kept key value member path text found
    rw [TextReader.coerceText_stays stays taken] at there
    exact none key value' held named path text there
  · intro key value member named path text json found decodes inner leaf leafed
    obtain ⟨value', held, json', taken, there⟩ := kept key value member path text found
    rw [TextReader.coerceText_decodes decodes] at taken
    cases taken
    refine none key value' held named (path ++ inner) leaf ?_
    rw [Json.find_append, there]
    exact leafed

end ScopePolicy

namespace ToolStack

/-- A tool whose call passed the scope gets no blocked path exactly when there is none where the scope did not
    look. -/
theorem noneBlocked_iff (stack : ToolStack) (call made : ToolCall) (prepared : stack.prepared call = some made) :
    stack.scope.NoneBlocked stack.reader made.args ↔ stack.scope.UncheckedClear stack.reader call.args := by
  obtain ⟨checked, args, coerced, rfl⟩ := prepared_eq_some prepared
  exact ⟨ScopePolicy.uncheckedClear_of_noneBlocked coerced, ScopePolicy.noneBlocked_of_uncheckedClear checked coerced⟩

def escapedPath : String := "[\"/srv/app/\\u002eenv\"]"

def documentReader : TextReader where
  lower text := text
  isDigit _ := false
  int _ := .ok 0
  loads text := .ok (if text = escapedPath then some (.arr [.str "/srv/app/.env"]) else none)

def documentStack : ToolStack where
  tools := [.registry "read_document"]
  middleware := { sampleMiddleware with agentId := "consultant" }
  scope := { allowedTools := ["read_document"] }
  reader := documentReader
  guard := .oneTool
  validatesReasoning _ := false

def readDocument (path : Json) : ToolCall := { name := "read_document", args := [("path", path)] }

/-- A path in a list is not checked, and one that a JSON text spells with an escape is checked before it is
    decoded: the tool gets both. -/
theorem blocked_path_received :
    ∃ first second, documentStack.prepared (readDocument (.arr [.str "/srv/app/.env"])) = some first ∧
      documentStack.prepared (readDocument (.str escapedPath)) = some second ∧
      ¬documentStack.scope.NoneBlocked documentReader first.args ∧
      ¬documentStack.scope.NoneBlocked documentReader second.args := by
  have received : ¬documentStack.scope.NoneBlocked documentReader [("path", .arr [.str "/srv/app/.env"])] := by
    intro none
    have free := none "path" _ List.mem_cons_self (by decide +kernel) [.index 0] "/srv/app/.env" rfl
    exact absurd free (by decide +kernel)
  refine ⟨readDocument (.arr [.str "/srv/app/.env"]), readDocument (.arr [.str "/srv/app/.env"]), ?_, ?_, received,
    received⟩
  · decide +kernel
  · decide +kernel

theorem noneBlocked_plain_path :
    documentStack.scope.NoneBlocked documentReader [("path", .str "/srv/app/notes.md")] := by
  have clear := noneBlocked_iff documentStack (readDocument (.str "/srv/app/notes.md"))
    (readDocument (.str "/srv/app/notes.md")) (by decide +kernel)
  apply clear.mpr
  constructor
  · intro key value member _ path text deep found
    cases List.mem_singleton.mp member
    cases path with
    | nil => exact absurd rfl deep
    | cons step rest => cases step <;> cases found
  · intro key value member _ path text json found decodes
    cases List.mem_singleton.mp member
    cases path with
    | nil =>
      cases found
      exact absurd decodes.2.1 (by decide +kernel)
    | cons step rest => cases step <;> cases found

end ToolStack

end CysAgi
