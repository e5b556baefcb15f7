import CysAgi.Base.JsonPath
import CysAgi.Base.Effect
import CysAgi.Planning.PlanInvestigation
import CysAgi.Security.InputSanitizer

open Py

namespace CysAgi

namespace InputSanitizer

variable (sanitizer : InputSanitizer) (source : UntrustedSource)

def sanitizeItem : Json → Except PyExc Json
  | .str text => .str <$> sanitizer.sanitize text source
  | item => .ok item

mutual

def sanitizeField : Json → Except PyExc Json
  | .str text => .str <$> sanitizer.sanitize text source
  | .obj fields => .obj <$> sanitizePayload fields
  | .arr items => .arr <$> items.mapM (sanitizer.sanitizeItem source)
  | value => .ok value

def sanitizePayload : JsonDict → Except PyExc JsonDict
  | [] => .ok []
  | (key, value) :: rest => do
    let clean ← sanitizeField value
    let others ← sanitizePayload rest
    .ok ((key, clean) :: others)

end

def sanitizeEvent (event : SecurityEvent) : Except PyExc (Option SecurityEvent) :=
  match sanitizer.sanitizePayload .external event.payload with
  | .ok payload => .ok (some { event with payload })
  | .error (.securityViolation _) => .ok none
  | .error raised => .error raised

/-- A node of the result is the one of the payload with its string sanitized, of the same keys, of the
    same length, or the same value. -/
def SameNode : Json → Json → Prop
  | .str text, .str clean => sanitizer.sanitize text source = .ok clean
  | .arr items, .arr cleaned => items.length = cleaned.length
  | .obj fields, .obj cleaned => fields.map Prod.fst = cleaned.map Prod.fst
  | value, other => value = other

structure Covers (payload result : Json) : Prop where
  nodes : ∀ path, Option.Rel (sanitizer.SameNode source) (payload.find path) (result.find path)
  noHard : ∀ before after text, payload.find before = some (.str text) → sanitizer.classify text = .hard →
    result.find after ≠ some (.str text)

inductive Visits : Json → String → Prop
  | str (text : String) : Visits (.str text) text
  | field {fields : JsonDict} {key : String} {value : Json} {text : String} :
    (key, value) ∈ fields → Visits value text → Visits (.obj fields) text
  | item {items : List Json} {text : String} : .str text ∈ items → Visits (.arr items) text

/-- A string that the walk comes to is a hard injection that does not begin as a wrapped block. -/
def Blocked (payload : Json) : Prop :=
  ∃ text, Visits payload text ∧ wrapped text = false ∧ sanitizer.classify text = .hard

/-- Every string within a dict or list that is an item of a list is a wrapped block already, and none
    that begins as a wrapped block is a hard injection. -/
structure Inert (payload : Json) : Prop where
  items : ∀ (keys : List String) index path text, path ≠ [] →
    payload.find (keys.map .key ++ .index index :: path) = some (.str text) → wrapped text = true
  noHard : ∀ path text, payload.find path = some (.str text) → wrapped text = true →
    sanitizer.classify text ≠ .hard

variable {sanitizer source}

theorem sanitizePayload_cons_ok {name : String} {value : Json} {fields cleaned : JsonDict} :
    sanitizer.sanitizePayload source ((name, value) :: fields) = .ok cleaned ↔
      ∃ clean others, sanitizer.sanitizeField source value = .ok clean ∧
        sanitizer.sanitizePayload source fields = .ok others ∧ cleaned = (name, clean) :: others := by
  rw [sanitizePayload]
  exact except_bind_pair_ok

theorem get?_sanitizePayload {fields cleaned : JsonDict}
    (passed : sanitizer.sanitizePayload source fields = .ok cleaned) (key : String) :
    Option.Rel (fun value clean => sanitizer.sanitizeField source value = .ok clean)
      (JsonDict.get? fields key) (JsonDict.get? cleaned key) := by
  induction fields generalizing cleaned with
  | nil =>
    cases passed
    exact .none
  | cons field fields ih =>
    obtain ⟨name, value⟩ := field
    obtain ⟨clean, others, here, below, rfl⟩ := sanitizePayload_cons_ok.mp passed
    unfold JsonDict.get?
    rw [Assoc.lookup_cons, Assoc.lookup_cons]
    by_cases same : key = name
    · rw [if_pos same, if_pos same]
      exact .some here
    · rw [if_neg same, if_neg same]
      exact ih below

theorem keys_sanitizePayload {fields cleaned : JsonDict}
    (passed : sanitizer.sanitizePayload source fields = .ok cleaned) :
    fields.map Prod.fst = cleaned.map Prod.fst := by
  induction fields generalizing cleaned with
  | nil =>
    cases passed
    rfl
  | cons field fields ih =>
    obtain ⟨name, value⟩ := field
    obtain ⟨clean, others, here, below, rfl⟩ := sanitizePayload_cons_ok.mp passed
    rw [List.map_cons, List.map_cons, ih below]

theorem sanitizeField_obj {fields : JsonDict} {clean : Json}
    (passed : sanitizer.sanitizeField source (.obj fields) = .ok clean) :
    ∃ cleaned, sanitizer.sanitizePayload source fields = .ok cleaned ∧ clean = .obj cleaned := by
  rw [sanitizeField] at passed
  obtain ⟨cleaned, here, same⟩ := except_map_ok.mp passed
  exact ⟨cleaned, here, same.symm⟩

theorem sanitizeField_arr {items : List Json} {clean : Json}
    (passed : sanitizer.sanitizeField source (.arr items) = .ok clean) :
    ∃ cleaned, items.mapM (sanitizer.sanitizeItem source) = .ok cleaned ∧ clean = .arr cleaned := by
  rw [sanitizeField] at passed
  obtain ⟨cleaned, here, same⟩ := except_map_ok.mp passed
  exact ⟨cleaned, here, same.symm⟩

theorem find_keys_sanitizeField {value clean : Json} (passed : sanitizer.sanitizeField source value = .ok clean)
    (keys : List String) :
    Option.Rel (fun value clean => sanitizer.sanitizeField source value = .ok clean)
      (value.find (keys.map .key)) (clean.find (keys.map .key)) := by
  induction keys generalizing value clean with
  | nil => exact .some passed
  | cons key keys ih =>
    cases value with
    | obj fields =>
      obtain ⟨cleaned, here, rfl⟩ := sanitizeField_obj passed
      exact rel_bind (get?_sanitizePayload here key) fun _ _ below => ih below
    | arr items =>
      obtain ⟨cleaned, -, rfl⟩ := sanitizeField_arr passed
      exact .none
    | str text =>
      rw [sanitizeField] at passed
      obtain ⟨cleaned, -, rfl⟩ := except_map_ok.mp passed
      exact .none
    | _ =>
      cases passed
      exact .none

theorem find_index_sanitizeField {value clean : Json} (passed : sanitizer.sanitizeField source value = .ok clean)
    (index : Nat) :
    Option.Rel (fun item clean => sanitizer.sanitizeItem source item = .ok clean)
      (value.find [.index index]) (clean.find [.index index]) := by
  cases value with
  | arr items =>
    obtain ⟨cleaned, here, rfl⟩ := sanitizeField_arr passed
    exact rel_bind ((mapM_getElem? here).2 index) fun _ _ related => .some related
  | obj fields =>
    obtain ⟨cleaned, -, rfl⟩ := sanitizeField_obj passed
    exact .none
  | str text =>
    rw [sanitizeField] at passed
    obtain ⟨cleaned, -, rfl⟩ := except_map_ok.mp passed
    exact .none
  | _ =>
    cases passed
    exact .none

theorem find_below_sanitizeItem {item clean : Json} (passed : sanitizer.sanitizeItem source item = .ok clean)
    {path : List PathStep} (below : path ≠ []) : clean.find path = item.find path := by
  cases path with
  | nil => exact absurd rfl below
  | cons step path =>
    cases item with
    | str text =>
      obtain ⟨cleaned, -, rfl⟩ := except_map_ok.mp passed
      cases step <;> rfl
    | _ =>
      cases passed
      rfl

theorem find_into_sanitizeField {value clean : Json} (passed : sanitizer.sanitizeField source value = .ok clean)
    (keys : List String) (index : Nat) {path : List PathStep} (below : path ≠ []) :
    clean.find (keys.map .key ++ .index index :: path) = value.find (keys.map .key ++ .index index :: path) := by
  have split : ∀ json : Json, json.find (keys.map .key ++ .index index :: path) =
      ((json.find (keys.map .key)).bind (Json.find [.index index])).bind (Json.find path) := by
    intro json
    rw [← Json.find_append, ← Json.find_append, List.append_assoc, List.singleton_append]
  have related := rel_bind (find_keys_sanitizeField passed keys) fun _ _ here => find_index_sanitizeField here index
  rw [split, split]
  exact bind_eq_of_rel related fun _ _ here => find_below_sanitizeItem here below

theorem find_item_sanitizeField {value clean : Json} (passed : sanitizer.sanitizeField source value = .ok clean)
    (keys : List String) (index : Nat) :
    Option.Rel (fun item clean => sanitizer.sanitizeItem source item = .ok clean)
      (value.find (keys.map .key ++ [.index index])) (clean.find (keys.map .key ++ [.index index])) := by
  rw [Json.find_append, Json.find_append]
  exact rel_bind (find_keys_sanitizeField passed keys) fun _ _ here => find_index_sanitizeField here index

theorem sameNode_of_sanitizeField {value clean : Json} (passed : sanitizer.sanitizeField source value = .ok clean) :
    sanitizer.SameNode source value clean := by
  cases value with
  | str text =>
    obtain ⟨cleaned, here, rfl⟩ := except_map_ok.mp passed
    exact here
  | arr items =>
    obtain ⟨cleaned, here, rfl⟩ := sanitizeField_arr passed
    exact (mapM_getElem? here).1
  | obj fields =>
    obtain ⟨cleaned, here, rfl⟩ := sanitizeField_obj passed
    exact keys_sanitizePayload here
  | _ =>
    cases passed
    rfl

theorem sameNode_of_unchanged {value : Json} (unchanged : ∀ text, value = .str text → wrapped text = true) :
    sanitizer.SameNode source value value := by
  cases value with
  | str text => exact sanitizer.sanitize_wrapped (unchanged text rfl) source
  | _ => rfl

theorem sameNode_of_sanitizeItem {item clean : Json} (passed : sanitizer.sanitizeItem source item = .ok clean) :
    sanitizer.SameNode source item clean := by
  cases item with
  | str text =>
    obtain ⟨cleaned, here, rfl⟩ := except_map_ok.mp passed
    exact here
  | _ =>
    cases passed
    rfl

theorem sameNode_str {value : Json} {text : String} (same : sanitizer.SameNode source value (.str text)) :
    ∃ original, value = .str original ∧ sanitizer.sanitize original source = .ok text := by
  cases value with
  | str original => exact ⟨original, rfl, same⟩
  | _ => cases same

theorem sameNode_of_str {clean : Json} {text : String} (same : sanitizer.SameNode source (.str text) clean) :
    ∃ cleaned, clean = .str cleaned ∧ sanitizer.sanitize text source = .ok cleaned := by
  cases clean with
  | str cleaned => exact ⟨cleaned, rfl, same⟩
  | _ => cases same

theorem passes_of_sanitizePayload {fields cleaned : JsonDict}
    (passed : sanitizer.sanitizePayload source fields = .ok cleaned) {key : String} {value : Json}
    (member : (key, value) ∈ fields) : ∃ clean, sanitizer.sanitizeField source value = .ok clean := by
  induction fields generalizing cleaned with
  | nil => cases member
  | cons field fields ih =>
    obtain ⟨name, first⟩ := field
    obtain ⟨clean, others, here, below, -⟩ := sanitizePayload_cons_ok.mp passed
    rcases List.mem_cons.mp member with same | member
    · cases same
      exact ⟨clean, here⟩
    · exact ih below member

theorem sanitize_visited {value clean : Json} {text : String} (visited : Visits value text)
    (passed : sanitizer.sanitizeField source value = .ok clean) :
    ∃ cleaned, sanitizer.sanitize text source = .ok cleaned := by
  induction visited generalizing clean with
  | str text =>
    obtain ⟨cleaned, here, -⟩ := except_map_ok.mp passed
    exact ⟨cleaned, here⟩
  | field member _ ih =>
    obtain ⟨cleaned, here, -⟩ := sanitizeField_obj passed
    obtain ⟨inner, below⟩ := passes_of_sanitizePayload here member
    exact ih below
  | @item items text member =>
    obtain ⟨cleaned, here, -⟩ := sanitizeField_arr passed
    obtain ⟨index, place⟩ := List.getElem?_of_mem member
    have related := (mapM_getElem? here).2 index
    rw [place] at related
    obtain ⟨other, -, below⟩ := rel_some_left related
    obtain ⟨cleaned, here, -⟩ := except_map_ok.mp below
    exact ⟨cleaned, here⟩

theorem not_blocked_of_sanitizeField {value clean : Json}
    (passed : sanitizer.sanitizeField source value = .ok clean) : ¬ sanitizer.Blocked value := by
  intro ⟨text, visited, unmarked, hard⟩
  obtain ⟨cleaned, through⟩ := sanitize_visited visited passed
  rw [sanitizer.sanitize_hard unmarked hard] at through
  cases through

theorem injection_of_sanitize {text : String} {raised : PyExc}
    (failed : sanitizer.sanitize text source = .error raised) :
    raised = injectionDetected ∧ wrapped text = false ∧ sanitizer.classify text = .hard := by
  obtain ⟨unmarked, hard⟩ := (sanitizer.sanitize_raises_iff text source).mp ⟨raised, failed⟩
  rw [sanitizer.sanitize_hard unmarked hard] at failed
  exact ⟨(Except.error.inj failed).symm, unmarked, hard⟩

theorem blocked_of_items {items : List Json} {raised : PyExc}
    (failed : items.mapM (sanitizer.sanitizeItem source) = .error raised) :
    raised = injectionDetected ∧ sanitizer.Blocked (.arr items) := by
  obtain ⟨index, item, place, failed⟩ := mapM_error failed
  cases item with
  | str text =>
    obtain ⟨same, found⟩ := injection_of_sanitize (except_map_error.mp failed)
    exact ⟨same, text, .item (List.mem_of_getElem? place), found⟩
  | _ => cases failed

mutual

theorem blocked_of_sanitizeField {raised : PyExc} : ∀ {value : Json},
    sanitizer.sanitizeField source value = .error raised → raised = injectionDetected ∧ sanitizer.Blocked value
  | .str text, failed => by
    rw [sanitizeField] at failed
    obtain ⟨same, found⟩ := injection_of_sanitize (except_map_error.mp failed)
    exact ⟨same, text, .str text, found⟩
  | .arr items, failed => by
    rw [sanitizeField] at failed
    exact blocked_of_items (except_map_error.mp failed)
  | .obj fields, failed => by
    rw [sanitizeField] at failed
    exact blocked_of_sanitizePayload (except_map_error.mp failed)
  | .null, failed => nomatch failed
  | .bool _, failed => nomatch failed
  | .int _, failed => nomatch failed
  | .float _, failed => nomatch failed

theorem blocked_of_sanitizePayload {raised : PyExc} : ∀ {fields : JsonDict},
    sanitizer.sanitizePayload source fields = .error raised →
      raised = injectionDetected ∧ sanitizer.Blocked (.obj fields)
  | [], failed => nomatch failed
  | (key, value) :: rest, failed => by
    rw [sanitizePayload] at failed
    rcases except_bind_error.mp failed with failed | ⟨clean, -, failed⟩
    · obtain ⟨same, text, visited, found⟩ := blocked_of_sanitizeField failed
      exact ⟨same, text, .field List.mem_cons_self visited, found⟩
    · rcases except_bind_error.mp failed with failed | ⟨others, -, returned⟩
      · obtain ⟨same, text, visited, found⟩ := blocked_of_sanitizePayload failed
        cases visited with
        | field member visited => exact ⟨same, text, .field (List.mem_cons_of_mem _ member) visited, found⟩
      · cases returned

end

theorem sanitizeField_of_payload {payload cleaned : JsonDict}
    (passed : sanitizer.sanitizePayload source payload = .ok cleaned) :
    sanitizer.sanitizeField source (.obj payload) = .ok (.obj cleaned) := by
  rw [sanitizeField]
  exact except_map_ok.mpr ⟨cleaned, passed, rfl⟩

theorem sameNode_of_find {value clean : Json} (inert : sanitizer.Inert value)
    (passed : sanitizer.sanitizeField source value = .ok clean) (path : List PathStep) :
    Option.Rel (sanitizer.SameNode source) (value.find path) (clean.find path) := by
  obtain ⟨keys, rfl | ⟨index, rest, rfl⟩⟩ := Json.path_cases path
  · exact rel_imp (find_keys_sanitizeField passed keys) fun _ _ => sameNode_of_sanitizeField
  · by_cases below : rest = []
    · rw [below]
      exact rel_imp (find_item_sanitizeField passed keys index) fun _ _ => sameNode_of_sanitizeItem
    · rw [find_into_sanitizeField passed keys index below]
      cases found : value.find (keys.map .key ++ .index index :: rest) with
      | none => exact .none
      | some inner =>
        apply Option.Rel.some
        apply sameNode_of_unchanged
        intro text leaf
        rw [leaf] at found
        exact inert.items keys index rest text below found

theorem covers_of_inert {value clean : Json} (inert : sanitizer.Inert value)
    (passed : sanitizer.sanitizeField source value = .ok clean) : sanitizer.Covers source value clean := by
  constructor
  · exact sameNode_of_find inert passed
  · intro before after text found hard delivered
    have node := sameNode_of_find inert passed after
    rw [delivered] at node
    obtain ⟨origin, -, same⟩ := rel_some_right node
    obtain ⟨original, -, through⟩ := sameNode_str same
    exact inert.noHard before text found (sanitizer.wrapped_of_sanitize through) hard

theorem inert_of_covers {value clean : Json} (covers : sanitizer.Covers source value clean)
    (passed : sanitizer.sanitizeField source value = .ok clean) : sanitizer.Inert value := by
  constructor
  · intro keys index path text below found
    have node := covers.nodes (keys.map .key ++ .index index :: path)
    rw [find_into_sanitizeField passed keys index below, found] at node
    obtain ⟨other, same, related⟩ := rel_some_left node
    cases same
    exact (sanitizer.sanitize_unchanged_iff text source).mp related
  · intro path text found marked hard
    have node := covers.nodes path
    rw [found] at node
    obtain ⟨other, delivered, related⟩ := rel_some_left node
    obtain ⟨cleaned, rfl, through⟩ := sameNode_of_str related
    rw [sanitizer.sanitize_wrapped marked] at through
    cases through
    exact covers.noHard path path text found hard delivered

end InputSanitizer

open InputSanitizer

theorem covers_or_raises_iff (sanitizer : InputSanitizer) (source : UntrustedSource) (payload : JsonDict) :
    ((∃ raised, sanitizer.sanitizePayload source payload = .error raised) ∨
      ∃ cleaned, sanitizer.sanitizePayload source payload = .ok cleaned ∧
        sanitizer.Covers source (.obj payload) (.obj cleaned)) ↔
      sanitizer.Blocked (.obj payload) ∨ sanitizer.Inert (.obj payload) := by
  cases ran : sanitizer.sanitizePayload source payload with
  | error raised =>
    have blocked := (blocked_of_sanitizePayload ran).2
    exact ⟨fun _ => .inl blocked, fun _ => .inl ⟨raised, rfl⟩⟩
  | ok cleaned =>
    have passed := sanitizeField_of_payload ran
    constructor
    · intro either
      rcases either with ⟨raised, failed⟩ | ⟨other, same, covers⟩
      · cases failed
      · cases same
        exact .inr (inert_of_covers covers passed)
    · intro either
      rcases either with blocked | inert
      · exact absurd blocked (not_blocked_of_sanitizeField passed)
      · exact .inr ⟨cleaned, rfl, covers_of_inert inert passed⟩

theorem sanitizeEvent_eq (sanitizer : InputSanitizer) (event : SecurityEvent) :
    (∃ raised, sanitizer.sanitizePayload .external event.payload = .error raised) ∧
      sanitizer.sanitizeEvent event = .ok none ∨
    ∃ payload, sanitizer.sanitizePayload .external event.payload = .ok payload ∧
      sanitizer.sanitizeEvent event = .ok (some { event with payload }) := by
  unfold sanitizeEvent
  cases ran : sanitizer.sanitizePayload .external event.payload with
  | error raised =>
    obtain ⟨rfl, -⟩ := blocked_of_sanitizePayload ran
    exact .inl ⟨⟨_, rfl⟩, rfl⟩
  | ok payload => exact .inr ⟨payload, rfl, rfl⟩

/-- A payload is rejected or sanitized as a whole, and a polled event dropped or delivered clean, exactly
    where the walk comes to a hard injection or what it leaves out needs no sanitizing. -/
theorem sanitized_whole_iff (sanitizer : InputSanitizer) (payload : JsonDict) :
    (∀ source, ((∃ raised, sanitizer.sanitizePayload source payload = .error raised) ∨
        ∃ cleaned, sanitizer.sanitizePayload source payload = .ok cleaned ∧
          sanitizer.Covers source (.obj payload) (.obj cleaned)) ↔
      sanitizer.Blocked (.obj payload) ∨ sanitizer.Inert (.obj payload)) ∧
    ∀ event : SecurityEvent, event.payload = payload →
      (sanitizer.sanitizeEvent event = .ok none ∨
        (∃ cleaned, sanitizer.sanitizeEvent event = .ok (some { event with payload := cleaned }) ∧
          sanitizer.Covers .external (.obj payload) (.obj cleaned)) ↔
      sanitizer.Blocked (.obj payload) ∨ sanitizer.Inert (.obj payload)) := by
  constructor
  · exact fun source => covers_or_raises_iff sanitizer source payload
  · intro event equal
    subst equal
    rw [← covers_or_raises_iff sanitizer .external event.payload]
    rcases sanitizeEvent_eq sanitizer event with ⟨raises, dropped⟩ | ⟨cleaned, passed, delivered⟩
    · exact ⟨fun _ => .inl raises, fun _ => .inl dropped⟩
    · rw [passed, delivered]
      constructor
      · intro either
        rcases either with dropped | ⟨other, same, covers⟩
        · cases dropped
        · cases same
          exact .inr ⟨cleaned, rfl, covers⟩
      · intro either
        rcases either with ⟨raised, failed⟩ | ⟨other, same, covers⟩
        · cases failed
        · cases same
          exact .inr ⟨cleaned, rfl, covers⟩

def alertBatch : JsonDict := [("alerts", .arr [.obj [("msg", .str injection)]])]

/-- A dict in a list takes a hard injection through, and into the polled event. -/
theorem sanitizePayload_not_whole :
    plainSanitizer.classify injection = .hard ∧
    plainSanitizer.sanitizePayload .external alertBatch = .ok alertBatch ∧
    ¬ ((∃ raised, plainSanitizer.sanitizePayload .external alertBatch = .error raised) ∨
      ∃ cleaned, plainSanitizer.sanitizePayload .external alertBatch = .ok cleaned ∧
        plainSanitizer.Covers .external (.obj alertBatch) (.obj cleaned)) := by
  have hard : plainSanitizer.classify injection = .hard := by decide +kernel
  have passed : plainSanitizer.sanitizePayload .external alertBatch = .ok alertBatch := rfl
  refine ⟨hard, passed, ?_⟩
  rw [passed]
  intro either
  rcases either with ⟨raised, failed⟩ | ⟨cleaned, same, covers⟩
  · cases failed
  · cases same
    have found : (Json.obj alertBatch).find [.key "alerts", .index 0, .key "msg"] = some (.str injection) := by decide
    exact covers.noHard _ _ injection found hard found

end CysAgi
