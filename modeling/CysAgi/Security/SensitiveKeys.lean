import CysAgi.Base.JsonPath

open Py

namespace CysAgi

def sensitiveKeys : List String :=
  ["password", "api_key", "token", "secret", "credential", "пароль", "токен", "секрет", "ключ", "учетные_данные"]

def redactedMark : Json := .str "***REDACTED***"

section

variable (lower : String → String)

def sensitiveKey (key : String) : Bool := sensitiveKeys.contains (lower key)

mutual

def redactSensitiveKeys : Json → Json
  | .obj fields => .obj (redactFields fields)
  | .arr items => .arr (redactItems items)
  | data => data

def redactFields : JsonDict → JsonDict
  | [] => []
  | (k, v) :: rest => (k, if sensitiveKey lower k then redactedMark else redactSensitiveKeys v) :: redactFields rest

def redactItems : List Json → List Json
  | [] => []
  | item :: rest => redactSensitiveKeys item :: redactItems rest

end

def Exposed (path : List PathStep) : Prop := ∀ key, .key key ∈ path → sensitiveKey lower key = false

end

inductive SameShape : Json → Json → Prop where
  | null : SameShape .null .null
  | bool (value : Bool) : SameShape (.bool value) (.bool value)
  | int (value : Int) : SameShape (.int value) (.int value)
  | float (value : Rat) : SameShape (.float value) (.float value)
  | str (text : String) : SameShape (.str text) (.str text)
  | obj {fields redacted : JsonDict} (keys : redacted.map Prod.fst = fields.map Prod.fst) :
      SameShape (.obj fields) (.obj redacted)
  | arr {items redacted : List Json} (length : redacted.length = items.length) :
      SameShape (.arr items) (.arr redacted)

/-- What is under a sensitive key is marked, wherever it is, and all else is as it was. -/
structure RedactedExactly (lower : String → String) (data redacted : Json) : Prop where
  marked : ∀ path key value, sensitiveKey lower key = true →
    redacted.find (path ++ [.key key]) = some value → value = redactedMark
  kept : ∀ path, Exposed lower path → Option.Rel SameShape (data.find path) (redacted.find path)

section

variable {lower : String → String}

theorem keys_redactFields (fields : JsonDict) : (redactFields lower fields).map Prod.fst = fields.map Prod.fst := by
  induction fields with
  | nil => rfl
  | cons field rest ih =>
    rw [redactFields, List.map_cons, List.map_cons, ih]

theorem redactItems_eq (items : List Json) : redactItems lower items = items.map (redactSensitiveKeys lower) := by
  induction items with
  | nil => rfl
  | cons item rest ih => rw [redactItems, ih, List.map_cons]

theorem sameShape_redact (data : Json) : SameShape data (redactSensitiveKeys lower data) := by
  cases data with
  | null => exact .null
  | bool value => exact .bool value
  | int value => exact .int value
  | float value => exact .float value
  | str text => exact .str text
  | obj fields => exact .obj (keys_redactFields fields)
  | arr items =>
    apply SameShape.arr
    rw [redactItems_eq, List.length_map]

theorem get?_redactFields (fields : JsonDict) (key : String) :
    JsonDict.get? (redactFields lower fields) key =
      if sensitiveKey lower key then (JsonDict.get? fields key).map fun _ => redactedMark
      else (JsonDict.get? fields key).map (redactSensitiveKeys lower) := by
  unfold JsonDict.get?
  induction fields with
  | nil => cases sensitiveKey lower key <;> rfl
  | cons field rest ih =>
    obtain ⟨name, value⟩ := field
    rw [redactFields, Assoc.lookup_cons, Assoc.lookup_cons, ih]
    by_cases here : key = name
    · subst here
      rw [if_pos rfl, if_pos rfl]
      cases sensitiveKey lower key <;> rfl
    · rw [if_neg here, if_neg here]

theorem find_redact {path : List PathStep} (exposed : Exposed lower path) (data : Json) :
    (redactSensitiveKeys lower data).find path = (data.find path).map (redactSensitiveKeys lower) := by
  induction path generalizing data with
  | nil => rfl
  | cons step path ih =>
    have below : Exposed lower path := fun key member => exposed key (List.mem_cons_of_mem step member)
    cases step with
    | key key =>
      cases data with
      | obj fields =>
        have open_key := exposed key List.mem_cons_self
        simp only [redactSensitiveKeys, Json.find, get?_redactFields]
        rw [open_key, if_neg Bool.false_ne_true]
        cases JsonDict.get? fields key with
        | none => rfl
        | some inner => exact ih below inner
      | _ => rfl
    | index index =>
      cases data with
      | arr items =>
        simp only [redactSensitiveKeys, Json.find, redactItems_eq, List.getElem?_map]
        cases items[index]? with
        | none => rfl
        | some inner => exact ih below inner
      | _ => rfl

theorem find_redactedMark (path : List PathStep) (last : PathStep) : redactedMark.find (path ++ [last]) = none := by
  cases path with
  | nil => cases last <;> rfl
  | cons step path => cases step <;> rfl

theorem find_sensitive {key : String} (sensitive : sensitiveKey lower key = true) (path : List PathStep) (data : Json)
    {value : Json} (found : (redactSensitiveKeys lower data).find (path ++ [.key key]) = some value) :
    value = redactedMark := by
  induction path generalizing data with
  | nil =>
    cases data with
    | obj fields =>
      simp only [List.nil_append, redactSensitiveKeys, Json.find, get?_redactFields, if_pos sensitive] at found
      obtain ⟨inner, marked, last⟩ := Option.bind_eq_some_iff.mp found
      obtain ⟨original, -, rfl⟩ := Option.map_eq_some_iff.mp marked
      exact (Option.some.inj last).symm
    | _ => cases found
  | cons step path ih =>
    cases step with
    | key name =>
      cases data with
      | obj fields =>
        simp only [List.cons_append, redactSensitiveKeys, Json.find, get?_redactFields] at found
        obtain ⟨inner, through, below⟩ := Option.bind_eq_some_iff.mp found
        by_cases hidden : sensitiveKey lower name = true
        · rw [if_pos hidden] at through
          obtain ⟨original, -, rfl⟩ := Option.map_eq_some_iff.mp through
          rw [find_redactedMark] at below
          cases below
        · rw [if_neg hidden] at through
          obtain ⟨original, -, rfl⟩ := Option.map_eq_some_iff.mp through
          exact ih original below
      | _ => cases found
    | index index =>
      cases data with
      | arr items =>
        simp only [List.cons_append, redactSensitiveKeys, Json.find, redactItems_eq, List.getElem?_map] at found
        obtain ⟨inner, through, below⟩ := Option.bind_eq_some_iff.mp found
        obtain ⟨original, -, rfl⟩ := Option.map_eq_some_iff.mp through
        exact ih original below
      | _ => cases found

mutual

theorem redact_redact : ∀ data : Json,
    redactSensitiveKeys lower (redactSensitiveKeys lower data) = redactSensitiveKeys lower data
  | .null => rfl
  | .bool _ => rfl
  | .int _ => rfl
  | .float _ => rfl
  | .str _ => rfl
  | .obj fields => congrArg Json.obj (redactFields_redactFields fields)
  | .arr items => congrArg Json.arr (redactItems_redactItems items)

theorem redactFields_redactFields : ∀ fields : JsonDict,
    redactFields lower (redactFields lower fields) = redactFields lower fields
  | [] => rfl
  | (k, v) :: rest => by
    simp only [redactFields, redactFields_redactFields rest]
    by_cases sensitive : sensitiveKey lower k = true
    · simp only [if_pos sensitive]
    · simp only [if_neg sensitive, redact_redact v]

theorem redactItems_redactItems : ∀ items : List Json,
    redactItems lower (redactItems lower items) = redactItems lower items
  | [] => rfl
  | item :: rest => by rw [redactItems, redactItems, redact_redact item, redactItems_redactItems rest]

end

end

theorem redact_sensitive_keys_exact (lower : String → String) (data : Json) :
    RedactedExactly lower data (redactSensitiveKeys lower data) ∧
      redactSensitiveKeys lower (redactSensitiveKeys lower data) = redactSensitiveKeys lower data := by
  refine ⟨⟨?_, ?_⟩, redact_redact data⟩
  · intro path key value sensitive found
    exact find_sensitive sensitive path data found
  · intro path exposed
    rw [find_redact exposed]
    cases data.find path with
    | none => exact .none
    | some inner => exact .some (sameShape_redact inner)

end CysAgi
