import Mathlib.Algebra.Order.Ring.Unbundled.Rat
import Mathlib.Data.Finset.Sort
import Mathlib.Data.String.Basic
import CysAgi.Base.Schema
import CysAgi.Catalog.Requests

open Py

namespace CysAgi.Catalog

def traceCriticFields : List (String × Schema × Json) :=
  [("enabled", .bool, .bool true), ("threshold", .float, .float (55 / 100)), ("every_n_steps", .int, .int 3),
    ("rerun_max", .int, .int 2), ("hitl_on_exhausted", .bool, .bool true), ("use_reasoning", .bool, .bool false)]

def anomalyFields : List (String × Schema × Json) :=
  [("tool_calls_per_minute", .int, .int 30), ("failed_tool_calls", .int, .int 5), ("injection_attempts", .int, .int 1),
    ("sensitive_data_access", .int, .int 3)]

def qualitySignalsFields : List (String × Schema × Json) :=
  [("job_success", .float, .float (85 / 100)), ("job_failure", .float, .float (35 / 100)),
    ("trace_critic_pass", .float, .float (8 / 10)), ("trace_critic_fail", .float, .float (4 / 10)),
    ("hitl_pause", .float, .float (5 / 10)), ("bus_failure", .float, .float (25 / 100)),
    ("ema_alpha", .float, .float (15 / 100))]

def modePolicyFields : List (String × Schema × Json) :=
  [("read_only_tools", .list .text, .arr []), ("plan_blocked_tools", .list .text, .arr []),
    ("mutating_tools", .list .text, .arr [.str "spawn_worker", .str "update_todos"])]

def sgrFields : List (String × Schema × Json) :=
  [("enabled", .bool, .bool false), ("mode", .literal ["off", "sgr_hybrid", "sgr_iron"], .str "off"),
    ("require_before_action", .bool, .bool true)]

def defaultsOf (fields : List (String × Schema × Json)) : JsonDict := fields.map fun field => (field.1, field.2.2)

def profilePolicyFields : List (String × Schema × Json) :=
  [("trust_floor", .float, .float (1 / 2)), ("bus_policy", .dict (.list .text), .obj []),
    ("breaker_failure_threshold", .int, .int 5), ("breaker_reset_seconds", .int, .int 60),
    ("tool_allowlist", .dict (.optional (.list .text)), .obj []), ("tool_risk", .dict .text, .obj []),
    ("hitl_auto_approve_threshold", .text, .str "low"),
    ("mode_policy", .record modePolicyFields, .obj (defaultsOf modePolicyFields)),
    ("escalation_paths", .list (.list .text), .arr []), ("max_spawn_depth", .int, .int 5),
    ("cost_per_1k_tokens_usd", .float, .float (3 / 1000)), ("delegate_budget_fraction", .float, .float (35 / 100)),
    ("trace_critic", .record traceCriticFields, .obj (defaultsOf traceCriticFields)),
    ("anomaly", .record anomalyFields, .obj (defaultsOf anomalyFields)),
    ("quality_signals", .record qualitySignalsFields, .obj (defaultsOf qualitySignalsFields)),
    ("notify_control_severities", .list .text, .arr [.str "high", .str "critical"]),
    ("sgr", .record sgrFields, .obj (defaultsOf sgrFields))]

section

variable {python : Coercions}

theorem validateFields_nothing (fields : List (String × Schema × Json)) :
    validateFields python fields [] = some (defaultsOf fields) := by
  induction fields with
  | nil => rfl
  | cons field rest ih =>
    obtain ⟨name, schema, default⟩ := field
    rw [validateFields_cons, ih]
    rfl

theorem validateFields_defaults {fields : List (String × Schema × Json)} (distinct : (fields.map Prod.fst).Nodup)
    (settled : SettledFields python fields) :
    validateFields python fields (defaultsOf fields) = some (defaultsOf fields) :=
  validateFields_held distinct settled (validateFields_nothing fields)

theorem settled_record {fields : List (String × Schema × Json)} (distinct : (fields.map Prod.fst).Nodup)
    (settled : SettledFields python fields) : (Schema.record fields).Settled python ∧
      validate python (.record fields) (.obj (defaultsOf fields)) = some (.obj (defaultsOf fields)) :=
  ⟨⟨distinct, settled⟩, validate_record_iff.mpr (validateFields_defaults distinct settled)⟩

variable (python)

theorem traceCritic_settled : SettledFields python traceCriticFields := by
  simp [traceCriticFields, SettledFields, Schema.Settled, validate, python.bool_self, python.int_self,
    python.float_self]

theorem anomaly_settled : SettledFields python anomalyFields := by
  simp [anomalyFields, SettledFields, Schema.Settled, validate, python.int_self]

theorem qualitySignals_settled : SettledFields python qualitySignalsFields := by
  simp [qualitySignalsFields, SettledFields, Schema.Settled, validate, python.float_self]

theorem modePolicy_settled : SettledFields python modePolicyFields := by
  simp [modePolicyFields, SettledFields, Schema.Settled, validate]

theorem sgr_settled : SettledFields python sgrFields := by
  simp [sgrFields, SettledFields, Schema.Settled, validate, python.bool_self]

theorem profilePolicy_settled : SettledFields python profilePolicyFields := by
  have critic := settled_record (by decide) (traceCritic_settled python)
  have anomaly := settled_record (by decide) (anomaly_settled python)
  have signals := settled_record (by decide) (qualitySignals_settled python)
  have mode := settled_record (by decide) (modePolicy_settled python)
  have sgr := settled_record (by decide) (sgr_settled python)
  simp only [profilePolicyFields, SettledFields, critic, anomaly, signals, mode, sgr]
  simp [Schema.Settled, validate, python.int_self, python.float_self]

theorem profilePolicy_distinct : (profilePolicyFields.map Prod.fst).Nodup := by decide

end

/-- What pydantic takes, which is no number for `None`, and the error of a model that is refused. -/
structure PolicyLibrary extends Coercions where
  int_null : int .null = none
  float_null : float .null = none
  validationError : JsonDict → PyExc

/-- A `ProfilePolicyPayload`, as its `model_dump` shows it. -/
structure ProfilePolicyPayload (python : PolicyLibrary) where
  modelDump : JsonDict
  valid : validateFields python.toCoercions profilePolicyFields modelDump = some modelDump

def ProfilePolicyPayload.default (python : PolicyLibrary) : ProfilePolicyPayload python where
  modelDump := defaultsOf profilePolicyFields
  valid := validateFields_defaults profilePolicy_distinct (profilePolicy_settled python.toCoercions)

def ProfilePolicyPayload.modelValidate (python : PolicyLibrary) (data : JsonDict) :
    Except PyExc (ProfilePolicyPayload python) :=
  match taken : validateFields python.toCoercions profilePolicyFields data with
  | none => .error (python.validationError data)
  | some held =>
    .ok ⟨held, validateFields_held profilePolicy_distinct (profilePolicy_settled python.toCoercions) taken⟩

def numberOf : Json → Option Rat
  | .bool value => some (if value then 1 else 0)
  | .int value => some value
  | .float value => some value
  | _ => none

/-- `sorted(set(items))`: strings are compared with strings, numbers with numbers, and nothing else with anything. -/
def sortedSet (items : List Json) : Except PyExc (List Json) :=
  if items.any Json.unhashable then .error (.exception "unhashable type")
  else
    match items.mapM Json.asText, items.mapM numberOf with
    | some texts, _ => .ok (texts.toFinset.sort.map .str)
    | none, some numbers =>
      .ok (numbers.toFinset.sort.filterMap fun number => items.find? fun item => numberOf item = some number)
    | none, none =>
      if items.all (· == .null) then .ok [.null] else .error (.exception "\x27<\x27 not supported")

/-- `dict(value or {})` of what a dump has under a key: a dict, or nothing. -/
def fieldsAt (data : JsonDict) (key : String) : JsonDict :=
  match JsonDict.get? data key with
  | some (.obj fields) => fields
  | _ => []

/-- `list(value or [])` of what a mode policy has under a key: a list, or nothing. -/
def itemsAt (merged : JsonDict) (key : String) : List Json :=
  match JsonDict.get? merged key with
  | some (.arr items) => items
  | _ => []

def modeStep (merged : JsonDict) (subKey : String) : Json → Except PyExc (Option Json)
  | .arr subVal => (sortedSet (itemsAt merged subKey ++ subVal)).map fun union => some (.arr union)
  | subVal => .ok (some subVal)

def policyStep (data : JsonDict) (key : String) : Json → Except PyExc (Option Json)
  | .null => .ok none
  | .obj value =>
    if key = "tool_allowlist" then .ok (some (.obj ((fieldsAt data key).update value)))
    else if key = "tool_risk" then .ok (some (.obj ((fieldsAt data key).update value)))
    else if key = "mode_policy" then
      (JsonDict.mergeWith modeStep (fieldsAt data key) value).map fun merged => some (.obj merged)
    else if key ∈ ["trace_critic", "anomaly", "quality_signals"] then
      .ok (some (.obj ((fieldsAt data key).update value)))
    else .ok (some (.obj value))
  | value => .ok (some value)

def mergeProfilePolicy (python : PolicyLibrary) (existing : ProfilePolicyPayload python) (patch : JsonDict) :
    Except PyExc (ProfilePolicyPayload python) := do
  let data ← JsonDict.mergeWith policyStep existing.modelDump patch
  ProfilePolicyPayload.modelValidate python data

end CysAgi.Catalog
