import CysAgi.Base.Effect
import CysAgi.Workers.Models

namespace CysAgi

open Py

def defaultProfileId : String := "cybersec-soc"

inductive BoundTool where
  /-- Through the tool gateway, bound to one sandbox and one job. -/
  | gateway (name sandboxId persona jobId correlationId : String)
  | registry (name : String)
  | loadSkill (skills : List String) (persona jobId : String)
  deriving DecidableEq

def BoundTool.name : BoundTool → String
  | .gateway name .. => name
  | .registry name => name
  | .loadSkill .. => "load_skill"

structure ToolRegistry where
  names : List String
  allowlist : String → Option (List String) := fun _ => none

namespace ToolRegistry

def get (tools : ToolRegistry) (name : String) : Except PyExc String :=
  if name ∈ tools.names then .ok name else .error (.exception s!"Unknown tool: {name}")

def filterToolsForProfile (tools : ToolRegistry) (names : List String) (profileId : String) :
    List String :=
  match tools.allowlist profileId with
  | none => names
  | some allowed => names.filter (· ∈ allowed)

def resolve (tools : ToolRegistry) (names : List String) (profileId : String := defaultProfileId) :
    Except PyExc (List BoundTool) :=
  (tools.filterToolsForProfile names profileId).mapM fun name => do
    return .registry (← tools.get name)

end ToolRegistry

def requireSandbox (sandboxId : String) : Except PyExc Unit :=
  if sandboxId = "" ∨ sandboxId = "host" then
    .error (.exception "Tool requires sandbox context — denied on host")
  else .ok ()

def McpToolRegistry.resolve (tools : ToolRegistry) (names : List String)
    (sandboxId persona jobId correlationId : String) : Except PyExc (List BoundTool) := do
  requireSandbox sandboxId
  names.mapM fun name => do
    return .gateway (← tools.get name) sandboxId persona jobId correlationId

theorem ToolRegistry.resolve_registry {tools : ToolRegistry} {names : List String}
    {profileId : String} {bound : List BoundTool} (done : tools.resolve names profileId = .ok bound) :
    ∀ tool ∈ bound, ∃ name, tool = .registry name := by
  refine mapM_all (P := fun tool => ∃ name, tool = .registry name) ?_ done
  intro name tool found
  obtain ⟨known, -, made⟩ := except_bind_ok.mp found
  cases made
  exact ⟨known, rfl⟩

theorem McpToolRegistry.resolve_gateway {tools : ToolRegistry} {names : List String}
    {sandboxId persona jobId correlationId : String} {bound : List BoundTool}
    (done : McpToolRegistry.resolve tools names sandboxId persona jobId correlationId = .ok bound) :
    ∀ tool ∈ bound, ∃ name, tool = .gateway name sandboxId persona jobId correlationId := by
  obtain ⟨_, -, each⟩ := except_bind_ok.mp done
  refine mapM_all (P := fun tool => ∃ name, tool = .gateway name sandboxId persona jobId correlationId) ?_ each
  intro name tool found
  obtain ⟨known, -, made⟩ := except_bind_ok.mp found
  cases made
  exact ⟨known, rfl⟩

end CysAgi
