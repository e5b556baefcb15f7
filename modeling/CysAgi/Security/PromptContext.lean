import CysAgi.Base.Text

open Py

namespace CysAgi

inductive UntrustedSource where
  | user
  | tool
  | agentBus
  | external
  | catalog
  | skill
  | reflexion
  deriving DecidableEq

def UntrustedSource.text : UntrustedSource → String
  | .user => "user"
  | .tool => "tool"
  | .agentBus => "agent_bus"
  | .external => "external"
  | .catalog => "catalog"
  | .skill => "skill"
  | .reflexion => "reflexion"

def untrustedEnd : String := "</untrusted_data>"

def userDataMarker : String := "USER_DATA_TO_PROCESS"

def untrustedHeader (source : UntrustedSource) : String :=
  userDataMarker ++ s!" [source={source.text}]:\n<untrusted_data source=\"{source.text}\">"

def wrapUserData (content : String) (source : UntrustedSource) : String :=
  untrustedHeader source ++ "\n" ++ content ++ "\n" ++ untrustedEnd

def memoryEnd : String := "[/RETRIEVED_INVESTIGATION_MEMORY]"

def wrapInvestigationMemory (content trust : String) : String :=
  "[RETRIEVED_INVESTIGATION_MEMORY source=\"episodic\" trust=\"" ++ trust ++ "\"]\n" ++ content ++ "\n" ++ memoryEnd

end CysAgi
