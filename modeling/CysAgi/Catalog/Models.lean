import CysAgi.Base.Json

open Py

namespace CysAgi.Catalog

inductive CatalogSource where
  | filesystem
  | api
  | seed
  deriving DecidableEq

inductive StagingStatus where
  | draft
  | vetted
  | builtin
  deriving DecidableEq

def StagingStatus.value : StagingStatus → String
  | .draft => "draft"
  | .vetted => "vetted"
  | .builtin => "builtin"

structure PersonaQuality where
  empiricalTrust : Rat := 3 / 4
  criticPassRate : Rat := 0
  traceCriticPassRate : Rat := 0
  hitlRate : Rat := 0
  avgCostUsd : Rat := 0
  jobSuccessRate : Rat := 0
  sampleSize : Int := 0
  lastEvaluatedAt : Option Rat := none
  deriving DecidableEq

structure SkillQuality where
  usageCount : Int := 0
  loadErrors : Int := 0
  deriving DecidableEq

structure PlanQuality where
  matchCount : Int := 0
  falsePositiveRate : Rat := 0
  avgJobsPerEvent : Rat := 0
  deriving DecidableEq

def defaultProfileId : String := "cybersec-soc"

structure AgentCatalogEntry where
  name : String
  description : String := ""
  role : String := "worker"
  outputSchema : Option String := none
  tools : List String := []
  skills : List String := []
  capabilities : List String := []
  hitlTools : List (String × Bool) := []
  trustLevel : String := "internal"
  busRecipients : List String := []
  systemPrompt : String := ""
  systemPromptDigest : String := ""
  profileId : String := defaultProfileId
  version : Int := 1
  versionTag : String := ""
  source : CatalogSource := .filesystem
  enabled : Bool := true
  tags : List String := []
  quality : PersonaQuality := {}
  budgetMaxTokens : Option Int := none
  budgetMaxCostUsd : Option Rat := none
  budgetMaxToolCalls : Option Int := none
  dataClearance : String := "internal"
  deriving DecidableEq

structure SkillCatalogEntry where
  id : String
  profileId : String := defaultProfileId
  name : String := ""
  description : String := ""
  body : String := ""
  contentHash : String := ""
  trustTier : String := "builtin"
  stagingStatus : StagingStatus := .builtin
  enabled : Bool := true
  version : Int := 1
  quality : SkillQuality := {}
  source : CatalogSource := .filesystem
  deriving DecidableEq

structure PlanCatalogEntry where
  id : String
  profileId : String := defaultProfileId
  name : String := ""
  description : String := ""
  rules : List JsonDict := []
  enabled : Bool := true
  active : Bool := false
  version : Int := 1
  quality : PlanQuality := {}
  source : CatalogSource := .filesystem
  deriving DecidableEq

structure McpServerEntry where
  id : String
  url : String
  trustTier : String := "internal"
  allowedTools : List String := []
  enabled : Bool := true
  healthStatus : String := "unknown"
  profileId : String := defaultProfileId
  deriving DecidableEq

end CysAgi.Catalog
