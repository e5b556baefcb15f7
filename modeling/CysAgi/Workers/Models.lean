import CysAgi.Base.Json

namespace CysAgi

open Py

/-- What the modelled code raises. Everything but `baseException` (task cancellation, a
    keyboard interrupt) is an `Exception` and is caught by `except Exception`. -/
inductive PyExc where
  | jobBudgetExceeded (message : String)
  | securityViolation (message : String)
  | resumeHitlJobError (message : String)
  | graphInterrupt (value : JsonDict)
  | exception (message : String)
  | baseException (message : String)
  deriving DecidableEq

/-- `except Exception` catches it. -/
def PyExc.caught : PyExc → Bool
  | .baseException _ => false
  | _ => true

def PyExc.message : PyExc → String
  | .jobBudgetExceeded message => message
  | .securityViolation message => message
  | .resumeHitlJobError message => message
  | .graphInterrupt _ => "interrupt"
  | .exception message => message
  | .baseException message => message

inductive WorkerJobStatus where
  | pending
  | running
  | awaitingApproval
  | completed
  | failed
  deriving DecidableEq

def WorkerJobStatus.Terminal (status : WorkerJobStatus) : Prop :=
  status = .completed ∨ status = .failed

instance (status : WorkerJobStatus) : Decidable status.Terminal :=
  inferInstanceAs (Decidable (_ ∨ _))

structure PersonaBudget where
  maxTokens : Int
  maxCostUsd : Rat
  maxToolCalls : Int := 50

structure WorkerJob where
  jobId : String
  eventId : String
  persona : String
  playbookId : String := ""
  payload : JsonDict := []
  correlationId : String := ""
  tenantId : String := "default"
  status : WorkerJobStatus := .pending
  sandboxId : String := ""
  feedback : String := ""
  dependsOnPersona : String := ""
  maxTokens : Int := 0
  maxCostUsd : Rat := 0
  maxToolCalls : Int := 0
  deriving DecidableEq

structure SandboxCredentials where
  sandboxId : String
  endpoint : String := ""
  token : String := ""

structure PendingHitlAction where
  jobId : String
  sessionId : String
  persona : String
  toolName : String
  toolArgs : JsonDict := []
  riskLevel : String := ""
  approvalId : String := ""
  deriving DecidableEq

structure JobResumeRequest where
  decision : String
  editedArgs : JsonDict := []
  approvalId : String := ""
  actor : String := "operator"
  deriving DecidableEq

structure RunResult where
  jobId : String
  persona : String
  success : Bool
  finding : JsonDict := []
  error : String := ""
  sandboxId : String := ""
  deriving DecidableEq

def orElse (first second : String) : String := if first = "" then second else first

/-- The key under which a job's completion is recorded and its dependents look it up. -/
def WorkerJob.investigationId (job : WorkerJob) : String := orElse job.correlationId job.eventId

end CysAgi
