import CysAgi.Base.Json
import CysAgi.Base.Effect
import CysAgi.Base.Transition
import CysAgi.Base.Deferral
import CysAgi.Base.Overwrite
import CysAgi.Base.Dispatch
import CysAgi.Base.Listing
import CysAgi.Base.Streak
import CysAgi.Base.Readable
import CysAgi.Base.JsonEscape
import CysAgi.Base.JsonText
import CysAgi.Base.JsonPath
import CysAgi.Workers.Models
import CysAgi.Workers.JobStore
import CysAgi.Workers.PostgresJobStore
import CysAgi.Workers.JobStoresAgree
import CysAgi.Workers.JobBudget
import CysAgi.Budget.Delegation
import CysAgi.Memory.InvestigationState
import CysAgi.Memory.PostgresStore
import CysAgi.Memory.LostUpdates
import CysAgi.Queue.JobQueue
import CysAgi.Queue.ExactlyOnce
import CysAgi.Queue.KafkaJobQueue
import CysAgi.Queue.KafkaStranding
import CysAgi.Queue.PersonaScoped
import CysAgi.Bus.Transport
import CysAgi.Bus.OnceInProcess
import CysAgi.Runtime.World
import CysAgi.Runtime.SgrPolicy
import CysAgi.Hitl.Pause
import CysAgi.Hitl.Resume
import CysAgi.Hitl.SecurityMiddleware
import CysAgi.Runtime.Agent
import CysAgi.Bus.SecureAgentBus
import CysAgi.Bus.ControlPlane
import CysAgi.Bus.SendHistory
import CysAgi.Bus.SendReceive
import CysAgi.Bus.Stripping
import CysAgi.Hitl.ApprovalBinding
import CysAgi.Hitl.FailClosed
import CysAgi.Hitl.SingleUse
import CysAgi.Budget.ToolCalls
import CysAgi.Hitl.OneSubmission
import CysAgi.Hitl.Stranding
import CysAgi.Workers.RunWorkerJob
import CysAgi.Workers.Execution
import CysAgi.Bus.Listening
import CysAgi.Workers.Orchestrator
import CysAgi.Workers.PersonaMarked
import CysAgi.Workers.CleanUp
import CysAgi.Hitl.PauseSurvival
import CysAgi.Bus.AtomicFinding
import CysAgi.Bus.ListenerIndependence
import CysAgi.Workers.ErrorResults
import CysAgi.Hitl.ResumedFinish
import CysAgi.Workers.TerminalRecorded
import CysAgi.Workers.SequentialChains
import CysAgi.Workers.ChainSystem
import CysAgi.Workers.ChainOrder
import CysAgi.Hitl.Confinement
import CysAgi.Gateway.InvokeTool
import CysAgi.Gateway.McpTools
import CysAgi.Gateway.ChainDepth
import CysAgi.Planning.PlanInvestigation
import CysAgi.Planning.ProgressKept
import CysAgi.Base.Text
import CysAgi.Security.PromptContext
import CysAgi.Security.InputSanitizer
import CysAgi.Security.SanitizePayload
import CysAgi.Base.Occurrences
import CysAgi.Base.Search
import CysAgi.Base.JsonChunks
import CysAgi.Base.EscapedWords
import CysAgi.Security.ContentDelimiters
import CysAgi.Base.Ranking
import CysAgi.Rag.Retrieve
import CysAgi.Rag.Noninterference
import CysAgi.Memory.Checksum
import CysAgi.Catalog.Models
import CysAgi.Catalog.InMemory
import CysAgi.Catalog.Postgres
import CysAgi.Catalog.WriteGate
import CysAgi.Catalog.GateAtomic
import CysAgi.Catalog.Requests
import CysAgi.Catalog.LoadSkill
import CysAgi.Catalog.ApprovedSkills
import CysAgi.Catalog.PromptDigest
import CysAgi.Base.Learning
import CysAgi.Catalog.Quality
import CysAgi.Catalog.QualityKept
import CysAgi.Runs.Models
import CysAgi.Runs.ModePolicy
import CysAgi.Runs.SpawnBroker
import CysAgi.Runtime.ToolStack
import CysAgi.Runtime.CallableTools
import CysAgi.Runs.SpawnChain
import CysAgi.Runs.RunState
import CysAgi.Runs.RunStep
import CysAgi.Runs.ManageRun
import CysAgi.Runs.RunHistory
import CysAgi.Runs.PlanApproval
import CysAgi.Runs.ModeEnforced
import CysAgi.Base.Selection
import CysAgi.Catalog.ActivePlan
import CysAgi.Catalog.ProfileIsolation
import CysAgi.Catalog.HybridRegistry
import CysAgi.Catalog.UpdateFrame
import CysAgi.Ingress.EventRouter
import CysAgi.Ingress.DispatchEvent
import CysAgi.Ingress.DispatchAgree
import CysAgi.Ingress.EventIngress
import CysAgi.Ingress.NothingDropped
import CysAgi.Workers.InvestigationKey
import CysAgi.Runtime.ScopeCoercion
import CysAgi.Runtime.SgrTurns
import CysAgi.Base.Iteration
import CysAgi.Runs.CriticLoop
import CysAgi.Runs.TraceCritic
import CysAgi.Runs.PlanDelta
import CysAgi.Memory.QueryBest
import CysAgi.Planning.UsablePlan
import CysAgi.Base.FirstOccurrence
import CysAgi.Ingress.RoutingOrder
import CysAgi.Ingress.ControlNotified
import CysAgi.Workers.EffectiveBudget
import CysAgi.Runs.ReadOnlyModes
import CysAgi.Base.Packing
import CysAgi.Memory.PromptFormat
import CysAgi.Bus.BreakerProbes
import CysAgi.Bus.RejectsOnly
import CysAgi.Base.SlidingWindow
import CysAgi.Security.RateLimit
import CysAgi.Security.RedisRateLimit
import CysAgi.Base.Dropping
import CysAgi.Runs.MessageTrim
import CysAgi.Runtime.CoercionStable
import CysAgi.Runtime.BlockedGlobs
import CysAgi.Base.Averages
import CysAgi.Catalog.MatchAverage
import CysAgi.Catalog.PersonaRates
import CysAgi.Catalog.RatesInRange
import CysAgi.Catalog.MappingRoundTrip
import CysAgi.Base.Grouping
import CysAgi.Base.Splitting
import CysAgi.Rag.ChunkDocument
import CysAgi.Security.SensitiveKeys
import CysAgi.Security.ToolCallParameters
import CysAgi.Scripts.GateCheck
import CysAgi.Workers.Daemon
import CysAgi.Base.PosixPath
import CysAgi.Base.WordRuns
import CysAgi.Base.Padding
import CysAgi.Runs.Attachments
import CysAgi.Workers.K8sSandbox
import CysAgi.Hitl.SessionIds
import CysAgi.Runs.SgrProgress
import CysAgi.Ingress.SiemRoundTrip
import CysAgi.ControlPlane.StatusStores
import CysAgi.Base.Substitute
import CysAgi.Base.RunReplacement
import CysAgi.Base.RepeatedRuns
import CysAgi.Security.Normalization
import CysAgi.Security.Confusables
import CysAgi.Security.NormalizeInput
import CysAgi.Hitl.HitlPolicy
import CysAgi.Base.Schema
import CysAgi.Catalog.PolicyMerge
import CysAgi.Catalog.ModeTools
import CysAgi.Catalog.PolicyFrame
import CysAgi.Catalog.FreshPolicy
import CysAgi.Catalog.PackMerge
import CysAgi.Base.Cursor
import CysAgi.Base.JsonDecode
import CysAgi.Base.JsonRoundTrip
import CysAgi.Base.EventStream
import CysAgi.ControlPlane.StatusStream
import CysAgi.Migrations.ApplyMigrations
import CysAgi.Base.Retention
import CysAgi.Rag.Pipeline
import CysAgi.Security.AgentMonitor
import CysAgi.Base.Onion
import CysAgi.Runtime.ModelCall
import CysAgi.Runtime.PromptScreening
import CysAgi.Runtime.GuardedCalls
import CysAgi.Scripts.NormalizeSarif
import CysAgi.Queue.RedisWire
import CysAgi.Memory.WriteRead
import CysAgi.Base.Broadcast
import CysAgi.ControlPlane.LiveFeed
import CysAgi.Security.BearerAuth
import CysAgi.Base.JsonReading
import CysAgi.Runs.StructuredOutput
import CysAgi.Base.Lines
import CysAgi.Runtime.ReplyText
