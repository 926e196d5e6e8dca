import AgentRuntime.Library.Json
import AgentRuntime.Library.Table
import AgentRuntime.Store.Records
import AgentRuntime.Store.RunOperations
import AgentRuntime.Store.Quarantine
import AgentRuntime.Store.WorkflowOperations
import AgentRuntime.Store.MemoryOperations
import AgentRuntime.Library.Machine
import AgentRuntime.Library.Program
import AgentRuntime.Library.Discipline
import AgentRuntime.Library.CursorPaging
import AgentRuntime.Store.Calls
import AgentRuntime.Store.RunTransitions
import AgentRuntime.Store.WorkflowTransitions
import AgentRuntime.Store.LedgerFrame
import AgentRuntime.Store.ActionTransitions
import AgentRuntime.Store.ThreadSerialization
import AgentRuntime.Store.CheckpointHistory
import AgentRuntime.Store.EventLog
import AgentRuntime.Store.CheckpointBase
import AgentRuntime.Store.Fencing
import AgentRuntime.Store.ActionLedger
import AgentRuntime.Store.QuarantineHold
import AgentRuntime.Store.PlanEvidence
import AgentRuntime.Store.QuarantineResolution
import AgentRuntime.Store.EvidenceLedger
import AgentRuntime.Store.EvidenceCheck
import AgentRuntime.Store.ActionEvidence
import AgentRuntime.Store.EventOrigins
import AgentRuntime.Store.NumberedLogs
import AgentRuntime.Store.MemoryVersions
import AgentRuntime.Store.MemorySnapshots
import AgentRuntime.Execution.Effects
import AgentRuntime.Execution.Evidence
import AgentRuntime.Execution.Coordinator
import AgentRuntime.Execution.DynamicLoop
import AgentRuntime.Execution.Manager
import AgentRuntime.Execution.System
import AgentRuntime.Execution.DispatchAccounting
import AgentRuntime.Execution.BoundedDispatch
import AgentRuntime.Execution.DefinitiveFailure
import AgentRuntime.Execution.MemoryReplay
import AgentRuntime.Execution.UndisturbedMemory
import AgentRuntime.Execution.EvidenceMirror
import AgentRuntime.Execution.Conduct
import AgentRuntime.Execution.ConductRules
import AgentRuntime.Execution.CoordinatorConduct
import AgentRuntime.Execution.AttemptConduct
import AgentRuntime.Gateway.Submission
import AgentRuntime.Gateway.ActionRuntime
import AgentRuntime.Gateway.ActionProjection
import AgentRuntime.Gateway.ToldOutcome
import AgentRuntime.Gateway.ActionEvents
import AgentRuntime.Api.EventStream
import AgentRuntime.Gateway.SubmissionIdempotency
import AgentRuntime.Travel.DynamicTravelRuntime
import AgentRuntime.Travel.ThreadState
import AgentRuntime.Store.ClientRequests
import AgentRuntime.Store.CommitOutcomes
import AgentRuntime.Store.LedgerIdentity
import AgentRuntime.Store.TenantView
import AgentRuntime.Store.TenantIsolation
import AgentRuntime.Postgres.RunOperations
import AgentRuntime.Postgres.RunStoreAgreement
import AgentRuntime.Postgres.WorkflowOperations
import AgentRuntime.Postgres.WorkflowStoreAgreement
import AgentRuntime.Library.Schedules
import AgentRuntime.Graph.WorkflowDag
import AgentRuntime.Graph.TopologicalOrder
import AgentRuntime.Graph.Descendants
import AgentRuntime.Execution.MirrorRepair
import AgentRuntime.Execution.SuccessRestoration
import AgentRuntime.Execution.WorkerLoop
import AgentRuntime.Execution.WorkerSurvival
import AgentRuntime.Library.Ranking
import AgentRuntime.Travel.FindingReducer
import AgentRuntime.Travel.FindingChoice
import AgentRuntime.Travel.FindingOrder
import AgentRuntime.Travel.FindingReduction
import AgentRuntime.Library.IsoTime
import AgentRuntime.Store.MemoryExpiry
import AgentRuntime.Library.PyText
import AgentRuntime.Providers.HttpExternalAction
import AgentRuntime.Release.Workflow
import AgentRuntime.Providers.HttpClassification
import AgentRuntime.Travel.TravelAgentRuntime
import AgentRuntime.Travel.TurnReply
import AgentRuntime.Release.StepLedger
import AgentRuntime.Release.Calls
import AgentRuntime.Release.PermanentFailure
import AgentRuntime.Execution.CancelOutcome
import AgentRuntime.Execution.AttemptRecords
import AgentRuntime.Execution.AttemptSystem
import AgentRuntime.Execution.EvidenceAcceptance
import AgentRuntime.Execution.CompleteMediation
import AgentRuntime.Execution.StepChain
import AgentRuntime.Providers.TripHold
import AgentRuntime.Providers.ExactlyOnceHold
import AgentRuntime.Store.ActionOrigins
import AgentRuntime.Execution.ServedRuntimes
import AgentRuntime.Execution.HonestAttempts
import AgentRuntime.Execution.AnsweredSuccess
