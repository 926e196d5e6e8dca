import AgentRuntime.Library.Json
import AgentRuntime.Library.Table

/-!
# The durable records of the runtime

The rows of the one SQLite file that `SQLiteRunStore`, `SQLiteWorkflowStore` and
`SQLiteMemoryStore` share, the enumerations they use, and the `Database` that holds the tables.
Identifiers, tokens and timestamps are texts, ordered as SQLite orders them. A JSON text column
holds the value the text encodes; `state_json` holds the serialized part of a runtime state, since
the domain and the schema version of a state are columns of their own.

Not modelled: the `input_message` column, which is recomputed from `input_json` on every write and
read only for rows older than `input_json`, and the autoincrement ids of the event tables, which
are the positions in the append order.
-/

set_option autoImplicit false
set_option relaxedAutoImplicit false

namespace AgentRuntime.Store

open Library

/-! ### Runtime states -/

/-- One entry of a state's execution trace. -/
structure TraceEvent where
  event : String
  reason : String
  payload : Payload
  timestamp : String

/-- The serialized fields of a runtime state: the thread, the trace and the domain's own fields. -/
structure StateJson where
  threadId : String
  executionTrace : List TraceEvent
  fields : Payload

/-- A runtime state: its serialized fields and the class attributes that route it. -/
structure RuntimeState extends StateJson where
  domainId : String
  schemaVersion : String

/-- The resumable thread projection of a state: its run-scoped trace is reset. -/
def projectThreadCheckpointState (state : RuntimeState) : RuntimeState :=
  { state with executionTrace := [] }

/-- Identity and permissions captured when a Run is created. -/
structure ExecutionAuthority where
  tenantId : String
  subjectId : String
  permissions : List String

/-! ### Runs -/

/-- `RunStatus`. -/
inductive RunStatus where
  | queued
  | running
  | completed
  | failed
  | cancelled
  deriving DecidableEq

namespace RunStatus

def isTerminal : RunStatus → Bool
  | completed | failed | cancelled => true
  | queued | running => false

def text : RunStatus → String
  | queued => "queued"
  | running => "running"
  | completed => "completed"
  | failed => "failed"
  | cancelled => "cancelled"

end RunStatus

/-- `RunLeaseRecoveryReason`. -/
inductive RunLeaseRecoveryReason where
  | leaseExpired
  | legacyUnleased
  deriving DecidableEq

def RunLeaseRecoveryReason.text : RunLeaseRecoveryReason → String
  | leaseExpired => "lease_expired"
  | legacyUnleased => "legacy_unleased"

/-- `RunCommitOutcome`. -/
inductive RunCommitOutcome where
  | committed
  | cancelRequested
  | checkpointConflict
  | leaseLost
  | alreadyTerminal
  | notEligible
  deriving DecidableEq

/-- The columns of a `runs` row other than its primary key. -/
structure RunRow where
  tenantId : String
  executionAuthority : Option ExecutionAuthority
  threadId : String
  agentId : String
  agentVersion : String
  domainId : String
  schemaVersion : String
  status : RunStatus
  input : Payload
  stateJson : Option StateJson
  outputMessage : Option String
  validationErrors : List String
  errorCode : Option String
  error : Option String
  attempt : Int
  cancelRequested : Bool
  clientRequestId : Option String
  createdAt : String
  updatedAt : String
  startedAt : Option String
  completedAt : Option String
  leaseOwnerId : Option String
  leaseToken : Option String
  leaseHeartbeatAt : Option Int
  leaseExpiresAt : Option Int
  checkpointBaseRevision : Option Nat

/-- `RunRecord`: a Run as the callers of the store hold it. -/
structure RunRecord where
  runId : String
  tenantId : String
  executionAuthority : Option ExecutionAuthority
  threadId : String
  agentId : String
  agentVersion : String
  domainId : String
  schemaVersion : String
  status : RunStatus
  input : Payload
  state : Option RuntimeState
  outputMessage : Option String
  validationErrors : List String
  errorCode : Option String
  error : Option String
  attempt : Int
  cancelRequested : Bool
  clientRequestId : Option String
  createdAt : String
  updatedAt : String
  startedAt : Option String
  completedAt : Option String
  leaseOwnerId : Option String
  leaseToken : Option String
  leaseHeartbeatAt : Option Int
  leaseExpiresAt : Option Int
  checkpointBaseRevision : Option Nat

/-- The record `RuntimeManager.submit` builds for a request; the other fields have their
defaults. -/
def submittedRun (runId tenantId threadId agentId agentVersion domainId schemaVersion : String)
    (input : Payload) (state : Option RuntimeState) (authority : Option ExecutionAuthority)
    (clientRequestId : Option String) (createdAt updatedAt : String) : RunRecord where
  runId := runId
  tenantId := tenantId
  executionAuthority := authority
  threadId := threadId
  agentId := agentId
  agentVersion := agentVersion
  domainId := domainId
  schemaVersion := schemaVersion
  status := .queued
  input := input
  state := state
  outputMessage := none
  validationErrors := []
  errorCode := none
  error := none
  attempt := 0
  cancelRequested := false
  clientRequestId := clientRequestId
  createdAt := createdAt
  updatedAt := updatedAt
  startedAt := none
  completedAt := none
  leaseOwnerId := none
  leaseToken := none
  leaseHeartbeatAt := none
  leaseExpiresAt := none
  checkpointBaseRevision := none

/-- `_run_values`: the columns written for a record. -/
def runValues (run : RunRecord) : RunRow where
  tenantId := run.tenantId
  executionAuthority := run.executionAuthority
  threadId := run.threadId
  agentId := run.agentId
  agentVersion := run.agentVersion
  domainId := run.domainId
  schemaVersion := run.schemaVersion
  status := run.status
  input := run.input
  stateJson := run.state.map RuntimeState.toStateJson
  outputMessage := run.outputMessage
  validationErrors := run.validationErrors
  errorCode := run.errorCode
  error := run.error
  attempt := run.attempt
  cancelRequested := run.cancelRequested
  clientRequestId := run.clientRequestId
  createdAt := run.createdAt
  updatedAt := run.updatedAt
  startedAt := run.startedAt
  completedAt := run.completedAt
  leaseOwnerId := run.leaseOwnerId
  leaseToken := run.leaseToken
  leaseHeartbeatAt := run.leaseHeartbeatAt
  leaseExpiresAt := run.leaseExpiresAt
  checkpointBaseRevision := run.checkpointBaseRevision

/-- `_row_to_run`: the record read back from a row, when the registry parses its stored state into
the state class of the row's domain and schema. `StateRegistry.rowToRun` says when it does not. -/
def rowToRun (runId : String) (row : RunRow) : RunRecord where
  runId := runId
  tenantId := row.tenantId
  executionAuthority := row.executionAuthority
  threadId := row.threadId
  agentId := row.agentId
  agentVersion := row.agentVersion
  domainId := row.domainId
  schemaVersion := row.schemaVersion
  status := row.status
  input := row.input
  state := row.stateJson.map fun body ↦
    { toStateJson := body, domainId := row.domainId, schemaVersion := row.schemaVersion }
  outputMessage := row.outputMessage
  validationErrors := row.validationErrors
  errorCode := row.errorCode
  error := row.error
  attempt := row.attempt
  cancelRequested := row.cancelRequested
  clientRequestId := row.clientRequestId
  createdAt := row.createdAt
  updatedAt := row.updatedAt
  startedAt := row.startedAt
  completedAt := row.completedAt
  leaseOwnerId := row.leaseOwnerId
  leaseToken := row.leaseToken
  leaseHeartbeatAt := row.leaseHeartbeatAt
  leaseExpiresAt := row.leaseExpiresAt
  checkpointBaseRevision := row.checkpointBaseRevision

/-- How `parse_state` rejects a stored state: a `KeyError` or a `ValidationError`. -/
inductive ParseFailure where
  | unknownSchema (domainId schemaVersion : String)
  | invalid

/-- What a registry knows of stored states: the domains and schema versions that it has a state
class for, and the states that each class accepts. -/
abbrev StateRegistry : Type := String → String → Option (StateJson → Bool)

namespace StateRegistry

variable (registry : StateRegistry)

/-- `parse_state`. -/
def parseState (domainId schemaVersion : String) (payload : StateJson) :
    Except ParseFailure RuntimeState :=
  match registry domainId schemaVersion with
  | none => .error (.unknownSchema domainId schemaVersion)
  | some accepts =>
    if accepts payload then
      .ok { toStateJson := payload, domainId := domainId, schemaVersion := schemaVersion }
    else .error .invalid

/-- `_row_to_run` with the registry of the store. -/
def rowToRun (runId : String) (row : RunRow) : Except ParseFailure RunRecord :=
  match row.stateJson with
  | none => .ok (Store.rowToRun runId row)
  | some body =>
    match registry.parseState row.domainId row.schemaVersion body with
    | .error failure => .error failure
    | .ok state => .ok { Store.rowToRun runId row with state := some state }

/-- How the registry rejects a state that a row had. -/
def rejection (state : RuntimeState) : Option ParseFailure :=
  match registry.parseState state.domainId state.schemaVersion state.toStateJson with
  | .ok _ => none
  | .error failure => some failure

/-- The registry rejects a row when it rejects the state that the row had; otherwise it reads the
record. -/
theorem rowToRun_eq (runId : String) (row : RunRow) :
    registry.rowToRun runId row =
      match (Store.rowToRun runId row).state.bind registry.rejection with
      | some failure => .error failure
      | none => .ok (Store.rowToRun runId row) := by
  unfold rowToRun
  cases hbody : row.stateJson with
  | none => simp [Store.rowToRun, hbody]
  | some body =>
    have hstate : (Store.rowToRun runId row).state = some
        { toStateJson := body, domainId := row.domainId, schemaVersion := row.schemaVersion } := by
      simp [Store.rowToRun, hbody]
    rw [hstate, Option.bind_some]
    unfold rejection parseState
    cases registry row.domainId row.schemaVersion with
    | none => rfl
    | some accepts =>
      dsimp only
      by_cases haccepts : accepts body = true
      · rw [if_pos haccepts]
        dsimp only
        rw [← hstate]
      · rw [if_neg haccepts]

end StateRegistry

/-- One row of `run_events` or `workflow_events`. -/
structure EventRow where
  runId : String
  sequence : Nat
  eventType : String
  payload : Payload
  createdAt : String

/-- One row of `thread_states`: the checkpoint of a thread. -/
structure ThreadStateRow where
  domainId : String
  schemaVersion : String
  stateJson : StateJson
  updatedAt : String
  revision : Nat

/-! ### Workflow executions, steps and external actions -/

/-- `WorkflowStatus`. -/
inductive WorkflowStatus where
  | pending
  | running
  | ready
  | blocked
  | failed
  deriving DecidableEq

namespace WorkflowStatus

def isTerminal : WorkflowStatus → Bool
  | ready | blocked | failed => true
  | pending | running => false

def text : WorkflowStatus → String
  | pending => "pending"
  | running => "running"
  | ready => "ready"
  | blocked => "blocked"
  | failed => "failed"

end WorkflowStatus

/-- `ToolCallStatus`. -/
inductive ToolCallStatus where
  | pending
  | running
  | completed
  | failed
  deriving DecidableEq

def ToolCallStatus.text : ToolCallStatus → String
  | pending => "pending"
  | running => "running"
  | completed => "completed"
  | failed => "failed"

/-- `ExternalActionStatus`. -/
inductive ExternalActionStatus where
  | prepared
  | dispatching
  | succeeded
  | failed
  | outcomeUnknown
  deriving DecidableEq

namespace ExternalActionStatus

def isTerminal : ExternalActionStatus → Bool
  | succeeded | failed | outcomeUnknown => true
  | prepared | dispatching => false

def text : ExternalActionStatus → String
  | prepared => "prepared"
  | dispatching => "dispatching"
  | succeeded => "succeeded"
  | failed => "failed"
  | outcomeUnknown => "outcome_unknown"

end ExternalActionStatus

/-- `ToolRetryMode`, under its store-facing name. -/
inductive ExternalActionRetryMode where
  | safe
  | providerIdempotent
  | unsafeRetry
  deriving DecidableEq

def ExternalActionRetryMode.text : ExternalActionRetryMode → String
  | safe => "safe"
  | providerIdempotent => "provider_idempotent"
  | unsafeRetry => "unsafe"

/-- The columns of a `workflow_executions` row other than its primary key. -/
structure ExecutionRow where
  workflowType : String
  inputHash : String
  status : WorkflowStatus
  resultJson : Option Json
  errorCode : Option String
  createdAt : String
  updatedAt : String
  completedAt : Option String

/-- The columns of a `tool_calls` row other than its run and step. -/
structure ToolCallRow where
  callId : String
  toolName : String
  inputHash : String
  status : ToolCallStatus
  attemptCount : Nat
  attemptToken : Option String
  resultJson : Option Json
  errorCode : Option String
  createdAt : String
  updatedAt : String

/-- The columns of an `external_actions` row other than its run and step. -/
structure ExternalActionRow where
  actionId : String
  tenantId : String
  subjectId : String
  workflowType : String
  toolName : String
  providerName : String
  providerIdentity : String
  inputHash : String
  argumentsJson : Json
  retryMode : ExternalActionRetryMode
  idempotencyKey : String
  status : ExternalActionStatus
  dispatchCount : Nat
  dispatchToken : Option String
  providerReference : Option String
  resultJson : Option Json
  errorCode : Option String
  createdAt : String
  updatedAt : String
  dispatchedAt : Option String
  finalizedAt : Option String

/-! ### Governed memory -/

/-- `MemoryKind`. -/
inductive MemoryKind where
  | preference
  | fact
  deriving DecidableEq

def MemoryKind.text : MemoryKind → String
  | preference => "preference"
  | fact => "fact"

/-- `MemoryStatus`. -/
inductive MemoryStatus where
  | active
  | superseded
  | deleted
  deriving DecidableEq

/-- The columns of a `memory_records` row other than its primary key. -/
structure MemoryRow where
  tenantId : String
  subjectId : String
  domainId : String
  kind : MemoryKind
  key : String
  value : Json
  status : MemoryStatus
  sourceRunId : Option String
  sourceThreadId : Option String
  confidence : Rat
  version : Nat
  createdAt : String
  updatedAt : String
  expiresAt : Option String

/-- One row of `memory_events`. -/
structure MemoryEventRow where
  tenantId : String
  subjectId : String
  eventType : String
  memoryId : Option String
  actorSubjectId : String
  sourceRunId : Option String
  payload : Payload
  createdAt : String

/-- `RetrievedMemory`: a record copied into a snapshot. -/
structure RetrievedMemory where
  memoryId : String
  kind : MemoryKind
  key : String
  value : Json
  sourceRunId : Option String
  sourceThreadId : Option String
  confidence : Rat
  version : Nat
  createdAt : String
  expiresAt : Option String
  deriving DecidableEq

/-- `MemorySnapshot`. -/
structure MemorySnapshot where
  runId : String
  tenantId : String
  subjectId : String
  domainId : String
  memories : List RetrievedMemory
  createdAt : String
  deriving DecidableEq

/-- The columns of a `run_memory_snapshots` row other than its primary key. -/
structure MemorySnapshotRow where
  tenantId : String
  subjectId : String
  domainId : String
  memoriesJson : Json
  createdAt : String

/-! ### Quarantine resolution -/

/-- `QuarantineResolutionKind`. -/
inductive QuarantineResolutionKind where
  | terminalizeFailedPreservingCheckpoint
  deriving DecidableEq

def QuarantineResolutionKind.text : QuarantineResolutionKind → String
  | terminalizeFailedPreservingCheckpoint => "terminalize_failed_preserving_checkpoint"

/-- `QuarantineResolutionTarget`: exactly one of a Run id or an Action id. -/
inductive QuarantineResolutionTarget where
  | run (runId : String)
  | action (actionId : String)
  deriving DecidableEq

namespace QuarantineResolutionTarget

def kindText : QuarantineResolutionTarget → String
  | run _ => "run"
  | action _ => "action"

def identifier : QuarantineResolutionTarget → String
  | run runId => runId
  | action actionId => actionId

end QuarantineResolutionTarget

/-- `ExternalActionStatusSummary`; no persisted status is unrecognized, since the column is
typed. -/
structure ExternalActionStatusSummary where
  total : Nat
  prepared : Nat
  dispatching : Nat
  succeeded : Nat
  failed : Nat
  outcomeUnknown : Nat
  unrecognized : Nat

/-- `QuarantineThreadReference`. -/
structure QuarantineThreadReference where
  tenantId : String
  referenceKind : String
  reference : String

/-- `QuarantineResolutionPlan`. -/
structure QuarantineResolutionPlan where
  target : QuarantineResolutionTarget
  resolution : QuarantineResolutionKind
  eligible : Bool
  planId : Option String
  thread : QuarantineThreadReference
  currentRunStatus : RunStatus
  currentQuarantineCode : Option String
  cancelRequested : Bool
  checkpointBaseRevision : Option Nat
  observedCheckpointRevision : Nat
  externalActions : ExternalActionStatusSummary
  workflowReconciliationRequired : Bool
  plannedRunTransition : String
  newAuditEvents : List String
  threadDisposition : String
  ineligibilityReasons : List String

/-- `QuarantineResolutionCommit`. -/
structure QuarantineResolutionCommit where
  plan : QuarantineResolutionPlan
  reused : Bool
  workflowEvidenceFingerprint : String
  checkpointEvidenceFingerprint : String

/-! ### Exceptions of the stores -/

/-- The exceptions a store method raises. A raised exception rolls its transaction back. -/
inductive StoreError where
  | keyError (message : String)
  | valueError (message : String)
  | runtimeError (message : String)
  | integrityError (constraint : String)
  | runLeaseLost (message : String)
  | threadStateConflict (message : String)
  | checkpointRevisionConflict (expected : Option Nat) (observed : Nat)
  | staleAttempt (message : String)
  | staleDispatch (message : String)
  | quarantineStalePlan (currentPlan : QuarantineResolutionPlan)
  | quarantineEvidenceIncomplete (message : String)

/-- `repr` of a text without control characters. -/
def pyRepr (text : String) : String :=
  let apostrophe := Char.ofNat 39
  let quotation := Char.ofNat 34
  let quote :=
    if text.toList.contains apostrophe && !text.toList.contains quotation then quotation
    else apostrophe
  let escape (char : Char) : List Char :=
    if char = quote ∨ char = Char.ofNat 92 then [Char.ofNat 92, char] else [char]
  String.ofList ([quote] ++ text.toList.flatMap escape ++ [quote])

/-- An optional integer inside a formatted message. -/
def formatOption : Option Nat → String
  | none => "None"
  | some value => toString value

/-! ### The database -/

/-- The tables of the shared SQLite file. -/
structure Database where
  runs : Table String RunRow
  runEvents : List EventRow
  threadStates : Table (String × String) ThreadStateRow
  executions : Table String ExecutionRow
  toolCalls : Table (String × String) ToolCallRow
  externalActions : Table (String × String) ExternalActionRow
  workflowEvents : List EventRow
  memoryRecords : Table String MemoryRow
  memoryEvents : List MemoryEventRow
  memorySnapshots : Table String MemorySnapshotRow

/-- The file as `initialize` creates it. -/
def Database.empty : Database where
  runs := .empty
  runEvents := []
  threadStates := .empty
  executions := .empty
  toolCalls := .empty
  externalActions := .empty
  workflowEvents := []
  memoryRecords := .empty
  memoryEvents := []
  memorySnapshots := .empty

/-- What one call reads from outside the database: the store's lease clock, the successive values
of `utc_now` and the successive `uuid4().hex` texts. -/
structure Reading where
  nowMs : Int
  utcNow : Nat → String
  uuid : Nat → String

end AgentRuntime.Store
