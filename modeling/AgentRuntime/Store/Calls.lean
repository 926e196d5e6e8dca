import AgentRuntime.Library.Machine
import AgentRuntime.Store.WorkflowOperations
import AgentRuntime.Store.MemoryOperations

/-!
# The stores as one machine

Every public operation of the three stores is a `Call` with its arguments; `perform` runs it as one
transaction. The stores share one SQLite file, whose write lock serializes transactions, so any
interleaving of any number of workers, API processes and operators is a list of calls, each with the
clock readings and random texts it drew. `storeMachine` folds such a list over the empty file. A
call that raises leaves the database as it was.
-/

set_option autoImplicit false
set_option relaxedAutoImplicit false

namespace AgentRuntime.Store

open Library

/-- The operations of `SQLiteRunStore`. -/
inductive RunCall where
  | createRun (run : RunRecord)
  | createRunWithEvent (run : RunRecord) (eventType : String) (payload : Payload)
  | claimNextRun (ownerId : String) (leaseDurationSeconds : Int)
    (reconciliationPendingCode : Option String)
  | renewRunLease (runId leaseToken : String) (leaseDurationSeconds : Int)
  | expireRunLease (runId leaseToken : String)
  | appendAttemptEvent (runId : String) (leaseToken : Option String) (eventType : String)
    (payload : Payload)
  | appendControlPlaneEvent (runId tenantId eventType : String) (payload : Payload)
  | finalizeNextQueuedCancellation
  | requestCancelAtomically (runId tenantId : String)
  | commitReconciliationPending (runId tenantId leaseToken errorCode error : String)
  | commitCompletedRun (run : RunRecord) (leaseToken : String)
  | commitCheckpointConflict (run : RunRecord) (leaseToken phase : String)
  | quarantineCheckpointConflict (run : RunRecord) (leaseToken phase : String)
  | commitCancelledRun (run : RunRecord) (reason leaseToken : String)
  | commitFailedRun (run : RunRecord) (leaseToken errorCode error : String)
    (tracebackText : Option String) (allowCancelRequested : Bool)
  | applyQuarantineResolution (runId tenantId : String) (target : QuarantineResolutionTarget)
    (resolution : QuarantineResolutionKind)
    (expectedPlanId operatorSubjectId operatorCredentialId : String)
  | planQuarantineResolution (runId tenantId : String) (target : QuarantineResolutionTarget)
    (resolution : QuarantineResolutionKind)
  | verifyQuarantineResolution (commit : QuarantineResolutionCommit)
  | getRunInternal (runId : String)
  | getRunForTenant (runId tenantId : String)
  | getRunByClientRequestId (tenantId clientRequestId : String)
  | listEvents (runId : String) (afterSequence : Nat)
  | listEventsForTenant (runId tenantId : String) (afterSequence : Nat)
  | loadThreadStateSnapshot (threadId tenantId : String) (domainId schemaVersion : Option String)
    (expectedRevision : Option Nat) (requireRevisionMatch : Bool)

/-- What each Run-store operation returns. -/
def RunCall.Reply : RunCall → Type
  | createRun _ => RunRecord
  | createRunWithEvent .. => RunRecord
  | claimNextRun .. => Option RunLeaseClaim
  | renewRunLease .. => Bool
  | expireRunLease .. => Bool
  | appendAttemptEvent .. => EventRow
  | appendControlPlaneEvent .. => EventRow
  | finalizeNextQueuedCancellation => Option RunRecord
  | requestCancelAtomically .. => RunRecord
  | commitReconciliationPending .. => RunCommitOutcome
  | commitCompletedRun .. => RunCommitOutcome × RunRecord
  | commitCheckpointConflict .. => RunCommitOutcome × RunRecord
  | quarantineCheckpointConflict .. => RunCommitOutcome × RunRecord
  | commitCancelledRun .. => RunCommitOutcome × RunRecord
  | commitFailedRun .. => RunCommitOutcome × RunRecord
  | applyQuarantineResolution .. => QuarantineResolutionCommit
  | planQuarantineResolution .. => QuarantineResolutionPlan
  | verifyQuarantineResolution _ => Unit
  | getRunInternal _ => Option RunRecord
  | getRunForTenant .. => Option RunRecord
  | getRunByClientRequestId .. => Option RunRecord
  | listEvents .. => List EventRow
  | listEventsForTenant .. => List EventRow
  | loadThreadStateSnapshot .. => ThreadStateSnapshot

/-- A read inside its own transaction. -/
def reads {α : Type} (db : Database) (value : Except StoreError α) :
    Except StoreError (α × Database) :=
  match value with
  | .error error => .error error
  | .ok reply => .ok (reply, db)

/-- Run one Run-store operation. -/
def RunCall.perform (hasher : Hasher) (db : Database) (reading : Reading) :
    (call : RunCall) → Except StoreError (call.Reply × Database)
  | createRun run => Store.createRun db run
  | createRunWithEvent run eventType payload =>
    Store.createRunWithEvent db reading run eventType payload
  | claimNextRun ownerId duration code => Store.claimNextRun db reading ownerId duration code
  | renewRunLease runId token duration => Store.renewRunLease db reading runId token duration
  | expireRunLease runId token => Store.expireRunLease db reading runId token
  | appendAttemptEvent runId token eventType payload =>
    Store.appendAttemptEvent db reading runId token eventType payload
  | appendControlPlaneEvent runId tenantId eventType payload =>
    Store.appendControlPlaneEvent db reading runId tenantId eventType payload
  | finalizeNextQueuedCancellation => Store.finalizeNextQueuedCancellation db reading
  | requestCancelAtomically runId tenantId =>
    Store.requestCancelAtomically db reading runId tenantId
  | commitReconciliationPending runId tenantId token code error =>
    Store.commitReconciliationPending db reading runId tenantId token code error
  | commitCompletedRun run token => Store.commitCompletedRun db reading run token
  | commitCheckpointConflict run token phase =>
    Store.commitCheckpointConflict db reading run token phase
  | quarantineCheckpointConflict run token phase =>
    Store.quarantineCheckpointConflict db reading run token phase
  | commitCancelledRun run reason token => Store.commitCancelledRun db reading run reason token
  | commitFailedRun run token code error traceback allow =>
    Store.commitFailedRun db reading run token code error traceback allow
  | applyQuarantineResolution runId tenantId target resolution planId subject credential =>
    Store.applyQuarantineResolution hasher db reading runId tenantId target resolution planId
      subject credential
  | planQuarantineResolution runId tenantId target resolution =>
    reads db (Store.planQuarantineResolution hasher db runId tenantId target resolution)
  | verifyQuarantineResolution commit =>
    reads db (Store.verifyQuarantineResolution hasher db commit)
  | getRunInternal runId => reads db (.ok (Store.getRunInternal db runId))
  | getRunForTenant runId tenantId => reads db (.ok (Store.getRunForTenant db runId tenantId))
  | getRunByClientRequestId tenantId clientRequestId =>
    reads db (.ok (Store.getRunByClientRequestId db tenantId clientRequestId))
  | listEvents runId afterSequence =>
    reads db (.ok (Store.listRunEvents db runId afterSequence))
  | listEventsForTenant runId tenantId afterSequence =>
    reads db (.ok (Store.listEventsForTenant db runId tenantId afterSequence))
  | loadThreadStateSnapshot threadId tenantId domainId schemaVersion expected require =>
    reads db (Store.loadThreadStateSnapshot db threadId tenantId domainId schemaVersion expected
      require)

/-- The operations of `SQLiteWorkflowStore`. -/
inductive WorkflowCall where
  | createOrGetExecution (runId workflowType inputHash : String) (leaseToken : Option String)
  | getExecution (runId : String)
  | markRunning (runId : String) (leaseToken : Option String)
  | finalizeReady (runId : String) (resultJson : Json) (leaseToken : Option String)
  | finalizeBlocked (runId : String) (resultJson : Json) (errorCode : String)
    (leaseToken : Option String)
  | finalizeFailed (runId errorCode : String) (leaseToken : Option String)
  | reuseCompletedStep (sourceRunId targetRunId stepId toolName inputHash : String)
    (leaseToken : Option String)
  | claimStep (runId stepId toolName inputHash : String) (maxAttempts : Nat)
    (leaseToken : Option String)
  | completeStep (runId stepId attemptToken : String) (resultJson : Json)
    (leaseToken : Option String)
  | failStep (runId stepId attemptToken errorCode : String) (leaseToken : Option String)
  | recoverInterruptedStep (runId stepId : String) (leaseToken : Option String)
  | getStep (runId stepId : String)
  | listSteps (runId : String)
  | prepareExternalAction (runId stepId toolAttemptToken : String)
    (identity : ExternalActionIdentity) (leaseToken : Option String)
  | beginExternalActionDispatch (runId stepId toolAttemptToken : String)
    (leaseToken : Option String)
  | retryExternalActionDispatch (runId stepId previousDispatchToken toolAttemptToken : String)
    (leaseToken : Option String)
  | finalizeExternalActionSucceeded (runId stepId dispatchToken toolAttemptToken : String)
    (resultJson : Json) (providerReference : String) (errorCode : Option String)
  | finalizeExternalActionFailed (runId stepId dispatchToken toolAttemptToken errorCode : String)
    (providerReference : Option String)
  | finalizeExternalActionOutcomeUnknown
    (runId stepId dispatchToken toolAttemptToken errorCode : String)
    (providerReference : Option String)
  | finalizeExternalActionReconciliationUnknown
    (runId stepId dispatchToken toolAttemptToken errorCode : String)
    (providerReference leaseToken : Option String)
  | finalizeUnsafeInterruptedAction
    (runId stepId dispatchToken toolAttemptToken errorCode : String) (leaseToken : Option String)
  | getExternalAction (runId stepId : String)
  | listExternalActions (runId : String)
  | hasExternalActionRequiringReconciliation (runId : String)
  | appendEvent (runId eventType : String) (payload : Payload) (leaseToken : Option String)
  | listEvents (runId : String) (afterSequence : Nat)

/-- What each workflow-store operation returns. -/
def WorkflowCall.Reply : WorkflowCall → Type
  | createOrGetExecution .. => ExecutionClaimResult
  | getExecution _ => Option ExecutionRow
  | markRunning .. | finalizeReady .. | finalizeBlocked .. | finalizeFailed .. => ExecutionRow
  | reuseCompletedStep .. => StepReuseResult
  | claimStep .. => ClaimResult
  | completeStep .. | failStep .. | recoverInterruptedStep .. => ToolCallRow
  | getStep .. => Option ToolCallRow
  | listSteps _ => List (String × ToolCallRow)
  | prepareExternalAction .. => ExternalActionPrepareResult
  | beginExternalActionDispatch .. | retryExternalActionDispatch .. =>
    ExternalActionDispatchResult
  | finalizeExternalActionSucceeded .. | finalizeExternalActionFailed ..
  | finalizeExternalActionOutcomeUnknown .. | finalizeExternalActionReconciliationUnknown ..
  | finalizeUnsafeInterruptedAction .. => ExternalActionRow
  | getExternalAction .. => Option ExternalActionRow
  | listExternalActions _ => List (String × ExternalActionRow)
  | hasExternalActionRequiringReconciliation _ => Bool
  | appendEvent .. => EventRow
  | listEvents .. => List EventRow

/-- Run one workflow-store operation. -/
def WorkflowCall.perform (db : Database) (reading : Reading) :
    (call : WorkflowCall) → Except StoreError (call.Reply × Database)
  | createOrGetExecution runId workflowType inputHash token =>
    Store.createOrGetExecution db reading runId workflowType inputHash token
  | getExecution runId => reads db (.ok (Store.getExecution db runId))
  | markRunning runId token => Store.markRunning db reading runId token
  | finalizeReady runId result token => Store.finalizeReady db reading runId result token
  | finalizeBlocked runId result code token =>
    Store.finalizeBlocked db reading runId result code token
  | finalizeFailed runId code token => Store.finalizeFailed db reading runId code token
  | reuseCompletedStep source target stepId toolName inputHash token =>
    Store.reuseCompletedStep db reading source target stepId toolName inputHash token
  | claimStep runId stepId toolName inputHash maxAttempts token =>
    Store.claimStep db reading runId stepId toolName inputHash maxAttempts token
  | completeStep runId stepId attempt result token =>
    Store.completeStep db reading runId stepId attempt result token
  | failStep runId stepId attempt code token =>
    Store.failStep db reading runId stepId attempt code token
  | recoverInterruptedStep runId stepId token =>
    Store.recoverInterruptedStep db reading runId stepId token
  | getStep runId stepId => reads db (.ok (Store.getStep db runId stepId))
  | listSteps runId => reads db (.ok (Store.listSteps db runId))
  | prepareExternalAction runId stepId attempt identity token =>
    Store.prepareExternalAction db reading runId stepId attempt identity token
  | beginExternalActionDispatch runId stepId attempt token =>
    Store.beginExternalActionDispatch db reading runId stepId attempt token
  | retryExternalActionDispatch runId stepId previous attempt token =>
    Store.retryExternalActionDispatch db reading runId stepId previous attempt token
  | finalizeExternalActionSucceeded runId stepId dispatch attempt result reference code =>
    Store.finalizeExternalActionSucceeded db reading runId stepId dispatch attempt result reference
      code
  | finalizeExternalActionFailed runId stepId dispatch attempt code reference =>
    Store.finalizeExternalActionFailed db reading runId stepId dispatch attempt code reference
  | finalizeExternalActionOutcomeUnknown runId stepId dispatch attempt code reference =>
    Store.finalizeExternalActionOutcomeUnknown db reading runId stepId dispatch attempt code
      reference
  | finalizeExternalActionReconciliationUnknown runId stepId dispatch attempt code reference
      token =>
    Store.finalizeExternalActionReconciliationUnknown db reading runId stepId dispatch attempt code
      reference token
  | finalizeUnsafeInterruptedAction runId stepId dispatch attempt code token =>
    Store.finalizeUnsafeInterruptedAction db reading runId stepId dispatch attempt code token
  | getExternalAction runId stepId => reads db (.ok (Store.getExternalAction db runId stepId))
  | listExternalActions runId => reads db (.ok (Store.listExternalActions db runId))
  | hasExternalActionRequiringReconciliation runId =>
    reads db (.ok (Store.hasExternalActionRequiringReconciliation db runId))
  | appendEvent runId eventType payload token =>
    Store.appendEvent db reading runId eventType payload token
  | listEvents runId afterSequence => reads db (.ok (Store.listEvents db runId afterSequence))

/-- The operations of `SQLiteMemoryStore` that Runs and the forget route use. -/
inductive MemoryCall where
  | upsert (scope : MemoryScope) (write : MemoryWrite)
    (sourceRunId sourceThreadId actorSubjectId : String)
  | upsertFromRun (leaseToken : String) (scope : MemoryScope) (write : MemoryWrite)
    (sourceRunId sourceThreadId actorSubjectId : String)
  | forgetMemory (memoryId tenantId subjectId actorSubjectId : String)
  | getOrCreateRunSnapshot (runId : String) (scope : MemoryScope)
    (allowedKeys : Option (List String))
  | getOrCreateRunSnapshotForRun (leaseToken runId : String) (scope : MemoryScope)
    (allowedKeys : Option (List String))
  | listEventsForRun (runId tenantId subjectId : String)

/-- What each memory-store operation returns. -/
def MemoryCall.Reply : MemoryCall → Type
  | upsert .. | upsertFromRun .. => MemoryMutationResult
  | forgetMemory .. => String × MemoryRow
  | getOrCreateRunSnapshot .. | getOrCreateRunSnapshotForRun .. => MemorySnapshot
  | listEventsForRun .. => List (Nat × MemoryEventRow)

/-- Run one memory-store operation. -/
def MemoryCall.perform (db : Database) (reading : Reading) :
    (call : MemoryCall) → Except StoreError (call.Reply × Database)
  | upsert scope write runId threadId actor =>
    Store.upsert db reading scope write runId threadId actor
  | upsertFromRun token scope write runId threadId actor =>
    Store.upsertFromRun db reading token scope write runId threadId actor
  | forgetMemory memoryId tenantId subjectId actor =>
    Store.forgetMemory db reading memoryId tenantId subjectId actor
  | getOrCreateRunSnapshot runId scope keys =>
    Store.getOrCreateRunSnapshot db reading runId scope keys
  | getOrCreateRunSnapshotForRun token runId scope keys =>
    Store.getOrCreateRunSnapshotForRun db reading token runId scope keys
  | listEventsForRun runId tenantId subjectId =>
    reads db (.ok (listMemoryEventsForRun db runId tenantId subjectId))

/-- One operation of one of the stores. -/
inductive Call where
  | run (call : RunCall)
  | workflow (call : WorkflowCall)
  | memory (call : MemoryCall)

/-- What an operation returns. -/
def Call.Reply : Call → Type
  | run call => call.Reply
  | workflow call => call.Reply
  | memory call => call.Reply

/-- Run one operation as one transaction. -/
def Call.perform (hasher : Hasher) (db : Database) (reading : Reading) :
    (call : Call) → Except StoreError (call.Reply × Database)
  | run call => call.perform hasher db reading
  | workflow call => call.perform db reading
  | memory call => call.perform db reading

/-- A call together with what it reads from outside the database. -/
structure Request where
  reading : Reading
  call : Call

/-- The database after a request; a call that raises is rolled back. -/
def Request.apply (hasher : Hasher) (db : Database) (request : Request) : Database :=
  match request.call.perform hasher db request.reading with
  | .ok (_, after) => after
  | .error _ => db

/-- The stores over one initially empty file, driven by requests in any order. -/
def storeMachine (hasher : Hasher) : Machine Database Request where
  init := Database.empty
  next := Request.apply hasher

/-! ### Sample requests -/

/-- A reading whose times and random texts are all one text. -/
def sampleReading (nowMs : Int) (text : String) : Reading := ⟨nowMs, fun _ ↦ text, fun _ ↦ text⟩

/-- Digests that are all empty, for histories that compute none. -/
def sampleHasher : Hasher := ⟨fun _ ↦ "", fun _ ↦ ""⟩

/-- A state of the thread `trip`. -/
def sampleState : RuntimeState :=
  { threadId := "trip", executionTrace := [], fields := [], domainId := "travel"
    schemaVersion := "1" }

/-- A submitted Run of the thread `trip`. -/
def sampleRun (runId createdAt : String) (state : Option RuntimeState) : RunRecord :=
  submittedRun runId "acme" "trip" "travel" "1" "travel" "1" [("user_message", .str "hello")] state
    none none createdAt createdAt

/-- The request of `RuntimeManager.submit` for a record. -/
def submitRequest (run : RunRecord) : Request :=
  ⟨sampleReading 0 run.createdAt, .run (.createRunWithEvent run "run.queued" [])⟩

end AgentRuntime.Store
