import AgentRuntime.Execution.DynamicLoop
import AgentRuntime.Execution.GovernedMemory

/-!
# `RuntimeManager._execute_owned_run`

One attempt at a claimed Run: arbitrate a cancellation against a dispatched action, load the thread
checkpoint, execute the registered runtime and commit what came of it. The three `except` blocks
decide between a terminal commit and a marker that leaves the Run recoverable. A runtime prepares
the input of its tool loop, runs the loop and turns the result into a response; one with governed
memory retrieves before the loop and remembers after it.
-/

set_option autoImplicit false
set_option relaxedAutoImplicit false

namespace AgentRuntime.Execution

open Library Store

/-! ### Run-store operations of the manager -/

namespace RunStore

def getRunInternal (runId : String) : Manager (Option RunRecord) :=
  runCall (.getRunInternal runId) rfl

def getRunForTenant (runId tenantId : String) : Manager (Option RunRecord) :=
  runCall (.getRunForTenant runId tenantId) rfl

def loadThreadStateSnapshot (threadId tenantId : String) (domainId schemaVersion : Option String)
    (expectedRevision : Option Nat) : Manager ThreadStateSnapshot :=
  runCall (.loadThreadStateSnapshot threadId tenantId domainId schemaVersion expectedRevision true)
    rfl

def appendAttemptEvent (runId leaseToken eventType : String) (payload : Payload) :
    Manager EventRow :=
  runCall (.appendAttemptEvent runId (some leaseToken) eventType payload) rfl

def commitReconciliationPending (runId tenantId leaseToken errorCode error : String) :
    Manager RunCommitOutcome :=
  runCall (.commitReconciliationPending runId tenantId leaseToken errorCode error) rfl

def commitCompletedRun (run : RunRecord) (leaseToken : String) :
    Manager (RunCommitOutcome × RunRecord) :=
  runCall (.commitCompletedRun run leaseToken) rfl

def commitCheckpointConflict (run : RunRecord) (leaseToken phase : String) :
    Manager (RunCommitOutcome × RunRecord) :=
  runCall (.commitCheckpointConflict run leaseToken phase) rfl

def quarantineCheckpointConflict (run : RunRecord) (leaseToken phase : String) :
    Manager (RunCommitOutcome × RunRecord) :=
  runCall (.quarantineCheckpointConflict run leaseToken phase) rfl

def commitCancelledRun (run : RunRecord) (reason leaseToken : String) :
    Manager (RunCommitOutcome × RunRecord) :=
  runCall (.commitCancelledRun run reason leaseToken) rfl

def commitFailedRun (run : RunRecord) (leaseToken errorCode error : String)
    (tracebackText : Option String) (allowCancelRequested : Bool) :
    Manager (RunCommitOutcome × RunRecord) :=
  runCall (.commitFailedRun run leaseToken errorCode error tracebackText allowCancelRequested) rfl

end RunStore

/-- `recovery_reconciliation_required`, as the application wires it. -/
def hasExternalActionRequiringReconciliation (runId : String) : Manager Bool :=
  workflowCall (.hasExternalActionRequiringReconciliation runId) rfl

/-- `lease_lost.is_set()`. -/
def leaseLost : Manager Bool := Program.ask Op.leaseLost rfl

/-! ### Runtimes -/

/-- `RuntimeRegistration` with the runtime its factory builds. `prepare` is what the runtime does
with its state and input before the loop, `conclude` what it makes of the loop's result, and
`memory` the policy of a runtime with governed memory. -/
structure RuntimeRegistration where
  domainId : String
  schemaVersion : String
  parseState : RuntimeState → Option RuntimeState
  parseInput : Payload → Except Failure Payload
  referencedRunIds : Payload → List String
  initialState : String → RuntimeState
  prepare : RuntimeState → Payload → Except Failure (Payload × Payload)
  conclude : RuntimeState → Payload → DynamicLoopResult → Except Failure RuntimeResponse
  memory : Option MemoryPolicy
  loop : DynamicToolLoop

namespace RuntimeRegistration

variable (registration : RuntimeRegistration)

/-- The state with the memories of the Run's snapshot laid over it. -/
def retrieveMemories (state : RuntimeState) (context : RuntimeExecutionContext) :
    Quiet RuntimeState :=
  match registration.memory with
  | none => return state
  | some policy => do
    let snapshot ← GovernedMemory.retrieve context policy.domainId policy.supportedKeys
    ofExcept (policy.overlay state snapshot.memories)

/-- What the message asks to remember is remembered. -/
def remember (runtimeInput : Payload) (context : RuntimeExecutionContext) : Quiet Unit :=
  match registration.memory with
  | none => return
  | some policy => GovernedMemory.remember context policy.domainId context.threadId
      (policy.extract runtimeInput)

/-- The response without the overlay of the memories. -/
def restored (original : RuntimeState) (response : RuntimeResponse) : RuntimeResponse :=
  match registration.memory with
  | none => response
  | some policy => { response with state := policy.restore original response.state }

/-- `runtime.execute`. -/
def execute (state : RuntimeState) (runtimeInput : Payload) (context : RuntimeExecutionContext) :
    Runtime RuntimeResponse := do
  let recalled ← registration.retrieveMemories state context
  let (input, prepared) ← ofExcept (registration.prepare recalled runtimeInput)
  let result ← registration.loop.execute context input prepared
  registration.remember runtimeInput context
  let response ← ofExcept (registration.conclude recalled runtimeInput result)
  return registration.restored state response

end RuntimeRegistration

/-- `_validate_runtime_state`. -/
def validateRuntimeState (registration : RuntimeRegistration) (state : RuntimeState)
    (threadId boundary : String) : Except Failure RuntimeState :=
  match registration.parseState state with
  | none => .error (.other "ValueError" ("Runtime " ++ boundary
      ++ " state does not match registered schema " ++ registration.domainId ++ ":"
      ++ registration.schemaVersion))
  | some validated =>
    if validated.threadId = threadId then .ok validated
    else .error (.other "ValueError" ("Runtime " ++ boundary
      ++ " state.thread_id must match run.thread_id"))

/-- `_execution_authority`. -/
def executionAuthority (run : RunRecord) : Except Failure ExecutionAuthority :=
  match run.executionAuthority with
  | none => .ok ⟨run.tenantId, "legacy-unknown", []⟩
  | some authority =>
    if authority.tenantId = run.tenantId then .ok authority
    else .error (.other "ValueError"
      "Persisted execution authority tenant does not match run tenant")

/-- `RuntimeManager`: the registry, and how a traceback is written. -/
structure RuntimeManager where
  registry : String → String → Option RuntimeRegistration
  formatTraceback : Failure → String

namespace RuntimeManager

variable (manager : RuntimeManager)

/-- `_mark_cancelled`. -/
def markCancelled (run : RunRecord) (reason leaseToken : String) : Manager Unit :=
  discard <| RunStore.commitCancelledRun run reason leaseToken

/-- `_require_run`. -/
def requireRun (runId : String) : Manager RunRecord := do
  match ← RunStore.getRunInternal runId with
  | some run => return run
  | none => throw (.store (.keyError ("Run not found: " ++ runId)))

/-- `_assert_referenced_runs_visible`. -/
def assertReferencedRunsVisible (tenantId : String) : List String → Manager Unit
  | [] => return
  | runId :: rest => do
    match ← RunStore.getRunForTenant runId tenantId with
    | none => throw (.other "ReferencedRunNotFoundError" (pyRepr "Referenced run not found"))
    | some _ => assertReferencedRunsVisible tenantId rest

/-- The registration of a Run's agent, which must have the Run's schema. -/
def registrationFor (run : RunRecord) : Except Failure RuntimeRegistration :=
  match manager.registry run.agentId run.agentVersion with
  | none => .error (.store (.keyError
      ("Unknown agent version: " ++ run.agentId ++ ":" ++ run.agentVersion)))
  | some registration =>
    if run.domainId = registration.domainId ∧ run.schemaVersion = registration.schemaVersion then
      .ok registration
    else .error (.other "ValueError"
      ("Persisted run schema does not match its registered runtime: " ++ run.domainId ++ ":"
        ++ run.schemaVersion))

/-- `reconcile_before_cancelling`: a recovered Run that carries the marker, or an action that was
ever dispatched. -/
def reconcileBeforeCancelling (claim : RunLeaseClaim) : Manager Bool :=
  if claim.recoveryReason.isNone then return false
  else if claim.run.errorCode = some reconciliationPendingCode then return true
  else hasExternalActionRequiringReconciliation claim.run.runId

/-- The load of the checkpoint was refused: its revision is not the Run's base. -/
def refuseStaleCheckpoint (claim : RunLeaseClaim) (precedence : Bool) : Manager Unit := do
  if precedence then
    discard <| RunStore.quarantineCheckpointConflict claim.run claim.leaseToken "load"
  else
    let (outcome, _) ← RunStore.commitCheckpointConflict claim.run claim.leaseToken "load"
    if outcome = .cancelRequested then
      let latest ← requireRun claim.run.runId
      markCancelled latest "cancelled_before_execution_boundary" claim.leaseToken

/-- Where the state of an attempt comes from. -/
def stateSource (run : RunRecord) (checkpoint : ThreadStateSnapshot) : String :=
  if run.state.isSome then "request"
  else if checkpoint.state.isSome then "thread_store"
  else "new_state"

/-- The runtime's end is noted before the manager acts on it. -/
def observed (runtime : Runtime RuntimeResponse) : Manager RuntimeResponse := do
  match ← Program.attempt (runtime : Manager RuntimeResponse) with
  | .ok response =>
    discard <| Program.ask (Op.runtimeEnded (.returned response)) rfl
    return response
  | .error failure =>
    discard <| Program.ask (Op.runtimeEnded (.raised failure)) rfl
    throw failure

/-- Prepare and execute the runtime on a loaded checkpoint. -/
def runRuntime (claim : RunLeaseClaim) (registration : RuntimeRegistration)
    (checkpoint : ThreadStateSnapshot) : Manager (RuntimeResponse × RuntimeState) := do
  let run := claim.run
  let candidate := (run.state <|> checkpoint.state).getD (registration.initialState run.threadId)
  let state ← ofExcept (validateRuntimeState registration candidate run.threadId "initial_state")
  discard <| RunStore.appendAttemptEvent run.runId claim.leaseToken "checkpoint.loaded"
    [("source", .str (stateSource run checkpoint)), ("revision", Json.nat checkpoint.revision)]
  let runtimeInput ← ofExcept (registration.parseInput run.input)
  assertReferencedRunsVisible run.tenantId (registration.referencedRunIds runtimeInput)
  let authority ← ofExcept (executionAuthority run)
  let response ← observed (registration.execute state runtimeInput
    { runId := run.runId
      threadId := run.threadId
      recoveredAfterRestart := claim.recoveryReason.isSome
      authority := authority
      leaseToken := some claim.leaseToken })
  let resultState ←
    ofExcept (validateRuntimeState registration response.state run.threadId "execute")
  return (response, resultState)

/-- The body of `try` up to the runtime's result. Nothing is left to commit when the checkpoint
was refused. -/
def executeRun (claim : RunLeaseClaim) (precedence : Bool) :
    Manager (Option (RuntimeResponse × RuntimeState)) := do
  let run := claim.run
  let registration ← ofExcept (manager.registrationFor run)
  let loaded ← Program.attempt (RunStore.loadThreadStateSnapshot run.threadId run.tenantId
    (some run.domainId) (some run.schemaVersion) run.checkpointBaseRevision)
  match loaded with
  | .error (.store (.checkpointRevisionConflict ..)) =>
    refuseStaleCheckpoint claim precedence
    return none
  | .error failure => throw failure
  | .ok checkpoint => return some (← runRuntime claim registration checkpoint)

/-- A record with the result of the runtime. -/
def withResult (run : RunRecord) (response : RuntimeResponse) (state : RuntimeState) :
    RunRecord :=
  { run with
    state := some state
    outputMessage := some response.message
    validationErrors := response.validationErrors
    errorCode := none
    error := none }

/-- The commit of a result; a cancellation that won the race is honoured. -/
def commitResult (claim : RunLeaseClaim) (response : RuntimeResponse) (state : RuntimeState) :
    Manager Unit := do
  let (outcome, _) ←
    RunStore.commitCompletedRun (withResult claim.run response state) claim.leaseToken
  if outcome = .cancelRequested then
    let latest ← requireRun claim.run.runId
    markCancelled (withResult latest response state) "cancelled_after_execution_boundary"
      claim.leaseToken

/-- Persist the marker that leaves the Run recoverable. -/
def markPending (claim : RunLeaseClaim) : Manager Unit :=
  discard <| RunStore.commitReconciliationPending claim.run.runId claim.run.tenantId
    claim.leaseToken reconciliationPendingCode (Failure.describe .reconciliationPending)

/-- The codes that resolve a pending reconciliation. -/
def reconciliationResolutionCodes : List String :=
  ["external_action_outcome_unknown", "external_action_evidence_incomplete",
    "external_action_failed", "run_cancel_requested"]

/-- The codes that a cancellation must not mask. -/
def safetyFailureCodes : List String :=
  ["external_action_outcome_unknown", "external_action_evidence_incomplete",
    "external_action_failed"]

/-- The failure is a `RuntimeExecutionError` with one of the codes. -/
def hasCode (failure : Failure) (codes : List String) : Bool :=
  match failure.code with
  | some code => codes.contains code
  | none => false

/-- The terminal commit of a failed attempt. -/
def commitFailure (claim : RunLeaseClaim) (run : RunRecord) (failure : Failure) :
    Manager Unit := do
  let safetyFailure := hasCode failure safetyFailureCodes
  let latest ← requireRun run.runId
  if latest.cancelRequested && !safetyFailure then
    markCancelled latest "cancelled_during_failure_boundary" claim.leaseToken
  else
    let (outcome, _) ← RunStore.commitFailedRun run claim.leaseToken
      (failure.code.getD "runtime_execution_failed") failure.describe
      (if failure.code.isSome then none else some (manager.formatTraceback failure))
      safetyFailure
    if outcome = .cancelRequested ∧ safetyFailure = false then
      let latest ← requireRun run.runId
      markCancelled latest "cancelled_during_failure_boundary" claim.leaseToken

/-- The two `except` blocks. `run` is the record as the `try` block left it. -/
def concludeFailure (claim : RunLeaseClaim) (run : RunRecord) (precedence : Bool)
    (failure : Failure) : Manager Unit := do
  if ← leaseLost then return
  match failure with
  | .reconciliationPending => markPending claim
  | failure =>
    let pending := decide (run.errorCode = some reconciliationPendingCode) || precedence
    if pending && !hasCode failure reconciliationResolutionCodes then markPending claim
    else manager.commitFailure claim run failure

/-- `_execute_owned_run`. -/
def executeOwnedRun (claim : RunLeaseClaim) : Manager Unit := do
  if ← leaseLost then return
  let precedence ← reconcileBeforeCancelling claim
  if claim.run.cancelRequested && !precedence then
    markCancelled claim.run "cancelled_after_start_claim" claim.leaseToken
  else
    match ← Program.attempt (manager.executeRun claim precedence) with
    | .error failure => manager.concludeFailure claim claim.run precedence failure
    | .ok none => return
    | .ok (some (response, state)) =>
      if ← leaseLost then return
      match ← Program.attempt (commitResult claim response state) with
      | .ok () => return
      | .error failure =>
        manager.concludeFailure claim (withResult claim.run response state) precedence failure

end RuntimeManager

end AgentRuntime.Execution
