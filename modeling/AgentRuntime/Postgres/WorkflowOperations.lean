import AgentRuntime.Postgres.RunOperations

/-!
# The operations of `PostgresWorkflowStore`

The second implementation of the workflow ledger, over the tables of the first one. It locks the
execution's row before the rows of its steps and actions, so the order of its checks differs from
the SQLite store's: a missing execution is reported before a missing step, and the step of an action
is looked up before the action's status is. One `_transition_execution` serves the start and the
three ends of an execution and writes all their columns. `prepare_external_action` inserts with
`ON CONFLICT DO NOTHING`, and the lists break ties of their timestamps by the row's id.

Text parameters, `INTEGER` columns and serial use are treated as in `RunOperations`.
-/

set_option autoImplicit false
set_option relaxedAutoImplicit false

namespace AgentRuntime.Postgres

open Library Store

/-! ### Shared parts of the transactions -/

/-- `_assert_current_run_lease` of the workflow store. -/
def assertWorkflowLease (db : Database) (nowMs : Int) (runId : String)
    (leaseToken : Option String) : Except PostgresError Unit := do
  bindTexts [runId]
  match db.runs.find runId, leaseToken with
  | none, none => return ()
  | none, some _ => throw (.raised (.runLeaseLost ("Run lease is not enforceable: " ++ runId)))
  | some _, none => throw (.raised (.runLeaseLost ("Run lease is no longer current: " ++ runId)))
  | some row, some token =>
    if row.status == .running && row.holdsLease token nowMs then return ()
    else throw (.raised (.runLeaseLost ("Run lease is no longer current: " ++ runId)))

/-- `_lock_execution_for_events`. -/
def lockExecution (db : Database) (runId : String) : Except PostgresError ExecutionRow :=
  match db.executions.find runId with
  | none => .error (.raised (.keyError ("Workflow execution not found: " ++ runId)))
  | some execution => .ok execution

/-- `_append_event_with_connection` of the workflow store. -/
def appendWorkflowEvent (db : Database) (runId eventType : String) (payload : Payload)
    (createdAt : String) : Except PostgresError Database := do
  let _ ← lockExecution db runId
  bindTexts [eventType, createdAt]
  integerColumn (nextSequence db.workflowEvents runId)
  return Store.appendWorkflowEvent db runId eventType payload createdAt

/-! ### Executions -/

/-- `create_or_get_execution`. -/
def createOrGetExecution (db : Database) (reading : Reading)
    (runId workflowType inputHash : String) (leaseToken : Option String) :
    Except PostgresError (ExecutionClaimResult × Database) := do
  assertWorkflowLease db reading.nowMs runId leaseToken
  match db.executions.find runId with
  | some existing => return (resolveExecutionConflict existing workflowType inputHash, db)
  | none =>
    bindTexts [workflowType, inputHash, reading.utcNow 0]
    let row := pendingExecution workflowType inputHash (reading.utcNow 0)
    return (⟨.created, row⟩, { db with executions := db.executions.insert runId row })

/-- `_transition_execution`. -/
def transitionExecution (db : Database) (reading : Reading) (runId : String)
    (fromStatus toStatus : WorkflowStatus) (eventType : String) (resultJson : Option Json)
    (errorCode : Option String) (leaseToken : Option String) :
    Except PostgresError (ExecutionRow × Database) := do
  assertWorkflowLease db reading.nowMs runId leaseToken
  match db.executions.find runId with
  | none => throw (.raised (.keyError ("Execution not found: " ++ runId)))
  | some row =>
    bindTexts (errorCode.toList ++ [reading.utcNow 0])
    if row.status = fromStatus then
      let updated : ExecutionRow :=
        { row with
          status := toStatus
          resultJson := resultJson
          errorCode := errorCode
          updatedAt := reading.utcNow 0
          completedAt := if toStatus.isTerminal then some (reading.utcNow 0) else none }
      let noted ← appendWorkflowEvent (updateExecution db runId fun _ ↦ updated) runId eventType
        (if toStatus.isTerminal then [("error_code", textColumn errorCode)] else [])
        (reading.utcNow 1)
      return (updated, noted)
    else
      return (row, db)

/-- `mark_running`. -/
def markRunning (db : Database) (reading : Reading) (runId : String)
    (leaseToken : Option String) : Except PostgresError (ExecutionRow × Database) :=
  transitionExecution db reading runId .pending .running "workflow.started" none none leaseToken

/-- `finalize_ready`. -/
def finalizeReady (db : Database) (reading : Reading) (runId : String) (resultJson : Json)
    (leaseToken : Option String) : Except PostgresError (ExecutionRow × Database) :=
  transitionExecution db reading runId .running .ready "workflow.ready" (some resultJson) none
    leaseToken

/-- `finalize_blocked`. -/
def finalizeBlocked (db : Database) (reading : Reading) (runId : String) (resultJson : Json)
    (errorCode : String) (leaseToken : Option String) :
    Except PostgresError (ExecutionRow × Database) :=
  transitionExecution db reading runId .running .blocked "workflow.blocked" (some resultJson)
    (some errorCode) leaseToken

/-- `finalize_failed`. -/
def finalizeFailed (db : Database) (reading : Reading) (runId errorCode : String)
    (leaseToken : Option String) : Except PostgresError (ExecutionRow × Database) :=
  transitionExecution db reading runId .running .failed "workflow.failed" none (some errorCode)
    leaseToken

/-! ### Steps -/

/-- The copy of `reuse_completed_step`. -/
def copyStep (db : Database) (reading : Reading)
    (sourceRunId targetRunId stepId toolName inputHash : String) (sourceStep : ToolCallRow) :
    Except PostgresError (StepReuseResult × Database) := do
  if !sourceStep.reusable toolName inputHash then
    return (⟨.notReusable, some sourceStep⟩, db)
  else if (db.externalActions.find (sourceRunId, stepId)).isSome then
    return (⟨.notReusable, some sourceStep⟩, db)
  else
    match db.toolCalls.find (targetRunId, stepId) with
    | some targetStep =>
      if targetStep.reusable toolName inputHash then
        return (⟨.existing, some targetStep⟩, db)
      else
        return (⟨.notReusable, some targetStep⟩, db)
    | none =>
      let copied := copiedStep ("call_" ++ reading.uuid 0) toolName inputHash
        sourceStep.resultJson (reading.utcNow 0)
      bindTexts [copied.callId, toolName, inputHash, reading.utcNow 0]
      if callIdTaken db copied.callId then
        throw (.uniqueViolation "tool_calls_pkey")
      else
        let noted ← appendWorkflowEvent
          { db with toolCalls := db.toolCalls.insert (targetRunId, stepId) copied } targetRunId
          "step.replay_reused"
          [("step_id", .str stepId), ("tool_name", .str toolName),
            ("source_run_id", .str sourceRunId), ("attempt_count", .int 0),
            ("outcome", .str "reused")] (reading.utcNow 1)
        return (⟨.copied, some copied⟩, noted)

/-- `reuse_completed_step`. -/
def reuseCompletedStep (db : Database) (reading : Reading)
    (sourceRunId targetRunId stepId toolName inputHash : String) (leaseToken : Option String) :
    Except PostgresError (StepReuseResult × Database) := do
  if sourceRunId = targetRunId then
    throw (.raised (.valueError "selective replay requires a different target run_id"))
  else
    assertWorkflowLease db reading.nowMs targetRunId leaseToken
    bindTexts [sourceRunId]
    match db.executions.find sourceRunId, db.executions.find targetRunId with
    | none, _ =>
      throw (.raised (.keyError ("Source workflow execution not found: " ++ sourceRunId)))
    | _, none =>
      throw (.raised (.keyError ("Target workflow execution not found: " ++ targetRunId)))
    | some source, some target =>
      if source.workflowType ≠ target.workflowType then
        throw (.raised (.valueError ("source and target workflow types do not match: "
          ++ pyRepr source.workflowType ++ " != " ++ pyRepr target.workflowType)))
      else if source.status ≠ .ready ∧ source.status ≠ .blocked then
        throw (.raised (.valueError ("source execution " ++ pyRepr sourceRunId
          ++ " is not replayable from status " ++ pyRepr source.status.text)))
      else if target.status ≠ .running then
        throw (.raised (.valueError ("target execution " ++ pyRepr targetRunId
          ++ " must be RUNNING to accept replay evidence, not " ++ pyRepr target.status.text)))
      else
        bindTexts [stepId]
        match db.toolCalls.find (sourceRunId, stepId) with
        | none => return (⟨.notReusable, none⟩, db)
        | some sourceStep =>
          copyStep db reading sourceRunId targetRunId stepId toolName inputHash sourceStep

/-- `_claim_fresh`. -/
def claimFresh (db : Database) (reading : Reading) (runId stepId toolName inputHash : String) :
    Except PostgresError (ClaimResult × Database) := do
  let token := "attempt_" ++ reading.uuid 0
  let step := freshStep ("call_" ++ reading.uuid 1) token toolName inputHash (reading.utcNow 0)
  bindTexts [step.callId, toolName, inputHash, token, reading.utcNow 0]
  if callIdTaken db step.callId then
    throw (.uniqueViolation "tool_calls_pkey")
  else
    let noted ← appendWorkflowEvent
      { db with toolCalls := db.toolCalls.insert (runId, stepId) step } runId "step.claimed"
      (stepClaimedPayload stepId toolName 1) (reading.utcNow 1)
    return (⟨.claimed, step, some token⟩, noted)

/-- `_claim_retry`. -/
def claimRetry (db : Database) (reading : Reading) (runId stepId toolName : String)
    (previous : ToolCallRow) : Except PostgresError (ClaimResult × Database) := do
  let token := "attempt_" ++ reading.uuid 0
  bindTexts [token, reading.utcNow 0]
  if previous.status ≠ .failed then
    return (⟨.alreadyRunning, previous, none⟩, db)
  else
    let step := retriedStep previous token toolName (reading.utcNow 0)
    integerColumn step.attemptCount
    let noted ← appendWorkflowEvent (updateStep db runId stepId fun _ ↦ step) runId "step.claimed"
      (stepClaimedPayload stepId toolName (previous.attemptCount + 1)) (reading.utcNow 1)
    return (⟨.claimed, step, some token⟩, noted)

/-- `claim_step`. -/
def claimStep (db : Database) (reading : Reading) (runId stepId toolName inputHash : String)
    (maxAttempts : Nat) (leaseToken : Option String) :
    Except PostgresError (ClaimResult × Database) := do
  if maxAttempts < 1 then
    throw (.raised (.valueError "max_attempts must be at least 1"))
  else
    assertWorkflowLease db reading.nowMs runId leaseToken
    let _ ← lockExecution db runId
    bindTexts [stepId]
    match db.toolCalls.find (runId, stepId) with
    | none => claimFresh db reading runId stepId toolName inputHash
    | some record =>
      if record.toolName ≠ toolName then return (⟨.definitionMismatch, record, none⟩, db)
      else if record.inputHash ≠ inputHash then return (⟨.inputMismatch, record, none⟩, db)
      else if record.status = .completed then return (⟨.cached, record, none⟩, db)
      else if record.status = .running then return (⟨.alreadyRunning, record, none⟩, db)
      else if maxAttempts ≤ record.attemptCount then
        return (⟨.attemptsExhausted, record, none⟩, db)
      else claimRetry db reading runId stepId toolName record

/-- `_finalize_step`. -/
def finalizeStep (db : Database) (reading : Reading) (runId stepId attemptToken : String)
    (status : ToolCallStatus) (resultJson : Option Json) (errorCode : Option String)
    (eventType outcome : String) (leaseToken : Option String) :
    Except PostgresError (ToolCallRow × Database) := do
  assertWorkflowLease db reading.nowMs runId leaseToken
  let _ ← lockExecution db runId
  bindTexts (errorCode.toList ++ [reading.utcNow 0, stepId, attemptToken])
  match (db.toolCalls.find (runId, stepId)).filter fun row ↦ row.heldBy attemptToken with
  | none => throw (.raised (.staleAttempt (staleAttemptMessage runId stepId)))
  | some row =>
    let finished := finishedStep row status resultJson errorCode (reading.utcNow 0)
    let noted ← appendWorkflowEvent (updateStep db runId stepId fun _ ↦ finished) runId eventType
      (stepFinishedPayload stepId finished outcome) (reading.utcNow 1)
    return (finished, noted)

/-- `complete_step`. -/
def completeStep (db : Database) (reading : Reading) (runId stepId attemptToken : String)
    (resultJson : Json) (leaseToken : Option String) :
    Except PostgresError (ToolCallRow × Database) :=
  finalizeStep db reading runId stepId attemptToken .completed (some resultJson) none
    "step.completed" "completed" leaseToken

/-- `fail_step`. -/
def failStep (db : Database) (reading : Reading) (runId stepId attemptToken errorCode : String)
    (leaseToken : Option String) : Except PostgresError (ToolCallRow × Database) :=
  finalizeStep db reading runId stepId attemptToken .failed none (some errorCode) "step.failed"
    "failed" leaseToken

/-- `recover_interrupted_step`. -/
def recoverInterruptedStep (db : Database) (reading : Reading) (runId stepId : String)
    (leaseToken : Option String) : Except PostgresError (ToolCallRow × Database) := do
  assertWorkflowLease db reading.nowMs runId leaseToken
  let _ ← lockExecution db runId
  bindTexts [reading.utcNow 0, stepId]
  match db.toolCalls.find (runId, stepId) with
  | none => throw (.raised (.keyError ("Step not found: " ++ runId ++ "/" ++ stepId)))
  | some row =>
    if row.status = .running then
      let recovered := interruptedStep row (reading.utcNow 0)
      let noted ← appendWorkflowEvent (updateStep db runId stepId fun _ ↦ recovered) runId
        "step.interrupted_recovery" [("step_id", .str stepId)] (reading.utcNow 1)
      return (recovered, noted)
    else
      return (row, db)

/-- The order of `list_steps`: `ORDER BY created_at, call_id`. -/
def stepOrder (entry : String × ToolCallRow) : Lex (String × String) :=
  toLex (entry.2.createdAt, entry.2.callId)

/-- `list_steps`, each step with its id. -/
def listSteps (db : Database) (runId : String) : List (String × ToolCallRow) :=
  ((db.toolCalls.rows.filter fun entry ↦ entry.1.1 == runId).map
    fun entry ↦ (entry.1.2, entry.2)).insertionSort
      fun left right ↦ stepOrder left ≤ stepOrder right

/-! ### External actions -/

/-- The insert of `prepare_external_action`: a conflict of any kind inserts nothing, and without a
row for the step the outcome is a mismatch. -/
def insertPrepared (db : Database) (reading : Reading) (runId stepId : String)
    (identity : ExternalActionIdentity) :
    Except PostgresError (ExternalActionPrepareResult × Database) := do
  bindTexts [identity.idempotencyKey]
  if db.externalActions.rows.any
      fun entry ↦ entry.2.idempotencyKey == identity.idempotencyKey then
    return (⟨.identityMismatch, none⟩, db)
  else
    let action := preparedAction identity ("action_" ++ reading.uuid 0) (reading.utcNow 0)
    bindTexts [action.actionId, action.tenantId, action.subjectId, action.workflowType,
      action.toolName, action.providerName, action.providerIdentity, action.inputHash,
      reading.utcNow 0]
    if db.externalActions.rows.any fun entry ↦ entry.2.actionId == action.actionId then
      return (⟨.identityMismatch, none⟩, db)
    else
      let noted ← appendWorkflowEvent
        { db with externalActions := db.externalActions.insert (runId, stepId) action } runId
        "external_action.prepared" (preparedPayload stepId action) (reading.utcNow 1)
      return (⟨.created, some action⟩, noted)

/-- The transaction of `prepare_external_action` after its lease assertion. -/
def prepareFenced (db : Database) (reading : Reading) (runId stepId toolAttemptToken : String)
    (identity : ExternalActionIdentity) :
    Except PostgresError (ExternalActionPrepareResult × Database) := do
  match db.runs.find runId with
  | none => throw (.raised (.keyError ("Run not found: " ++ runId)))
  | some run =>
    if !authorityMatches run identity then
      return (⟨.identityMismatch, none⟩, db)
    else
      let execution ← lockExecution db runId
      bindTexts [stepId]
      match db.toolCalls.find (runId, stepId) with
      | none => throw (.raised (.keyError ("Step not found: " ++ runId ++ "/" ++ stepId)))
      | some step =>
        if execution.workflowType ≠ identity.workflowType ∨
            step.toolName ≠ identity.toolName ∨ step.inputHash ≠ identity.inputHash then
          return (⟨.identityMismatch, none⟩, db)
        else if !step.heldBy toolAttemptToken then
          return (⟨.toolAttemptMismatch, none⟩, db)
        else
          match db.externalActions.find (runId, stepId) with
          | some existing =>
            if externalActionIdentity existing = identity then
              return (⟨.existing, some existing⟩, db)
            else
              return (⟨.identityMismatch, some existing⟩, db)
          | none => insertPrepared db reading runId stepId identity

/-- `prepare_external_action`. -/
def prepareExternalAction (db : Database) (reading : Reading) (runId stepId : String)
    (toolAttemptToken : String) (arguments : ExternalActionIdentity)
    (leaseToken : Option String) :
    Except PostgresError (ExternalActionPrepareResult × Database) := do
  match arguments.argumentsJson with
  | .obj _ =>
    let identity := { arguments with argumentsJson := arguments.argumentsJson.sortKeys }
    if emptyIdentityField runId stepId toolAttemptToken identity then
      throw (.raised (.valueError "External action identity fields must be non-empty strings"))
    else
      assertWorkflowLease db reading.nowMs runId leaseToken
      prepareFenced db reading runId stepId toolAttemptToken identity
  | _ => throw (.raised (.valueError "External action JSON must encode an object"))

/-- `_require_external_action_row`. -/
def requireExternalAction (db : Database) (runId stepId : String) :
    Except PostgresError ExternalActionRow := do
  bindTexts [stepId]
  match db.externalActions.find (runId, stepId) with
  | none => throw (.raised (.keyError (actionNotFoundMessage runId stepId)))
  | some action => return action

/-- The dispatch both dispatch operations commit. -/
def recordDispatch (db : Database) (reading : Reading) (runId stepId : String)
    (action : ExternalActionRow) (retry : Bool) :
    Except PostgresError (ExternalActionRow × Database) := do
  let token := "dispatch_" ++ reading.uuid 0
  bindTexts [token, reading.utcNow 0]
  let dispatched := dispatchedAction action token (reading.utcNow 0)
  integerColumn dispatched.dispatchCount
  let noted ← appendWorkflowEvent (updateAction db runId stepId fun _ ↦ dispatched) runId
    "external_action.dispatch_started" (dispatchStartedPayload stepId dispatched retry)
    (reading.utcNow 1)
  return (dispatched, noted)

/-- `begin_external_action_dispatch`. -/
def beginExternalActionDispatch (db : Database) (reading : Reading) (runId stepId : String)
    (toolAttemptToken : String) (leaseToken : Option String) :
    Except PostgresError (ExternalActionDispatchResult × Database) := do
  assertWorkflowLease db reading.nowMs runId leaseToken
  let _ ← lockExecution db runId
  let action ← requireExternalAction db runId stepId
  if action.status.isTerminal then
    return (⟨.terminal, action, none⟩, db)
  else if action.status = .dispatching then
    return (⟨.alreadyDispatching, action, action.dispatchToken⟩, db)
  else
    match db.runs.find runId with
    | none => throw (.raised (.keyError ("Run not found: " ++ runId)))
    | some run =>
      if run.status ≠ .running ∨ run.cancelRequested then
        return (⟨.runCancelled, action, none⟩, db)
      else
        let _ ← lift (assertCurrentToolAttempt db runId stepId toolAttemptToken)
        let (dispatched, noted) ← recordDispatch db reading runId stepId action false
        return (⟨.claimed, dispatched, some ("dispatch_" ++ reading.uuid 0)⟩, noted)

/-- `retry_external_action_dispatch`. -/
def retryExternalActionDispatch (db : Database) (reading : Reading) (runId stepId : String)
    (previousDispatchToken toolAttemptToken : String) (leaseToken : Option String) :
    Except PostgresError (ExternalActionDispatchResult × Database) := do
  assertWorkflowLease db reading.nowMs runId leaseToken
  let _ ← lockExecution db runId
  let action ← requireExternalAction db runId stepId
  if action.status.isTerminal then
    return (⟨.terminal, action, none⟩, db)
  else if action.status ≠ .dispatching then
    return (⟨.notDispatching, action, none⟩, db)
  else if action.retryMode = .unsafeRetry then
    return (⟨.retryUnsafe, action, action.dispatchToken⟩, db)
  else if action.dispatchToken ≠ some previousDispatchToken then
    throw (.raised (.staleDispatch (staleDispatchMessage runId stepId)))
  else
    let _ ← lift (assertCurrentToolAttempt db runId stepId toolAttemptToken)
    let (dispatched, noted) ← recordDispatch db reading runId stepId action true
    return (⟨.retryClaimed, dispatched, some ("dispatch_" ++ reading.uuid 0)⟩, noted)

/-- The commit of `_finalize_external_action`: the action, its step and their two events. -/
def recordOutcome (db : Database) (reading : Reading) (runId stepId : String)
    (action : ExternalActionRow) (step : ToolCallRow) (outcome : ExternalActionOutcome) :
    Except PostgresError Database := do
  let now := reading.utcNow 0
  bindTexts (outcome.providerReference.toList ++ outcome.errorCode.toList ++ [now])
  let finished := finishedStep step outcome.toolStatus outcome.resultJson outcome.errorCode now
  let updated := updateStep
    (updateAction db runId stepId fun _ ↦ finalizedAction action outcome now)
    runId stepId fun _ ↦ finished
  let noted ← appendWorkflowEvent updated runId ("external_action." ++ outcome.actionStatus.text)
    (outcomePayload stepId action outcome) (reading.utcNow 1)
  let completed := outcome.toolStatus == .completed
  appendWorkflowEvent noted runId (if completed then "step.completed" else "step.failed")
    (stepFinishedPayload stepId finished (if completed then "completed" else "failed"))
    (reading.utcNow 2)

/-- The transaction of `_finalize_external_action` after its checks and its lease assertion. -/
def finalizeDispatched (db : Database) (reading : Reading) (runId stepId : String)
    (dispatchToken toolAttemptToken : String) (outcome : ExternalActionOutcome)
    (requiredRetryMode : Option ExternalActionRetryMode) :
    Except PostgresError (ExternalActionRow × Database) := do
  bindTexts [runId]
  let _ ← lockExecution db runId
  let action ← requireExternalAction db runId stepId
  if requiredRetryMode.isSome && requiredRetryMode != some action.retryMode then
    throw (.raised (.valueError ("External action " ++ runId ++ "/" ++ stepId ++ " has retry mode "
      ++ pyRepr action.retryMode.text ++ ", not "
      ++ pyRepr ((requiredRetryMode.map ExternalActionRetryMode.text).getD ""))))
  else
    match db.toolCalls.find (runId, stepId) with
    | none => throw (.raised (.runtimeError "External action lost its parent tool call"))
    | some step =>
      if action.status.isTerminal then
        if exactDuplicate action step outcome dispatchToken toolAttemptToken then
          return (action, db)
        else
          throw (.raised (.staleDispatch ("External action " ++ runId ++ "/" ++ stepId
            ++ " already has a different terminal outcome")))
      else if action.status ≠ .dispatching ∨ action.dispatchToken ≠ some dispatchToken then
        throw (.raised (.staleDispatch (staleDispatchMessage runId stepId)))
      else if !step.heldBy toolAttemptToken then
        throw (.raised (.staleAttempt (staleAttemptMessage runId stepId)))
      else
        let settled ← recordOutcome db reading runId stepId action step outcome
        return (finalizedAction action outcome (reading.utcNow 0), settled)

/-- `_finalize_external_action` for a provider's response. -/
def finalizeProviderOutcome (db : Database) (reading : Reading) (runId stepId : String)
    (dispatchToken toolAttemptToken : String) (outcome : ExternalActionOutcome) :
    Except PostgresError (ExternalActionRow × Database) := do
  let checked ← lift (checkedOutcome outcome)
  finalizeDispatched db reading runId stepId dispatchToken toolAttemptToken checked none

/-- `_finalize_external_action` for a decision of the current attempt. -/
def finalizeAttemptOutcome (db : Database) (reading : Reading) (runId stepId : String)
    (dispatchToken toolAttemptToken : String) (outcome : ExternalActionOutcome)
    (requiredRetryMode : Option ExternalActionRetryMode) (leaseToken : Option String) :
    Except PostgresError (ExternalActionRow × Database) := do
  let checked ← lift (checkedOutcome outcome)
  assertWorkflowLease db reading.nowMs runId leaseToken
  finalizeDispatched db reading runId stepId dispatchToken toolAttemptToken checked
    requiredRetryMode

/-- `finalize_external_action_succeeded`. -/
def finalizeExternalActionSucceeded (db : Database) (reading : Reading) (runId stepId : String)
    (dispatchToken toolAttemptToken : String) (resultJson : Json) (providerReference : String)
    (errorCode : Option String) : Except PostgresError (ExternalActionRow × Database) :=
  finalizeProviderOutcome db reading runId stepId dispatchToken toolAttemptToken
    { actionStatus := .succeeded
      toolStatus := .completed
      resultJson := some resultJson
      providerReference := some providerReference
      errorCode := errorCode }

/-- `finalize_external_action_failed`. -/
def finalizeExternalActionFailed (db : Database) (reading : Reading) (runId stepId : String)
    (dispatchToken toolAttemptToken errorCode : String) (providerReference : Option String) :
    Except PostgresError (ExternalActionRow × Database) :=
  finalizeProviderOutcome db reading runId stepId dispatchToken toolAttemptToken
    { actionStatus := .failed
      toolStatus := .failed
      resultJson := none
      providerReference := providerReference
      errorCode := some errorCode }

/-- `finalize_external_action_outcome_unknown`. -/
def finalizeExternalActionOutcomeUnknown (db : Database) (reading : Reading)
    (runId stepId dispatchToken toolAttemptToken errorCode : String)
    (providerReference : Option String) :
    Except PostgresError (ExternalActionRow × Database) :=
  finalizeProviderOutcome db reading runId stepId dispatchToken toolAttemptToken
    { actionStatus := .outcomeUnknown
      toolStatus := .failed
      resultJson := none
      providerReference := providerReference
      errorCode := some errorCode }

/-- `finalize_external_action_reconciliation_unknown`. -/
def finalizeExternalActionReconciliationUnknown (db : Database) (reading : Reading)
    (runId stepId dispatchToken toolAttemptToken errorCode : String)
    (providerReference leaseToken : Option String) :
    Except PostgresError (ExternalActionRow × Database) :=
  finalizeAttemptOutcome db reading runId stepId dispatchToken toolAttemptToken
    { actionStatus := .outcomeUnknown
      toolStatus := .failed
      resultJson := none
      providerReference := providerReference
      errorCode := some errorCode }
    none leaseToken

/-- `finalize_unsafe_interrupted_action`. -/
def finalizeUnsafeInterruptedAction (db : Database) (reading : Reading)
    (runId stepId dispatchToken toolAttemptToken errorCode : String)
    (leaseToken : Option String) : Except PostgresError (ExternalActionRow × Database) :=
  finalizeAttemptOutcome db reading runId stepId dispatchToken toolAttemptToken
    { actionStatus := .outcomeUnknown
      toolStatus := .failed
      resultJson := none
      providerReference := none
      errorCode := some errorCode }
    (some .unsafeRetry) leaseToken

/-- The order of `list_external_actions`: `ORDER BY created_at, action_id`. -/
def actionOrder (entry : String × ExternalActionRow) : Lex (String × String) :=
  toLex (entry.2.createdAt, entry.2.actionId)

/-- `list_external_actions`, each action with its step. -/
def listExternalActions (db : Database) (runId : String) : List (String × ExternalActionRow) :=
  ((db.externalActions.rows.filter fun entry ↦ entry.1.1 == runId).map
    fun entry ↦ (entry.1.2, entry.2)).insertionSort
      fun left right ↦ actionOrder left ≤ actionOrder right

/-! ### Events and snapshots -/

/-- `append_event`. -/
def appendEvent (db : Database) (reading : Reading) (runId eventType : String)
    (payload : Payload) (leaseToken : Option String) :
    Except PostgresError (EventRow × Database) := do
  assertWorkflowLease db reading.nowMs runId leaseToken
  let noted ← appendWorkflowEvent db runId eventType payload (reading.utcNow 0)
  return (newEvent db.workflowEvents runId eventType payload (reading.utcNow 0), noted)

/-- `read_run_snapshot`. -/
def readRunSnapshot (db : Database) (runId : String) (afterSequence : Nat) :
    WorkflowRunSnapshot where
  execution := getExecution db runId
  steps := listSteps db runId
  externalActions := listExternalActions db runId
  events := listEvents db runId afterSequence

/-! ### The operations as one function -/

/-- The operations of the `WorkflowStore` protocol: the calls of the runtime and the snapshot
read. -/
inductive WorkflowOperation where
  | ledger (call : WorkflowCall)
  | readRunSnapshot (runId : String) (afterSequence : Nat)

/-- What an operation returns. -/
def WorkflowOperation.Reply : WorkflowOperation → Type
  | ledger call => call.Reply
  | readRunSnapshot .. => WorkflowRunSnapshot

/-- Run one operation of the workflow store on SQLite. -/
def WorkflowOperation.performSqlite (db : Database) (reading : Reading) :
    (operation : WorkflowOperation) → Except StoreError (operation.Reply × Database)
  | ledger call => call.perform db reading
  | readRunSnapshot runId afterSequence =>
    Store.reads db (.ok (Store.readRunSnapshot db runId afterSequence))

/-- Run one call of the workflow store on PostgreSQL. -/
def performWorkflowCall (db : Database) (reading : Reading) :
    (call : WorkflowCall) → Except PostgresError (call.Reply × Database)
  | .createOrGetExecution runId workflowType inputHash token =>
    createOrGetExecution db reading runId workflowType inputHash token
  | .getExecution runId => reads db [runId] (.ok (getExecution db runId))
  | .markRunning runId token => markRunning db reading runId token
  | .finalizeReady runId result token => finalizeReady db reading runId result token
  | .finalizeBlocked runId result code token => finalizeBlocked db reading runId result code token
  | .finalizeFailed runId code token => finalizeFailed db reading runId code token
  | .reuseCompletedStep source target stepId toolName inputHash token =>
    reuseCompletedStep db reading source target stepId toolName inputHash token
  | .claimStep runId stepId toolName inputHash maxAttempts token =>
    claimStep db reading runId stepId toolName inputHash maxAttempts token
  | .completeStep runId stepId attempt result token =>
    completeStep db reading runId stepId attempt result token
  | .failStep runId stepId attempt code token =>
    failStep db reading runId stepId attempt code token
  | .recoverInterruptedStep runId stepId token =>
    recoverInterruptedStep db reading runId stepId token
  | .getStep runId stepId => reads db [runId, stepId] (.ok (getStep db runId stepId))
  | .listSteps runId => reads db [runId] (.ok (listSteps db runId))
  | .prepareExternalAction runId stepId attempt identity token =>
    prepareExternalAction db reading runId stepId attempt identity token
  | .beginExternalActionDispatch runId stepId attempt token =>
    beginExternalActionDispatch db reading runId stepId attempt token
  | .retryExternalActionDispatch runId stepId previous attempt token =>
    retryExternalActionDispatch db reading runId stepId previous attempt token
  | .finalizeExternalActionSucceeded runId stepId dispatch attempt result reference code =>
    finalizeExternalActionSucceeded db reading runId stepId dispatch attempt result reference code
  | .finalizeExternalActionFailed runId stepId dispatch attempt code reference =>
    finalizeExternalActionFailed db reading runId stepId dispatch attempt code reference
  | .finalizeExternalActionOutcomeUnknown runId stepId dispatch attempt code reference =>
    finalizeExternalActionOutcomeUnknown db reading runId stepId dispatch attempt code reference
  | .finalizeExternalActionReconciliationUnknown runId stepId dispatch attempt code reference
      token =>
    finalizeExternalActionReconciliationUnknown db reading runId stepId dispatch attempt code
      reference token
  | .finalizeUnsafeInterruptedAction runId stepId dispatch attempt code token =>
    finalizeUnsafeInterruptedAction db reading runId stepId dispatch attempt code token
  | .getExternalAction runId stepId =>
    reads db [runId, stepId] (.ok (getExternalAction db runId stepId))
  | .listExternalActions runId => reads db [runId] (.ok (listExternalActions db runId))
  | .hasExternalActionRequiringReconciliation runId =>
    reads db [runId] (.ok (hasExternalActionRequiringReconciliation db runId))
  | .appendEvent runId eventType payload token =>
    appendEvent db reading runId eventType payload token
  | .listEvents runId afterSequence => reads db [runId] (.ok (listEvents db runId afterSequence))

/-- Run one operation of the workflow store on PostgreSQL. -/
def WorkflowOperation.performPostgres (db : Database) (reading : Reading) :
    (operation : WorkflowOperation) → Except PostgresError (operation.Reply × Database)
  | ledger call => performWorkflowCall db reading call
  | readRunSnapshot runId afterSequence =>
    reads db [runId] (.ok (Postgres.readRunSnapshot db runId afterSequence))

end AgentRuntime.Postgres
