import AgentRuntime.Store.Quarantine

/-!
# The operations of `SQLiteWorkflowStore`

The workflow ledger: one execution per Run, its steps, at most one external action per step and an
append-only event log. As in `RunOperations`, each public operation is one transaction with the
guards, columns and events of the source. Every lease-taking operation asserts the Run lease inside
its own transaction (`assertWorkflowLease`); the three provider-outcome finalizers are fenced by
the dispatch and attempt tokens instead.

The foreign key of `workflow_events` is checked where a caller could miss it (`appendEvent`); the
other operations hold a row whose own foreign keys lead to the execution.
-/

set_option autoImplicit false
set_option relaxedAutoImplicit false

namespace AgentRuntime.Store

open Library

/-! ### Outcomes -/

/-- `ExecutionOutcome`. -/
inductive ExecutionOutcome where
  | created
  | existing
  | inputMismatch
  | workflowTypeMismatch
  deriving DecidableEq

/-- `ClaimOutcome`. -/
inductive ClaimOutcome where
  | claimed
  | cached
  | alreadyRunning
  | inputMismatch
  | definitionMismatch
  | attemptsExhausted
  deriving DecidableEq

/-- `StepReuseOutcome`. -/
inductive StepReuseOutcome where
  | copied
  | existing
  | notReusable
  deriving DecidableEq

/-- `ExternalActionPrepareOutcome`. -/
inductive ExternalActionPrepareOutcome where
  | created
  | existing
  | identityMismatch
  | toolAttemptMismatch
  deriving DecidableEq

/-- `ExternalActionDispatchOutcome`. -/
inductive ExternalActionDispatchOutcome where
  | claimed
  | retryClaimed
  | alreadyDispatching
  | retryUnsafe
  | notDispatching
  | runCancelled
  | terminal
  deriving DecidableEq

/-- `ExecutionClaimResult`. -/
structure ExecutionClaimResult where
  outcome : ExecutionOutcome
  execution : ExecutionRow

/-- `ClaimResult`. -/
structure ClaimResult where
  outcome : ClaimOutcome
  step : ToolCallRow
  attemptToken : Option String

/-- `StepReuseResult`. -/
structure StepReuseResult where
  outcome : StepReuseOutcome
  step : Option ToolCallRow

/-- `ExternalActionPrepareResult`. -/
structure ExternalActionPrepareResult where
  outcome : ExternalActionPrepareOutcome
  action : Option ExternalActionRow

/-- `ExternalActionDispatchResult`. -/
structure ExternalActionDispatchResult where
  outcome : ExternalActionDispatchOutcome
  action : ExternalActionRow
  dispatchToken : Option String

/-! ### Shared parts of the transactions -/

/-- `_assert_current_run_lease` of the workflow store: a ledger without a Run row has no authority
to prove; with one, the token must be current and not expired. -/
def assertWorkflowLease (db : Database) (nowMs : Int) (runId : String)
    (leaseToken : Option String) : Except StoreError Unit :=
  match db.runs.find runId, leaseToken with
  | none, none => .ok ()
  | none, some _ => .error (.runLeaseLost ("Run lease is not enforceable: " ++ runId))
  | some _, none => .error (.runLeaseLost ("Run lease is no longer current: " ++ runId))
  | some row, some token =>
    if row.status == .running && row.holdsLease token nowMs then .ok ()
    else .error (.runLeaseLost ("Run lease is no longer current: " ++ runId))

/-- `_append_event_with_connection` of the workflow store. -/
def appendWorkflowEvent (db : Database) (runId eventType : String) (payload : Payload)
    (createdAt : String) : Database :=
  { db with
    workflowEvents :=
      db.workflowEvents ++ [newEvent db.workflowEvents runId eventType payload createdAt] }

/-- An update of one row of `workflow_executions`. -/
def updateExecution (db : Database) (runId : String) (change : ExecutionRow → ExecutionRow) :
    Database :=
  { db with executions := db.executions.modify runId change }

/-- An update of one row of `tool_calls`. -/
def updateStep (db : Database) (runId stepId : String) (change : ToolCallRow → ToolCallRow) :
    Database :=
  { db with toolCalls := db.toolCalls.modify (runId, stepId) change }

/-- An update of one row of `external_actions`. -/
def updateAction (db : Database) (runId stepId : String)
    (change : ExternalActionRow → ExternalActionRow) : Database :=
  { db with externalActions := db.externalActions.modify (runId, stepId) change }

/-- Some step already has the call id. -/
def callIdTaken (db : Database) (callId : String) : Bool :=
  db.toolCalls.rows.any fun entry ↦ entry.2.callId == callId

/-- A transaction that starts by asserting the Run lease. -/
def fenced {α : Type} (db : Database) (reading : Reading) (runId : String)
    (leaseToken : Option String) (transaction : Except StoreError (α × Database)) :
    Except StoreError (α × Database) :=
  match assertWorkflowLease db reading.nowMs runId leaseToken with
  | .error error => .error error
  | .ok () => transaction

/-! ### Executions -/

/-- `_resolve_execution_conflict`. -/
def resolveExecutionConflict (row : ExecutionRow) (workflowType inputHash : String) :
    ExecutionClaimResult :=
  if row.workflowType ≠ workflowType then ⟨.workflowTypeMismatch, row⟩
  else if row.inputHash ≠ inputHash then ⟨.inputMismatch, row⟩
  else ⟨.existing, row⟩

/-- The row of a new execution. -/
def pendingExecution (workflowType inputHash now : String) : ExecutionRow where
  workflowType := workflowType
  inputHash := inputHash
  status := .pending
  resultJson := none
  errorCode := none
  createdAt := now
  updatedAt := now
  completedAt := none

/-- `create_or_get_execution`. -/
def createOrGetExecution (db : Database) (reading : Reading)
    (runId workflowType inputHash : String) (leaseToken : Option String) :
    Except StoreError (ExecutionClaimResult × Database) :=
  fenced db reading runId leaseToken <|
    match db.executions.find runId with
    | some existing => .ok (resolveExecutionConflict existing workflowType inputHash, db)
    | none =>
      let row := pendingExecution workflowType inputHash (reading.utcNow 0)
      .ok (⟨.created, row⟩, { db with executions := db.executions.insert runId row })

/-- `get_execution`. -/
def getExecution (db : Database) (runId : String) : Option ExecutionRow :=
  db.executions.find runId

/-- The columns of a started execution. -/
def startedExecution (row : ExecutionRow) (now : String) : ExecutionRow :=
  { row with status := .running, updatedAt := now }

/-- `mark_running`. -/
def markRunning (db : Database) (reading : Reading) (runId : String)
    (leaseToken : Option String) : Except StoreError (ExecutionRow × Database) :=
  fenced db reading runId leaseToken <|
    match db.executions.find runId with
    | none => .error (.keyError ("Execution not found: " ++ runId))
    | some row =>
      if row.status = .pending then
        let started := startedExecution row (reading.utcNow 0)
        .ok (started, appendWorkflowEvent (updateExecution db runId fun _ ↦ started) runId
          "workflow.started" [] (reading.utcNow 1))
      else .ok (row, db)

/-- The columns of a terminal execution. -/
def finalizedExecution (row : ExecutionRow) (status : WorkflowStatus) (resultJson : Option Json)
    (errorCode : Option String) (now : String) : ExecutionRow :=
  { row with
    status := status
    resultJson := resultJson
    errorCode := errorCode
    updatedAt := now
    completedAt := some now }

/-- `_finalize_execution`: a RUNNING execution becomes terminal; any other is left as it is. -/
def finalizeExecution (db : Database) (reading : Reading) (runId : String)
    (status : WorkflowStatus) (resultJson : Option Json) (errorCode : Option String)
    (eventType : String) (leaseToken : Option String) :
    Except StoreError (ExecutionRow × Database) :=
  fenced db reading runId leaseToken <|
    match db.executions.find runId with
    | none => .error (.keyError ("Execution not found: " ++ runId))
    | some row =>
      if row.status = .running then
        let finalized := finalizedExecution row status resultJson errorCode (reading.utcNow 0)
        .ok (finalized, appendWorkflowEvent (updateExecution db runId fun _ ↦ finalized) runId
          eventType [("error_code", textColumn errorCode)] (reading.utcNow 1))
      else .ok (row, db)

/-- `finalize_ready`. -/
def finalizeReady (db : Database) (reading : Reading) (runId : String) (resultJson : Json)
    (leaseToken : Option String) : Except StoreError (ExecutionRow × Database) :=
  finalizeExecution db reading runId .ready (some resultJson) none "workflow.ready" leaseToken

/-- `finalize_blocked`. -/
def finalizeBlocked (db : Database) (reading : Reading) (runId : String) (resultJson : Json)
    (errorCode : String) (leaseToken : Option String) :
    Except StoreError (ExecutionRow × Database) :=
  finalizeExecution db reading runId .blocked (some resultJson) (some errorCode)
    "workflow.blocked" leaseToken

/-- `finalize_failed`. -/
def finalizeFailed (db : Database) (reading : Reading) (runId errorCode : String)
    (leaseToken : Option String) : Except StoreError (ExecutionRow × Database) :=
  finalizeExecution db reading runId .failed none (some errorCode) "workflow.failed" leaseToken

/-! ### Steps -/

/-- A step that holds the result of exactly this tool on this input. -/
def ToolCallRow.reusable (row : ToolCallRow) (toolName inputHash : String) : Bool :=
  row.status == .completed && row.toolName == toolName && row.inputHash == inputHash &&
    row.resultJson.isSome

/-- The row of a step copied from another execution: no attempt ran in the target. -/
def copiedStep (callId toolName inputHash : String) (resultJson : Option Json) (now : String) :
    ToolCallRow where
  callId := callId
  toolName := toolName
  inputHash := inputHash
  status := .completed
  attemptCount := 0
  attemptToken := none
  resultJson := resultJson
  errorCode := none
  createdAt := now
  updatedAt := now

/-- The copy of `reuse_completed_step`. An external action is never reused: its side effect belongs
to the source. -/
def copyStep (db : Database) (reading : Reading)
    (sourceRunId targetRunId stepId toolName inputHash : String) (sourceStep : ToolCallRow) :
    Except StoreError (StepReuseResult × Database) :=
  if !sourceStep.reusable toolName inputHash ||
      (db.externalActions.find (sourceRunId, stepId)).isSome then
    .ok (⟨.notReusable, some sourceStep⟩, db)
  else
    match db.toolCalls.find (targetRunId, stepId) with
    | some targetStep =>
      if targetStep.reusable toolName inputHash then .ok (⟨.existing, some targetStep⟩, db)
      else .ok (⟨.notReusable, some targetStep⟩, db)
    | none =>
      let copied := copiedStep ("call_" ++ reading.uuid 0) toolName inputHash
        sourceStep.resultJson (reading.utcNow 0)
      if callIdTaken db copied.callId then .error (.integrityError "tool_calls.call_id")
      else
        .ok (⟨.copied, some copied⟩,
          appendWorkflowEvent
            { db with toolCalls := db.toolCalls.insert (targetRunId, stepId) copied }
            targetRunId "step.replay_reused"
            [("step_id", .str stepId), ("tool_name", .str toolName),
              ("source_run_id", .str sourceRunId), ("attempt_count", .int 0),
              ("outcome", .str "reused")] (reading.utcNow 1))

/-- The transaction of `reuse_completed_step` after its lease assertion. -/
def reuseFenced (db : Database) (reading : Reading)
    (sourceRunId targetRunId stepId toolName inputHash : String) :
    Except StoreError (StepReuseResult × Database) :=
  match db.executions.find sourceRunId, db.executions.find targetRunId with
  | none, _ => .error (.keyError ("Source workflow execution not found: " ++ sourceRunId))
  | _, none => .error (.keyError ("Target workflow execution not found: " ++ targetRunId))
  | some source, some target =>
    if source.workflowType ≠ target.workflowType then
      .error (.valueError ("source and target workflow types do not match: "
        ++ pyRepr source.workflowType ++ " != " ++ pyRepr target.workflowType))
    else if source.status ≠ .ready ∧ source.status ≠ .blocked then
      .error (.valueError ("source execution " ++ pyRepr sourceRunId
        ++ " is not replayable from status " ++ pyRepr source.status.text))
    else if target.status ≠ .running then
      .error (.valueError ("target execution " ++ pyRepr targetRunId
        ++ " must be RUNNING to accept replay evidence, not " ++ pyRepr target.status.text))
    else
      match db.toolCalls.find (sourceRunId, stepId) with
      | none => .ok (⟨.notReusable, none⟩, db)
      | some sourceStep =>
        copyStep db reading sourceRunId targetRunId stepId toolName inputHash sourceStep

/-- `reuse_completed_step`. -/
def reuseCompletedStep (db : Database) (reading : Reading)
    (sourceRunId targetRunId stepId toolName inputHash : String) (leaseToken : Option String) :
    Except StoreError (StepReuseResult × Database) :=
  if sourceRunId = targetRunId then
    .error (.valueError "selective replay requires a different target run_id")
  else
    fenced db reading targetRunId leaseToken
      (reuseFenced db reading sourceRunId targetRunId stepId toolName inputHash)

/-- The payload of a `step.claimed` event. -/
def stepClaimedPayload (stepId toolName : String) (attemptCount : Nat) : Payload :=
  [("step_id", .str stepId), ("tool_name", .str toolName), ("attempt_count", Json.nat attemptCount)]

/-- The row of a step's first attempt. -/
def freshStep (callId attemptToken toolName inputHash now : String) : ToolCallRow where
  callId := callId
  toolName := toolName
  inputHash := inputHash
  status := .running
  attemptCount := 1
  attemptToken := some attemptToken
  resultJson := none
  errorCode := none
  createdAt := now
  updatedAt := now

/-- `_claim_fresh`: the first attempt of a step. -/
def claimFresh (db : Database) (reading : Reading) (runId stepId toolName inputHash : String) :
    Except StoreError (ClaimResult × Database) :=
  let token := "attempt_" ++ reading.uuid 0
  let step := freshStep ("call_" ++ reading.uuid 1) token toolName inputHash (reading.utcNow 0)
  if callIdTaken db step.callId then
    .error (.runtimeError ("Unexpected IntegrityError claiming " ++ runId ++ "/" ++ stepId
      ++ " with no competing row found; expected a concurrent UNIQUE(run_id, step_id) claim"))
  else
    .ok (⟨.claimed, step, some token⟩,
      appendWorkflowEvent { db with toolCalls := db.toolCalls.insert (runId, stepId) step } runId
        "step.claimed" (stepClaimedPayload stepId toolName 1) (reading.utcNow 1))

/-- The columns of a step's next attempt. -/
def retriedStep (previous : ToolCallRow) (attemptToken toolName now : String) : ToolCallRow :=
  { previous with
    status := .running
    attemptCount := previous.attemptCount + 1
    attemptToken := some attemptToken
    toolName := toolName
    errorCode := none
    updatedAt := now }

/-- `_claim_retry`: a FAILED step gets a fresh attempt. -/
def claimRetry (db : Database) (reading : Reading) (runId stepId toolName : String)
    (previous : ToolCallRow) : Except StoreError (ClaimResult × Database) :=
  if previous.status ≠ .failed then .ok (⟨.alreadyRunning, previous, none⟩, db)
  else
    let token := "attempt_" ++ reading.uuid 0
    let step := retriedStep previous token toolName (reading.utcNow 0)
    .ok (⟨.claimed, step, some token⟩,
      appendWorkflowEvent (updateStep db runId stepId fun _ ↦ step) runId "step.claimed"
        (stepClaimedPayload stepId toolName (previous.attemptCount + 1)) (reading.utcNow 1))

/-- `claim_step`. -/
def claimStep (db : Database) (reading : Reading) (runId stepId toolName inputHash : String)
    (maxAttempts : Nat) (leaseToken : Option String) :
    Except StoreError (ClaimResult × Database) :=
  if maxAttempts < 1 then .error (.valueError "max_attempts must be at least 1")
  else fenced db reading runId leaseToken <|
    match db.executions.find runId with
    | none => .error (.keyError ("Workflow execution not found: " ++ runId))
    | some _ =>
      match db.toolCalls.find (runId, stepId) with
      | none => claimFresh db reading runId stepId toolName inputHash
      | some record =>
        if record.toolName ≠ toolName then .ok (⟨.definitionMismatch, record, none⟩, db)
        else if record.inputHash ≠ inputHash then .ok (⟨.inputMismatch, record, none⟩, db)
        else if record.status = .completed then .ok (⟨.cached, record, none⟩, db)
        else if record.status = .running then .ok (⟨.alreadyRunning, record, none⟩, db)
        else if maxAttempts ≤ record.attemptCount then
          .ok (⟨.attemptsExhausted, record, none⟩, db)
        else claimRetry db reading runId stepId toolName record

/-- The message of a `StaleAttemptError`. -/
def staleAttemptMessage (runId stepId : String) : String :=
  "attempt_token does not currently hold " ++ runId ++ "/" ++ stepId
    ++ "; a newer attempt has already superseded it"

/-- The payload of a `step.completed` or `step.failed` event. -/
def stepFinishedPayload (stepId : String) (step : ToolCallRow) (outcome : String) : Payload :=
  [("step_id", .str stepId), ("tool_name", .str step.toolName),
    ("attempt_count", Json.nat step.attemptCount), ("error_code", textColumn step.errorCode),
    ("outcome", .str outcome)]

/-- The step runs under this attempt token. -/
def ToolCallRow.heldBy (row : ToolCallRow) (attemptToken : String) : Bool :=
  row.status == .running && row.attemptToken == some attemptToken

/-- The columns a finished step gets. -/
def finishedStep (row : ToolCallRow) (status : ToolCallStatus) (resultJson : Option Json)
    (errorCode : Option String) (updatedAt : String) : ToolCallRow :=
  { row with
    status := status, resultJson := resultJson, errorCode := errorCode, updatedAt := updatedAt }

/-- `_finalize_step`. -/
def finalizeStep (db : Database) (reading : Reading) (runId stepId attemptToken : String)
    (status : ToolCallStatus) (resultJson : Option Json) (errorCode : Option String)
    (eventType outcome : String) (leaseToken : Option String) :
    Except StoreError (ToolCallRow × Database) :=
  fenced db reading runId leaseToken <|
    match (db.toolCalls.find (runId, stepId)).filter fun row ↦ row.heldBy attemptToken with
    | none => .error (.staleAttempt (staleAttemptMessage runId stepId))
    | some row =>
      let finished := finishedStep row status resultJson errorCode (reading.utcNow 0)
      .ok (finished, appendWorkflowEvent (updateStep db runId stepId fun _ ↦ finished) runId
        eventType (stepFinishedPayload stepId finished outcome) (reading.utcNow 1))

/-- `complete_step`. -/
def completeStep (db : Database) (reading : Reading) (runId stepId attemptToken : String)
    (resultJson : Json) (leaseToken : Option String) :
    Except StoreError (ToolCallRow × Database) :=
  finalizeStep db reading runId stepId attemptToken .completed (some resultJson) none
    "step.completed" "completed" leaseToken

/-- `fail_step`. -/
def failStep (db : Database) (reading : Reading) (runId stepId attemptToken errorCode : String)
    (leaseToken : Option String) : Except StoreError (ToolCallRow × Database) :=
  finalizeStep db reading runId stepId attemptToken .failed none (some errorCode) "step.failed"
    "failed" leaseToken

/-- The columns of an abandoned step. -/
def interruptedStep (row : ToolCallRow) (now : String) : ToolCallRow :=
  { row with status := .failed, errorCode := some "interrupted", updatedAt := now }

/-- `recover_interrupted_step`: a RUNNING step is declared abandoned. -/
def recoverInterruptedStep (db : Database) (reading : Reading) (runId stepId : String)
    (leaseToken : Option String) : Except StoreError (ToolCallRow × Database) :=
  fenced db reading runId leaseToken <|
    match db.toolCalls.find (runId, stepId) with
    | none => .error (.keyError ("Step not found: " ++ runId ++ "/" ++ stepId))
    | some row =>
      if row.status = .running then
        let recovered := interruptedStep row (reading.utcNow 0)
        .ok (recovered, appendWorkflowEvent (updateStep db runId stepId fun _ ↦ recovered) runId
          "step.interrupted_recovery" [("step_id", .str stepId)] (reading.utcNow 1))
      else .ok (row, db)

/-- `get_step`. -/
def getStep (db : Database) (runId stepId : String) : Option ToolCallRow :=
  db.toolCalls.find (runId, stepId)

/-- `list_steps`, each step with its id. -/
def listSteps (db : Database) (runId : String) : List (String × ToolCallRow) :=
  ((db.toolCalls.rows.filter fun entry ↦ entry.1.1 == runId).map
    fun entry ↦ (entry.1.2, entry.2)).insertionSort
      fun left right ↦ left.2.createdAt ≤ right.2.createdAt

/-! ### External actions -/

/-- The arguments of `prepare_external_action` that identify the action. -/
structure ExternalActionIdentity where
  tenantId : String
  subjectId : String
  workflowType : String
  toolName : String
  providerName : String
  providerIdentity : String
  inputHash : String
  argumentsJson : Json
  retryMode : ExternalActionRetryMode
  idempotencyKey : String
  deriving DecidableEq

/-- `_external_action_identity`. -/
def externalActionIdentity (row : ExternalActionRow) : ExternalActionIdentity where
  tenantId := row.tenantId
  subjectId := row.subjectId
  workflowType := row.workflowType
  toolName := row.toolName
  providerName := row.providerName
  providerIdentity := row.providerIdentity
  inputHash := row.inputHash
  argumentsJson := row.argumentsJson
  retryMode := row.retryMode
  idempotencyKey := row.idempotencyKey

/-- Some text of the identity is empty. -/
def emptyIdentityField (runId stepId toolAttemptToken : String)
    (identity : ExternalActionIdentity) : Bool :=
  [runId, stepId, toolAttemptToken, identity.tenantId, identity.subjectId, identity.workflowType,
    identity.toolName, identity.providerName, identity.providerIdentity, identity.inputHash,
    identity.idempotencyKey].any String.isEmpty

/-- The row of a newly prepared action. -/
def preparedAction (identity : ExternalActionIdentity) (actionId now : String) :
    ExternalActionRow where
  actionId := actionId
  tenantId := identity.tenantId
  subjectId := identity.subjectId
  workflowType := identity.workflowType
  toolName := identity.toolName
  providerName := identity.providerName
  providerIdentity := identity.providerIdentity
  inputHash := identity.inputHash
  argumentsJson := identity.argumentsJson
  retryMode := identity.retryMode
  idempotencyKey := identity.idempotencyKey
  status := .prepared
  dispatchCount := 0
  dispatchToken := none
  providerReference := none
  resultJson := none
  errorCode := none
  createdAt := now
  updatedAt := now
  dispatchedAt := none
  finalizedAt := none

/-- The payload of an `external_action.prepared` event. -/
def preparedPayload (stepId : String) (action : ExternalActionRow) : Payload :=
  [("evidence_id", .str ("action:" ++ action.actionId ++ ":prepared")),
    ("action_id", .str action.actionId), ("step_id", .str stepId),
    ("tool_name", .str action.toolName), ("provider_name", .str action.providerName),
    ("retry_mode", .str action.retryMode.text), ("status", .str action.status.text)]

/-- The Run row carries the tenant and the subject of the identity. -/
def authorityMatches (row : RunRow) (identity : ExternalActionIdentity) : Bool :=
  row.tenantId == identity.tenantId &&
    match row.executionAuthority with
    | none => false
    | some authority =>
      authority.tenantId == identity.tenantId && authority.subjectId == identity.subjectId

/-- The insert of `prepare_external_action`. -/
def insertPrepared (db : Database) (reading : Reading) (runId stepId : String)
    (identity : ExternalActionIdentity) :
    Except StoreError (ExternalActionPrepareResult × Database) :=
  if db.externalActions.rows.any
      fun entry ↦ entry.2.idempotencyKey == identity.idempotencyKey then
    .ok (⟨.identityMismatch, none⟩, db)
  else
    let action := preparedAction identity ("action_" ++ reading.uuid 0) (reading.utcNow 0)
    if db.externalActions.rows.any fun entry ↦ entry.2.actionId == action.actionId then
      .error (.integrityError "external_actions.action_id")
    else
      .ok (⟨.created, some action⟩,
        appendWorkflowEvent
          { db with externalActions := db.externalActions.insert (runId, stepId) action } runId
          "external_action.prepared" (preparedPayload stepId action) (reading.utcNow 1))

/-- The transaction of `prepare_external_action` after its lease assertion. -/
def prepareFenced (db : Database) (reading : Reading) (runId stepId toolAttemptToken : String)
    (identity : ExternalActionIdentity) :
    Except StoreError (ExternalActionPrepareResult × Database) :=
  match db.runs.find runId with
  | none => .error (.keyError ("Run not found: " ++ runId))
  | some run =>
    if !authorityMatches run identity then .ok (⟨.identityMismatch, none⟩, db)
    else
      match db.executions.find runId, db.toolCalls.find (runId, stepId) with
      | none, _ => .error (.keyError ("Workflow execution not found: " ++ runId))
      | _, none => .error (.keyError ("Step not found: " ++ runId ++ "/" ++ stepId))
      | some execution, some step =>
        if execution.workflowType ≠ identity.workflowType ∨
            step.toolName ≠ identity.toolName ∨ step.inputHash ≠ identity.inputHash then
          .ok (⟨.identityMismatch, none⟩, db)
        else if !step.heldBy toolAttemptToken then .ok (⟨.toolAttemptMismatch, none⟩, db)
        else
          match db.externalActions.find (runId, stepId) with
          | some existing =>
            if externalActionIdentity existing = identity then
              .ok (⟨.existing, some existing⟩, db)
            else .ok (⟨.identityMismatch, some existing⟩, db)
          | none => insertPrepared db reading runId stepId identity

/-- `prepare_external_action`. The identity's arguments are compared and stored canonically. -/
def prepareExternalAction (db : Database) (reading : Reading) (runId stepId : String)
    (toolAttemptToken : String) (arguments : ExternalActionIdentity)
    (leaseToken : Option String) : Except StoreError (ExternalActionPrepareResult × Database) :=
  match arguments.argumentsJson with
  | .obj _ =>
    let identity := { arguments with argumentsJson := arguments.argumentsJson.sortKeys }
    if emptyIdentityField runId stepId toolAttemptToken identity then
      .error (.valueError "External action identity fields must be non-empty strings")
    else fenced db reading runId leaseToken
      (prepareFenced db reading runId stepId toolAttemptToken identity)
  | _ => .error (.valueError "External action JSON must encode an object")

/-- The message for a missing action. -/
def actionNotFoundMessage (runId stepId : String) : String :=
  "External action not found: " ++ runId ++ "/" ++ stepId

/-- `_assert_current_tool_attempt`. -/
def assertCurrentToolAttempt (db : Database) (runId stepId attemptToken : String) :
    Except StoreError ToolCallRow :=
  match db.toolCalls.find (runId, stepId) with
  | none => .error (.keyError ("Step not found: " ++ runId ++ "/" ++ stepId))
  | some step =>
    if step.heldBy attemptToken then .ok step
    else .error (.staleAttempt (staleAttemptMessage runId stepId))

/-- The columns of an action that is dispatched under a new token. -/
def dispatchedAction (action : ExternalActionRow) (token now : String) : ExternalActionRow :=
  { action with
    status := .dispatching
    dispatchCount := action.dispatchCount + 1
    dispatchToken := some token
    updatedAt := now
    dispatchedAt := some now }

/-- The payload of an `external_action.dispatch_started` event. -/
def dispatchStartedPayload (stepId : String) (action : ExternalActionRow) (retry : Bool) :
    Payload :=
  [("evidence_id",
      .str ("action:" ++ action.actionId ++ ":dispatch:" ++ toString action.dispatchCount)),
    ("action_id", .str action.actionId), ("step_id", .str stepId),
    ("tool_name", .str action.toolName), ("provider_name", .str action.providerName),
    ("status", .str action.status.text), ("dispatch_count", Json.nat action.dispatchCount),
    ("retry", .bool retry)]

/-- The dispatch both dispatch operations commit: a new token and one more count. -/
def recordDispatch (db : Database) (reading : Reading) (runId stepId : String)
    (action : ExternalActionRow) (retry : Bool) : Database :=
  let dispatched := dispatchedAction action ("dispatch_" ++ reading.uuid 0) (reading.utcNow 0)
  appendWorkflowEvent (updateAction db runId stepId fun _ ↦ dispatched) runId
    "external_action.dispatch_started" (dispatchStartedPayload stepId dispatched retry)
    (reading.utcNow 1)

/-- `begin_external_action_dispatch`: the first dispatch of a PREPARED action. -/
def beginExternalActionDispatch (db : Database) (reading : Reading) (runId stepId : String)
    (toolAttemptToken : String) (leaseToken : Option String) :
    Except StoreError (ExternalActionDispatchResult × Database) :=
  fenced db reading runId leaseToken <|
    match db.externalActions.find (runId, stepId) with
    | none => .error (.keyError (actionNotFoundMessage runId stepId))
    | some action =>
      if action.status.isTerminal then .ok (⟨.terminal, action, none⟩, db)
      else if action.status = .dispatching then
        .ok (⟨.alreadyDispatching, action, action.dispatchToken⟩, db)
      else
        match db.runs.find runId with
        | none => .error (.keyError ("Run not found: " ++ runId))
        | some run =>
          if run.status ≠ .running ∨ run.cancelRequested then
            .ok (⟨.runCancelled, action, none⟩, db)
          else
            match assertCurrentToolAttempt db runId stepId toolAttemptToken with
            | .error error => .error error
            | .ok _ =>
              let token := "dispatch_" ++ reading.uuid 0
              .ok (⟨.claimed, dispatchedAction action token (reading.utcNow 0), some token⟩,
                recordDispatch db reading runId stepId action false)

/-- The message of a `StaleDispatchError`. -/
def staleDispatchMessage (runId stepId : String) : String :=
  "dispatch_token does not currently hold " ++ runId ++ "/" ++ stepId

/-- `retry_external_action_dispatch`: rotate the token of a safely retryable dispatch. The cancel
flag is deliberately not consulted. -/
def retryExternalActionDispatch (db : Database) (reading : Reading) (runId stepId : String)
    (previousDispatchToken toolAttemptToken : String) (leaseToken : Option String) :
    Except StoreError (ExternalActionDispatchResult × Database) :=
  fenced db reading runId leaseToken <|
    match db.externalActions.find (runId, stepId) with
    | none => .error (.keyError (actionNotFoundMessage runId stepId))
    | some action =>
      if action.status.isTerminal then .ok (⟨.terminal, action, none⟩, db)
      else if action.status ≠ .dispatching then .ok (⟨.notDispatching, action, none⟩, db)
      else if action.retryMode = .unsafeRetry then
        .ok (⟨.retryUnsafe, action, action.dispatchToken⟩, db)
      else if action.dispatchToken ≠ some previousDispatchToken then
        .error (.staleDispatch (staleDispatchMessage runId stepId))
      else
        match assertCurrentToolAttempt db runId stepId toolAttemptToken with
        | .error error => .error error
        | .ok _ =>
          let token := "dispatch_" ++ reading.uuid 0
          .ok (⟨.retryClaimed, dispatchedAction action token (reading.utcNow 0), some token⟩,
            recordDispatch db reading runId stepId action true)

/-- `_validate_error_code`, for codes of ASCII characters. -/
def validErrorCode (errorCode : String) : Bool :=
  match errorCode.toList with
  | [] => false
  | first :: rest =>
    decide (errorCode.length ≤ 200) && first.isAlpha &&
      (first :: rest).all fun char ↦ char.isAlphanum || char == '_' || char == '.' || char == '-'

/-- The terminal outcome that `_finalize_external_action` writes. -/
structure ExternalActionOutcome where
  actionStatus : ExternalActionStatus
  toolStatus : ToolCallStatus
  resultJson : Option Json
  providerReference : Option String
  errorCode : Option String

/-- The argument checks of `_finalize_external_action`, with the canonical result. -/
def checkedOutcome (outcome : ExternalActionOutcome) :
    Except StoreError ExternalActionOutcome :=
  if !outcome.actionStatus.isTerminal then
    .error (.valueError "External action final status must be terminal")
  else if outcome.actionStatus = .succeeded then
    if outcome.toolStatus ≠ .completed ∨ outcome.resultJson.isNone then
      .error (.valueError "A succeeded external action requires a completed tool result")
    else if (outcome.providerReference.getD "").isEmpty then
      .error (.valueError "A succeeded external action requires a provider reference")
    else if outcome.errorCode.isSome then
      .error (.valueError "A succeeded external action cannot carry an error code")
    else
      match outcome.resultJson with
      | some (.obj fields) =>
        .ok { outcome with resultJson := some (Json.obj fields).sortKeys }
      | _ => .error (.valueError "External action JSON must encode an object")
  else if outcome.toolStatus ≠ .failed ∨ (outcome.errorCode.getD "").isEmpty then
    .error (.valueError "A failed or unknown external action requires an error code")
  else if !validErrorCode (outcome.errorCode.getD "") then
    .error (.valueError "External action error_code must be a stable machine code")
  else .ok { outcome with resultJson := none }

/-- The terminal row repeats exactly this outcome. -/
def exactDuplicate (action : ExternalActionRow) (step : ToolCallRow)
    (outcome : ExternalActionOutcome) (dispatchToken toolAttemptToken : String) : Bool :=
  action.status == outcome.actionStatus && action.dispatchToken == some dispatchToken &&
    action.providerReference == outcome.providerReference &&
    action.resultJson == outcome.resultJson && action.errorCode == outcome.errorCode &&
    step.status == outcome.toolStatus && step.attemptToken == some toolAttemptToken &&
    step.resultJson == outcome.resultJson && step.errorCode == outcome.errorCode

/-- The columns of a finalized action. -/
def finalizedAction (action : ExternalActionRow) (outcome : ExternalActionOutcome)
    (now : String) : ExternalActionRow :=
  { action with
    status := outcome.actionStatus
    providerReference := outcome.providerReference
    resultJson := outcome.resultJson
    errorCode := outcome.errorCode
    updatedAt := now
    finalizedAt := some now }

/-- The payload of the event that records an action's outcome. -/
def outcomePayload (stepId : String) (action : ExternalActionRow)
    (outcome : ExternalActionOutcome) : Payload :=
  [("evidence_id", .str ("action:" ++ action.actionId ++ ":outcome")),
    ("action_id", .str action.actionId), ("step_id", .str stepId),
    ("tool_name", .str action.toolName), ("provider_name", .str action.providerName),
    ("status", .str outcome.actionStatus.text), ("dispatch_count", Json.nat action.dispatchCount),
    ("provider_reference", textColumn outcome.providerReference),
    ("error_code", textColumn outcome.errorCode)]

/-- The commit of `_finalize_external_action`: the action, its step and their two events. -/
def recordOutcome (db : Database) (reading : Reading) (runId stepId : String)
    (action : ExternalActionRow) (step : ToolCallRow) (outcome : ExternalActionOutcome) :
    Database :=
  let now := reading.utcNow 0
  let finished := finishedStep step outcome.toolStatus outcome.resultJson outcome.errorCode now
  let updated := updateStep
    (updateAction db runId stepId fun _ ↦ finalizedAction action outcome now)
    runId stepId fun _ ↦ finished
  let noted := appendWorkflowEvent updated runId ("external_action." ++ outcome.actionStatus.text)
    (outcomePayload stepId action outcome) (reading.utcNow 1)
  let completed := outcome.toolStatus == .completed
  appendWorkflowEvent noted runId (if completed then "step.completed" else "step.failed")
    (stepFinishedPayload stepId finished (if completed then "completed" else "failed"))
    (reading.utcNow 2)

/-- The transaction of `_finalize_external_action` after its checks and its lease assertion. -/
def finalizeDispatched (db : Database) (reading : Reading) (runId stepId : String)
    (dispatchToken toolAttemptToken : String) (outcome : ExternalActionOutcome)
    (requiredRetryMode : Option ExternalActionRetryMode) :
    Except StoreError (ExternalActionRow × Database) :=
  match db.externalActions.find (runId, stepId) with
  | none => .error (.keyError (actionNotFoundMessage runId stepId))
  | some action =>
    if requiredRetryMode.isSome && requiredRetryMode != some action.retryMode then
      .error (.valueError ("External action " ++ runId ++ "/" ++ stepId ++ " has retry mode "
        ++ pyRepr action.retryMode.text ++ ", not "
        ++ pyRepr ((requiredRetryMode.map ExternalActionRetryMode.text).getD "")))
    else if action.status.isTerminal then
      match db.toolCalls.find (runId, stepId) with
      | none => .error (.runtimeError "Terminal external action lost its parent tool call")
      | some step =>
        if exactDuplicate action step outcome dispatchToken toolAttemptToken then .ok (action, db)
        else .error (.staleDispatch ("External action " ++ runId ++ "/" ++ stepId
          ++ " already has a different terminal outcome"))
    else if action.status ≠ .dispatching ∨ action.dispatchToken ≠ some dispatchToken then
      .error (.staleDispatch (staleDispatchMessage runId stepId))
    else
      match assertCurrentToolAttempt db runId stepId toolAttemptToken with
      | .error error => .error error
      | .ok step =>
        .ok (finalizedAction action outcome (reading.utcNow 0),
          recordOutcome db reading runId stepId action step outcome)

/-- `_finalize_external_action` for a provider's response, which needs no Run lease. -/
def finalizeProviderOutcome (db : Database) (reading : Reading) (runId stepId : String)
    (dispatchToken toolAttemptToken : String) (outcome : ExternalActionOutcome) :
    Except StoreError (ExternalActionRow × Database) :=
  match checkedOutcome outcome with
  | .error error => .error error
  | .ok checked =>
    finalizeDispatched db reading runId stepId dispatchToken toolAttemptToken checked none

/-- `_finalize_external_action` for a decision of the current attempt. -/
def finalizeAttemptOutcome (db : Database) (reading : Reading) (runId stepId : String)
    (dispatchToken toolAttemptToken : String) (outcome : ExternalActionOutcome)
    (requiredRetryMode : Option ExternalActionRetryMode) (leaseToken : Option String) :
    Except StoreError (ExternalActionRow × Database) :=
  match checkedOutcome outcome with
  | .error error => .error error
  | .ok checked =>
    fenced db reading runId leaseToken <|
      finalizeDispatched db reading runId stepId dispatchToken toolAttemptToken checked
        requiredRetryMode

/-- `finalize_external_action_succeeded`. -/
def finalizeExternalActionSucceeded (db : Database) (reading : Reading) (runId stepId : String)
    (dispatchToken toolAttemptToken : String) (resultJson : Json) (providerReference : String)
    (errorCode : Option String) : Except StoreError (ExternalActionRow × Database) :=
  finalizeProviderOutcome db reading runId stepId dispatchToken toolAttemptToken
    { actionStatus := .succeeded
      toolStatus := .completed
      resultJson := some resultJson
      providerReference := some providerReference
      errorCode := errorCode }

/-- `finalize_external_action_failed`. -/
def finalizeExternalActionFailed (db : Database) (reading : Reading) (runId stepId : String)
    (dispatchToken toolAttemptToken errorCode : String) (providerReference : Option String) :
    Except StoreError (ExternalActionRow × Database) :=
  finalizeProviderOutcome db reading runId stepId dispatchToken toolAttemptToken
    { actionStatus := .failed
      toolStatus := .failed
      resultJson := none
      providerReference := providerReference
      errorCode := some errorCode }

/-- `finalize_external_action_outcome_unknown`. -/
def finalizeExternalActionOutcomeUnknown (db : Database) (reading : Reading)
    (runId stepId dispatchToken toolAttemptToken errorCode : String)
    (providerReference : Option String) : Except StoreError (ExternalActionRow × Database) :=
  finalizeProviderOutcome db reading runId stepId dispatchToken toolAttemptToken
    { actionStatus := .outcomeUnknown
      toolStatus := .failed
      resultJson := none
      providerReference := providerReference
      errorCode := some errorCode }

/-- `finalize_external_action_reconciliation_unknown`. -/
def finalizeExternalActionReconciliationUnknown (db : Database) (reading : Reading)
    (runId stepId dispatchToken toolAttemptToken errorCode : String)
    (providerReference leaseToken : Option String) :
    Except StoreError (ExternalActionRow × Database) :=
  finalizeAttemptOutcome db reading runId stepId dispatchToken toolAttemptToken
    { actionStatus := .outcomeUnknown
      toolStatus := .failed
      resultJson := none
      providerReference := providerReference
      errorCode := some errorCode }
    none leaseToken

/-- `finalize_unsafe_interrupted_action`. -/
def finalizeUnsafeInterruptedAction (db : Database) (reading : Reading)
    (runId stepId dispatchToken toolAttemptToken errorCode : String)
    (leaseToken : Option String) : Except StoreError (ExternalActionRow × Database) :=
  finalizeAttemptOutcome db reading runId stepId dispatchToken toolAttemptToken
    { actionStatus := .outcomeUnknown
      toolStatus := .failed
      resultJson := none
      providerReference := none
      errorCode := some errorCode }
    (some .unsafeRetry) leaseToken

/-- `get_external_action`. -/
def getExternalAction (db : Database) (runId stepId : String) : Option ExternalActionRow :=
  db.externalActions.find (runId, stepId)

/-- `list_external_actions`, each action with its step. -/
def listExternalActions (db : Database) (runId : String) : List (String × ExternalActionRow) :=
  ((db.externalActions.rows.filter fun entry ↦ entry.1.1 == runId).map
    fun entry ↦ (entry.1.2, entry.2)).insertionSort
      fun left right ↦ left.2.createdAt ≤ right.2.createdAt

/-- `has_external_action_requiring_reconciliation`: every dispatched action counts, whatever its
status. -/
def hasExternalActionRequiringReconciliation (db : Database) (runId : String) : Bool :=
  db.externalActions.rows.any fun entry ↦
    entry.1.1 == runId && decide (0 < entry.2.dispatchCount)

/-! ### Events -/

/-- `append_event`. -/
def appendEvent (db : Database) (reading : Reading) (runId eventType : String)
    (payload : Payload) (leaseToken : Option String) :
    Except StoreError (EventRow × Database) :=
  fenced db reading runId leaseToken <|
    match db.executions.find runId with
    | none => .error (.integrityError "workflow_events.run_id")
    | some _ =>
      .ok (newEvent db.workflowEvents runId eventType payload (reading.utcNow 0),
        appendWorkflowEvent db runId eventType payload (reading.utcNow 0))

/-- `list_events`: appended in the order of their sequences. -/
def listEvents (db : Database) (runId : String) (afterSequence : Nat) : List EventRow :=
  db.workflowEvents.filter fun event ↦
    event.runId == runId && decide (afterSequence < event.sequence)

/-- `WorkflowRunSnapshot`. -/
structure WorkflowRunSnapshot where
  execution : Option ExecutionRow
  steps : List (String × ToolCallRow)
  externalActions : List (String × ExternalActionRow)
  events : List EventRow

/-- `read_run_snapshot`: four reads of one transaction. -/
def readRunSnapshot (db : Database) (runId : String) (afterSequence : Nat) :
    WorkflowRunSnapshot where
  execution := getExecution db runId
  steps := listSteps db runId
  externalActions := listExternalActions db runId
  events := listEvents db runId afterSequence

end AgentRuntime.Store
