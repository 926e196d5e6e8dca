import Mathlib.Data.List.MinMax
import Mathlib.Data.Prod.Lex
import Mathlib.Data.String.Basic
import AgentRuntime.Store.Records

/-!
# The operations of `SQLiteRunStore`

Each public operation of the Run store is one transaction: a function from the database, the
call's clock readings and its arguments to a reply and the next database, or to the exception
that rolled it back. Guards, written columns, event types and payloads follow the SQL statement by
statement. An `UPDATE` is checked against the two unique indexes of `runs` where it can move a row
inside them (`claimNextRun`, `commitCancelledRun` and the insert); the other updates keep the
indexed columns or take the row out of `idx_runs_one_running_per_thread`.

Python's commit operations also write their result back into the record they were given; the
record they leave is part of the reply.
-/

set_option autoImplicit false
set_option relaxedAutoImplicit false

namespace AgentRuntime.Store

open Library

/-- `THREAD_CHECKPOINT_CONFLICT_CODE`. -/
def threadCheckpointConflictCode : String := "thread_checkpoint_conflict"

/-- `THREAD_CHECKPOINT_RECONCILIATION_BLOCKED_CODE`. -/
def threadCheckpointReconciliationBlockedCode : String :=
  "thread_checkpoint_conflict_reconciliation_pending"

/-! ### Shared parts of the transactions -/

/-- `column = ?` in SQL: a comparison with `NULL` on either side does not hold. -/
def sqlEq (column value : Option String) : Bool :=
  column.isSome && column == value

namespace RunRow

/-- `lease_token = ? AND lease_expires_at > ?`. -/
def holdsLease (row : RunRow) (leaseToken : String) (nowMs : Int) : Bool :=
  row.leaseToken == some leaseToken &&
    match row.leaseExpiresAt with
    | some expiresAt => decide (nowMs < expiresAt)
    | none => false

/-- `lease_token IS NULL OR lease_expires_at IS NULL OR lease_expires_at <= ?`. -/
def leaseLapsed (row : RunRow) (nowMs : Int) : Bool :=
  row.leaseToken.isNone ||
    match row.leaseExpiresAt with
    | some expiresAt => decide (expiresAt ≤ nowMs)
    | none => true

/-- The four lease columns set to `NULL`. -/
def clearLease (row : RunRow) : RunRow :=
  { row with
    leaseOwnerId := none, leaseToken := none, leaseHeartbeatAt := none, leaseExpiresAt := none }

/-- All four lease columns are `NULL`. -/
def leaseCleared (row : RunRow) : Bool :=
  row.leaseOwnerId.isNone && row.leaseToken.isNone && row.leaseHeartbeatAt.isNone &&
    row.leaseExpiresAt.isNone

/-- Two rows of one tenant-qualified thread. -/
def sameThread (row other : RunRow) : Bool :=
  row.tenantId == other.tenantId && row.threadId == other.threadId

end RunRow

/-- `run.lease_owner_id = None` and its three siblings. -/
def RunRecord.clearLease (run : RunRecord) : RunRecord :=
  { run with
    leaseOwnerId := none, leaseToken := none, leaseHeartbeatAt := none, leaseExpiresAt := none }

/-- `SELECT … FROM runs WHERE run_id = ? AND tenant_id = ?`. -/
def findRunForTenant (db : Database) (runId tenantId : String) : Option RunRow :=
  (db.runs.find runId).filter fun row ↦ row.tenantId == tenantId

/-- `COALESCE(MAX(sequence), 0) + 1` over the events of a Run. -/
def nextSequence (events : List EventRow) (runId : String) : Nat :=
  ((events.filter fun event ↦ event.runId == runId).map EventRow.sequence).foldr max 0 + 1

/-- The event `_append_event_with_connection` writes. -/
def newEvent (events : List EventRow) (runId eventType : String) (payload : Payload)
    (createdAt : String) : EventRow where
  runId := runId
  sequence := nextSequence events runId
  eventType := eventType
  payload := payload
  createdAt := createdAt

/-- `_append_event_with_connection` of the Run store. Every caller holds the Run's row, so the
foreign key of `run_events` is satisfied. -/
def appendRunEvent (db : Database) (runId eventType : String) (payload : Payload)
    (createdAt : String) : Database :=
  { db with runEvents := db.runEvents ++ [newEvent db.runEvents runId eventType payload createdAt] }

/-- An update of one row of `runs`. -/
def updateRun (db : Database) (runId : String) (change : RunRow → RunRow) : Database :=
  { db with runs := db.runs.modify runId change }

/-- `_thread_revision`: zero stands for the absence of a checkpoint row. -/
def threadRevision (db : Database) (tenantId threadId : String) : Nat :=
  match db.threadStates.find (tenantId, threadId) with
  | some checkpoint => checkpoint.revision
  | none => 0

/-- Another Run of the row's tenant already holds its `client_request_id`. -/
def clientRequestTaken (db : Database) (runId : String) (row : RunRow) : Bool :=
  row.clientRequestId.isSome &&
    db.runs.rows.any fun entry ↦
      entry.1 != runId && entry.2.tenantId == row.tenantId &&
        entry.2.clientRequestId == row.clientRequestId

/-- Another Run of the row's thread is RUNNING. -/
def threadOccupied (db : Database) (runId : String) (row : RunRow) : Bool :=
  db.runs.rows.any fun entry ↦
    entry.1 != runId && entry.2.sameThread row && entry.2.status == .running

/-! ### Creation -/

/-- The record is one that `_assert_new_queued_run` lets through. -/
def isNewQueuedRun (run : RunRecord) : Bool :=
  run.status == .queued && run.attempt == 0 && !run.cancelRequested && run.startedAt.isNone &&
    run.completedAt.isNone && run.outputMessage.isNone && run.validationErrors.isEmpty &&
    run.errorCode.isNone && run.error.isNone && run.checkpointBaseRevision.isNone &&
    run.leaseOwnerId.isNone && run.leaseToken.isNone && run.leaseHeartbeatAt.isNone &&
    run.leaseExpiresAt.isNone

/-- `_assert_new_queued_run`. -/
def assertNewQueuedRun (run : RunRecord) : Except StoreError Unit :=
  if isNewQueuedRun run then .ok ()
  else .error (.valueError "New Runs must be pristine queued records without lease authority")

/-- `_insert_run_with_connection`, with the primary key and the unique indexes of `runs`. -/
def insertRun (db : Database) (run : RunRecord) : Except StoreError Database :=
  if (db.runs.find run.runId).isSome then .error (.integrityError "runs.run_id")
  else if clientRequestTaken db run.runId (runValues run) then
    .error (.integrityError "idx_runs_tenant_client_request_id")
  else if run.status == .running && threadOccupied db run.runId (runValues run) then
    .error (.integrityError "idx_runs_one_running_per_thread")
  else .ok { db with runs := db.runs.insert run.runId (runValues run) }

/-- Some other Run of the record's thread is QUEUED or RUNNING. -/
def threadHasNonterminal (db : Database) (run : RunRecord) : Bool :=
  db.runs.rows.any fun entry ↦
    entry.2.tenantId == run.tenantId && entry.2.threadId == run.threadId &&
      entry.1 != run.runId && (entry.2.status == .queued || entry.2.status == .running)

/-- `_prepare_client_state_seed`: client state is allowed only as the first history entry of a
thread, and then stands on revision 0. -/
def prepareClientStateSeed (db : Database) (run : RunRecord) :
    Except StoreError (RunRecord × Database) :=
  if run.state.isNone then .ok (run, db)
  else if (db.threadStates.find (run.tenantId, run.threadId)).isSome ||
      threadHasNonterminal db run then
    .error (.threadStateConflict
      ("Client-provided state can only initialize an empty thread; omit state to continue thread "
        ++ pyRepr run.threadId))
  else
    .ok ({ run with checkpointBaseRevision := some 0 },
      updateRun db run.runId fun row ↦ { row with checkpointBaseRevision := some 0 })

/-- `create_run`. -/
def createRun (db : Database) (run : RunRecord) : Except StoreError (RunRecord × Database) :=
  match assertNewQueuedRun run with
  | .error error => .error error
  | .ok () =>
    match insertRun db run with
    | .error error => .error error
    | .ok inserted => prepareClientStateSeed inserted run

/-- `create_run_with_event`: the Run and its first event in one transaction. -/
def createRunWithEvent (db : Database) (reading : Reading) (run : RunRecord) (eventType : String)
    (payload : Payload) : Except StoreError (RunRecord × Database) :=
  match assertNewQueuedRun run with
  | .error error => .error error
  | .ok () =>
    if eventType ≠ "run.queued" then
      .error (.valueError "A new Run's initial event must be run.queued")
    else
      match insertRun db run with
      | .error error => .error error
      | .ok inserted =>
        match prepareClientStateSeed inserted run with
        | .error error => .error error
        | .ok (seeded, prepared) =>
          .ok (seeded, appendRunEvent prepared run.runId eventType payload (reading.utcNow 0))

/-! ### Claims and leases -/

/-- `claim_next_run` took `run` for `owner_id`. -/
structure RunLeaseClaim where
  run : RunRecord
  ownerId : String
  leaseToken : String
  recoveryReason : Option RunLeaseRecoveryReason

/-- The first branch of the claim: a QUEUED Run without a cancel request, in a thread without a
RUNNING Run. -/
def queuedCandidate (db : Database) (row : RunRow) : Bool :=
  row.status == .queued && !row.cancelRequested &&
    !(db.runs.rows.any fun entry ↦ entry.2.sameThread row && entry.2.status == .running)

/-- Another Run of the thread is RUNNING under a live lease. -/
def liveThreadRun (db : Database) (runId : String) (row : RunRow) (nowMs : Int) : Bool :=
  db.runs.rows.any fun entry ↦
    entry.2.sameThread row && entry.1 != runId && entry.2.status == .running &&
      entry.2.leaseToken.isSome &&
        match entry.2.leaseExpiresAt with
        | some expiresAt => decide (nowMs < expiresAt)
        | none => false

/-- The second branch of the claim: a RUNNING Run that captured its checkpoint base, is not
quarantined, whose lease lapsed, in a thread without another live Run. -/
def expiredCandidate (db : Database) (runId : String) (row : RunRow) (nowMs : Int) : Bool :=
  row.status == .running && row.checkpointBaseRevision.isSome &&
    row.errorCode != some threadCheckpointReconciliationBlockedCode && row.leaseLapsed nowMs &&
    !liveThreadRun db runId row nowMs

/-- The `WHERE` clause of the candidate query. -/
def claimable (db : Database) (runId : String) (row : RunRow) (nowMs : Int) : Bool :=
  queuedCandidate db row || expiredCandidate db runId row nowMs

/-- The `WHERE` clause of the claiming `UPDATE`, which excludes the row itself from the thread
scan of the first branch. -/
def claimUpdatable (db : Database) (runId : String) (row : RunRow) (nowMs : Int) : Bool :=
  (row.status == .queued && !row.cancelRequested && !threadOccupied db runId row) ||
    expiredCandidate db runId row nowMs

/-- `ORDER BY created_at, run_id`. -/
def creationOrder (entry : String × RunRow) : Lex (String × String) :=
  toLex (entry.2.createdAt, entry.1)

/-- `SELECT candidate.* … LIMIT 1`. -/
def claimCandidate (db : Database) (nowMs : Int) : Option (String × RunRow) :=
  (db.runs.rows.filter fun entry ↦ claimable db entry.1 entry.2 nowMs).argmin creationOrder

/-- The columns the claiming `UPDATE` writes. -/
def claimedRow (db : Database) (row : RunRow) (ownerId leaseToken : String) (timestamp : String)
    (nowMs expiresAt : Int) (reconciliationPendingCode : Option String) : RunRow :=
  { row with
    status := .running
    startedAt := some timestamp
    attempt := row.attempt + 1
    error := if sqlEq row.errorCode reconciliationPendingCode then row.error else none
    errorCode := if sqlEq row.errorCode reconciliationPendingCode then row.errorCode else none
    updatedAt := timestamp
    leaseOwnerId := some ownerId
    leaseToken := some leaseToken
    leaseHeartbeatAt := some nowMs
    leaseExpiresAt := some expiresAt
    checkpointBaseRevision :=
      some (row.checkpointBaseRevision.getD (threadRevision db row.tenantId row.threadId)) }

/-- Why a RUNNING Run is claimed again. -/
def recoveryReason (row : RunRow) : Option RunLeaseRecoveryReason :=
  if row.status == .running then
    if row.leaseToken.isNone || row.leaseExpiresAt.isNone then some .legacyUnleased
    else some .leaseExpired
  else none

/-- The `reason` of a `run.recovered` event. -/
def recoveredReasonText (row : RunRow) (reason : RunLeaseRecoveryReason)
    (reconciliationPendingCode : Option String) : String :=
  match reconciliationPendingCode with
  | some code => if row.errorCode == some code then code else reason.text
  | none => reason.text

/-- The `run.recovered` event of a takeover. -/
def appendRecoveredEvent (db : Database) (runId : String) (row : RunRow)
    (reconciliationPendingCode : Option String) (createdAt : String) : Database :=
  match recoveryReason row with
  | none => db
  | some reason =>
    appendRunEvent db runId "run.recovered"
      [("reason", .str (recoveredReasonText row reason reconciliationPendingCode))] createdAt

/-- The `run.started` event of a claim. -/
def startedPayload (row claimed : RunRow) : Payload :=
  [("attempt", .int claimed.attempt), ("recovered", .bool (recoveryReason row).isSome),
    ("checkpoint_base_revision", Json.ofOption Json.nat claimed.checkpointBaseRevision)]

/-- `claim_next_run`. -/
def claimNextRun (db : Database) (reading : Reading) (ownerId : String)
    (leaseDurationSeconds : Int) (reconciliationPendingCode : Option String) :
    Except StoreError (Option RunLeaseClaim × Database) :=
  if ownerId.isEmpty then .error (.valueError "owner_id must not be empty")
  else if leaseDurationSeconds ≤ 0 then
    .error (.valueError "lease_duration_seconds must be positive")
  else
    match claimCandidate db reading.nowMs with
    | none => .ok (none, db)
    | some (runId, row) =>
      if claimUpdatable db runId row reading.nowMs then
        let leaseToken := "lease_" ++ reading.uuid 0
        let claimed := claimedRow db row ownerId leaseToken (reading.utcNow 0) reading.nowMs
          (reading.nowMs + leaseDurationSeconds * 1000) reconciliationPendingCode
        if threadOccupied db runId row then
          .error (.integrityError "idx_runs_one_running_per_thread")
        else
          let updated := updateRun db runId fun _ ↦ claimed
          let recovered := appendRecoveredEvent updated runId row reconciliationPendingCode
            (reading.utcNow 1)
          .ok (some
              { run := rowToRun runId claimed
                ownerId := ownerId
                leaseToken := leaseToken
                recoveryReason := recoveryReason row },
            appendRunEvent recovered runId "run.started" (startedPayload row claimed)
              (reading.utcNow 2))
      else .ok (none, db)

/-- The row of a Run that is RUNNING under a current lease. -/
def currentAttempt (db : Database) (runId leaseToken : String) (nowMs : Int) : Option RunRow :=
  (db.runs.find runId).filter fun row ↦
    row.status == .running && row.holdsLease leaseToken nowMs

/-- `renew_run_lease`. -/
def renewRunLease (db : Database) (reading : Reading) (runId leaseToken : String)
    (leaseDurationSeconds : Int) : Except StoreError (Bool × Database) :=
  if leaseToken.isEmpty then .error (.valueError "lease_token must not be empty")
  else if leaseDurationSeconds ≤ 0 then
    .error (.valueError "lease_duration_seconds must be positive")
  else
    match currentAttempt db runId leaseToken reading.nowMs with
    | none => .ok (false, db)
    | some _ =>
      .ok (true, updateRun db runId fun row ↦
        { row with
          leaseHeartbeatAt := some reading.nowMs
          leaseExpiresAt := some (reading.nowMs + leaseDurationSeconds * 1000)
          updatedAt := reading.utcNow 0 })

/-- `expire_run_lease`: the deadline is not consulted. -/
def expireRunLease (db : Database) (reading : Reading) (runId leaseToken : String) :
    Except StoreError (Bool × Database) :=
  if leaseToken.isEmpty then .error (.valueError "lease_token must not be empty")
  else
    match (db.runs.find runId).filter fun row ↦
        row.status == .running && row.leaseToken == some leaseToken with
    | none => .ok (false, db)
    | some _ =>
      .ok (true, updateRun db runId fun row ↦
        { row with
          leaseHeartbeatAt := some reading.nowMs
          leaseExpiresAt := some reading.nowMs
          updatedAt := reading.utcNow 0 })

/-- `assert_current_run_lease`. -/
def assertCurrentRunLease (db : Database) (nowMs : Int) (runId : String)
    (leaseToken : Option String) : Except StoreError Unit :=
  match leaseToken with
  | none => .error (.runLeaseLost ("Run lease token is required: " ++ runId))
  | some token =>
    match currentAttempt db runId token nowMs with
    | none => .error (.runLeaseLost ("Run lease is no longer current: " ++ runId))
    | some _ => .ok ()

/-- `append_attempt_event`. -/
def appendAttemptEvent (db : Database) (reading : Reading) (runId : String)
    (leaseToken : Option String) (eventType : String) (payload : Payload) :
    Except StoreError (EventRow × Database) :=
  match assertCurrentRunLease db reading.nowMs runId leaseToken with
  | .error error => .error error
  | .ok () =>
    .ok (newEvent db.runEvents runId eventType payload (reading.utcNow 0),
      appendRunEvent db runId eventType payload (reading.utcNow 0))

/-- The event types `append_control_plane_event` accepts. -/
def controlPlaneEventTypes : List String :=
  ["sandbox.execution_started", "sandbox.execution_finished"]

/-- `append_control_plane_event`. -/
def appendControlPlaneEvent (db : Database) (reading : Reading) (runId tenantId eventType : String)
    (payload : Payload) : Except StoreError (EventRow × Database) :=
  if eventType ∉ controlPlaneEventTypes then
    .error (.valueError ("Unsupported control-plane Run event: " ++ eventType))
  else
    match findRunForTenant db runId tenantId with
    | none => .error (.keyError ("Run not found: " ++ runId))
    | some _ =>
      .ok (newEvent db.runEvents runId eventType payload (reading.utcNow 0),
        appendRunEvent db runId eventType payload (reading.utcNow 0))

/-! ### Cancellation -/

/-- `finalize_next_queued_cancellation`: terminalize one Run cancelled before its first claim. -/
def finalizeNextQueuedCancellation (db : Database) (reading : Reading) :
    Except StoreError (Option RunRecord × Database) :=
  match (db.runs.rows.filter fun entry ↦
      entry.2.status == .queued && entry.2.cancelRequested).argmin creationOrder with
  | none => .ok (none, db)
  | some (runId, row) =>
    let cancelled : RunRow := RunRow.clearLease
      { row with
        status := .cancelled
        errorCode := none
        error := none
        completedAt := some (reading.utcNow 0)
        updatedAt := reading.utcNow 0 }
    .ok (some (rowToRun runId cancelled),
      appendRunEvent (updateRun db runId fun _ ↦ cancelled) runId "run.cancelled"
        [("reason", .str "cancelled_before_start")] (reading.utcNow 1))

/-- `request_cancel_atomically`. -/
def requestCancelAtomically (db : Database) (reading : Reading) (runId tenantId : String) :
    Except StoreError (RunRecord × Database) :=
  match findRunForTenant db runId tenantId with
  | none => .error (.keyError ("Run not found: " ++ runId))
  | some row =>
    if (row.status == .queued || row.status == .running) && !row.cancelRequested then
      let requested : RunRow :=
        { row with cancelRequested := true, updatedAt := reading.utcNow 0 }
      .ok (rowToRun runId requested,
        appendRunEvent (updateRun db runId fun _ ↦ requested) runId "run.cancel_requested"
          [("status", .str row.status.text)] (reading.utcNow 1))
    else .ok (rowToRun runId row, db)

/-! ### Fenced commits -/

/-- `_classify_commit_outcome`. -/
def classifyCommitOutcome (db : Database) (runId tenantId leaseToken : String) (nowMs : Int) :
    Except StoreError RunCommitOutcome :=
  match findRunForTenant db runId tenantId with
  | none => .error (.keyError ("Run not found: " ++ runId))
  | some row =>
    if row.status.isTerminal then .ok .alreadyTerminal
    else if !row.holdsLease leaseToken nowMs then .ok .leaseLost
    else if row.cancelRequested then .ok .cancelRequested
    else .ok .notEligible

/-- A commit that changed nothing reports what `_classify_commit_outcome` finds. -/
def refuseCommit (db : Database) (run : RunRecord) (leaseToken : String) (nowMs : Int) :
    Except StoreError ((RunCommitOutcome × RunRecord) × Database) :=
  match classifyCommitOutcome db run.runId run.tenantId leaseToken nowMs with
  | .error error => .error error
  | .ok outcome => .ok ((outcome, run), db)

/-- `commit_reconciliation_pending`: a non-terminal recovery marker. -/
def commitReconciliationPending (db : Database) (reading : Reading)
    (runId tenantId leaseToken errorCode error : String) :
    Except StoreError (RunCommitOutcome × Database) :=
  match (currentAttempt db runId leaseToken reading.nowMs).filter
      fun row ↦ row.tenantId == tenantId with
  | some _ =>
    .ok (.committed, updateRun db runId fun row ↦
      { row with
        errorCode := some errorCode
        error := some error
        completedAt := none
        updatedAt := reading.utcNow 0 })
  | none =>
    match classifyCommitOutcome db runId tenantId leaseToken reading.nowMs with
    | .error error => .error error
    | .ok outcome => .ok (outcome, db)

/-- The message of a checkpoint conflict. -/
def checkpointConflictError (expected : Option Nat) (observed : Nat) : String :=
  "Thread checkpoint revision changed while the Run held execution ownership: expected "
    ++ formatOption expected ++ ", observed " ++ toString observed

/-- The payload of a `checkpoint.conflict` event. -/
def checkpointConflictPayload (phase : String) (expected : Option Nat) (observed : Nat) :
    Payload :=
  [("phase", .str phase), ("expected_revision", Json.ofOption Json.nat expected),
    ("observed_revision", Json.nat observed)]

/-- The payload of a `run.failed` event. -/
def failedPayload (errorCode error : String) (tracebackText : Option String) : Payload :=
  [("error_code", .str errorCode), ("error", .str error)] ++
    match tracebackText with
    | some text => [("traceback", .str text)]
    | none => []

/-- The columns a failing commit writes. -/
def failedRow (row : RunRow) (errorCode error completedAt : String) : RunRow :=
  RunRow.clearLease
    { row with
      status := .failed
      errorCode := some errorCode
      error := some error
      completedAt := some completedAt
      updatedAt := completedAt }

/-- The record after a failing commit. -/
def failedRecord (run : RunRecord) (errorCode error completedAt : String) : RunRecord :=
  RunRecord.clearLease
    { run with
      status := .failed
      errorCode := some errorCode
      error := some error
      completedAt := some completedAt
      updatedAt := completedAt }

/-- `_fail_checkpoint_conflict_with_connection`. -/
def failCheckpointConflict (db : Database) (reading : Reading) (runId tenantId leaseToken : String)
    (expected : Option Nat) (observed : Nat) (phase : String) : Except StoreError Database :=
  match (currentAttempt db runId leaseToken reading.nowMs).filter
      fun row ↦ row.tenantId == tenantId && !row.cancelRequested with
  | none => .error (.runtimeError "Checkpoint conflict terminalization lost its Run lease")
  | some _ =>
    let error := checkpointConflictError expected observed
    let updated := updateRun db runId fun row ↦
      failedRow row threadCheckpointConflictCode error (reading.utcNow 0)
    let noted := appendRunEvent updated runId "checkpoint.conflict"
      (checkpointConflictPayload phase expected observed) (reading.utcNow 1)
    .ok (appendRunEvent noted runId "run.failed"
      (failedPayload threadCheckpointConflictCode error none) (reading.utcNow 2))

/-- The columns `commit_completed_run` writes. -/
def completedRow (row : RunRow) (run : RunRecord) (state : RuntimeState) (completedAt : String) :
    RunRow :=
  RunRow.clearLease
    { row with
      status := .completed
      stateJson := some state.toStateJson
      outputMessage := run.outputMessage
      validationErrors := run.validationErrors
      errorCode := none
      error := none
      completedAt := some completedAt
      updatedAt := completedAt }

/-- The record after a completing commit. -/
def completedRecord (run : RunRecord) (completedAt : String) : RunRecord :=
  RunRecord.clearLease
    { run with
      status := .completed
      errorCode := none
      error := none
      completedAt := some completedAt
      updatedAt := completedAt }

/-- `_assert_thread_schema_available`. -/
def assertThreadSchemaAvailable (db : Database)
    (tenantId threadId domainId schemaVersion : String) :
    Except StoreError Unit :=
  match db.threadStates.find (tenantId, threadId) with
  | none => .ok ()
  | some existing =>
    if existing.domainId ≠ domainId ∨ existing.schemaVersion ≠ schemaVersion then
      .error (.valueError ("Thread " ++ pyRepr threadId ++ " is already bound to "
        ++ existing.domainId ++ ":" ++ existing.schemaVersion))
    else .ok ()

/-- The upsert of `thread_states`: the first checkpoint has revision 1, an update is a
compare-and-set on the observed revision. -/
def saveCheckpoint (db : Database) (tenantId threadId : String) (observed : Nat)
    (checkpoint : ThreadStateRow) : Except StoreError Database :=
  match db.threadStates.find (tenantId, threadId) with
  | none =>
    .ok { db with
      threadStates :=
        db.threadStates.insert (tenantId, threadId) { checkpoint with revision := 1 } }
  | some existing =>
    if existing.revision = observed then
      .ok { db with
        threadStates := db.threadStates.modify (tenantId, threadId)
          fun _ ↦ { checkpoint with revision := existing.revision + 1 } }
    else .error (.runtimeError "Thread checkpoint CAS changed inside its write transaction")

/-- The payload of a `checkpoint.saved` event. -/
def checkpointSavedPayload (threadId : String) (state : RuntimeState) (observed : Nat) : Payload :=
  [("thread_id", .str threadId),
    ("trace_events", Json.nat (projectThreadCheckpointState state).executionTrace.length),
    ("run_trace_events", Json.nat state.executionTrace.length),
    ("projection", .str "execution_trace_reset"), ("base_revision", Json.nat observed),
    ("revision", Json.nat (observed + 1))]

/-- `commit_completed_run`. -/
def commitCompletedRun (db : Database) (reading : Reading) (run : RunRecord)
    (leaseToken : String) : Except StoreError ((RunCommitOutcome × RunRecord) × Database) :=
  match findRunForTenant db run.runId run.tenantId with
  | none => .error (.keyError ("Run not found: " ++ run.runId))
  | some persisted =>
    if persisted.status ≠ .running ∨ persisted.cancelRequested ∨
        ¬ persisted.holdsLease leaseToken reading.nowMs then
      refuseCommit db run leaseToken reading.nowMs
    else
      match run.state with
      | none => .error (.valueError "A completed managed Run must include checkpoint state")
      | some state =>
        let observed := threadRevision db run.tenantId persisted.threadId
        if persisted.checkpointBaseRevision ≠ some observed then
          match failCheckpointConflict db reading run.runId run.tenantId leaseToken
              persisted.checkpointBaseRevision observed "completion" with
          | .error error => .error error
          | .ok failed =>
            .ok ((.checkpointConflict, failedRecord run threadCheckpointConflictCode
              (checkpointConflictError persisted.checkpointBaseRevision observed)
              (reading.utcNow 0)), failed)
        else if (run.threadId, run.domainId, run.schemaVersion) ≠
              (persisted.threadId, persisted.domainId, persisted.schemaVersion) ∨
            (state.threadId, state.domainId, state.schemaVersion) ≠
              (persisted.threadId, persisted.domainId, persisted.schemaVersion) then
          .error (.valueError
            "Completed Run and checkpoint state identity must match the persisted Run")
        else
          match assertThreadSchemaAvailable db run.tenantId persisted.threadId persisted.domainId
              persisted.schemaVersion with
          | .error error => .error error
          | .ok () =>
            let completedAt := reading.utcNow 0
            let updated := updateRun db run.runId fun row ↦ completedRow row run state completedAt
            match saveCheckpoint updated run.tenantId persisted.threadId observed
                { domainId := persisted.domainId
                  schemaVersion := persisted.schemaVersion
                  stateJson := (projectThreadCheckpointState state).toStateJson
                  updatedAt := completedAt
                  revision := 0 } with
            | .error error => .error error
            | .ok saved =>
              let noted := appendRunEvent saved run.runId "checkpoint.saved"
                (checkpointSavedPayload persisted.threadId state observed) (reading.utcNow 1)
              .ok ((.committed, completedRecord run completedAt),
                appendRunEvent noted run.runId "run.completed"
                  [("validation_errors", .arr (run.validationErrors.map Json.str))]
                  (reading.utcNow 2))

/-- `commit_checkpoint_conflict`. -/
def commitCheckpointConflict (db : Database) (reading : Reading) (run : RunRecord)
    (leaseToken phase : String) : Except StoreError ((RunCommitOutcome × RunRecord) × Database) :=
  match findRunForTenant db run.runId run.tenantId with
  | none => .error (.keyError ("Run not found: " ++ run.runId))
  | some persisted =>
    if persisted.status ≠ .running ∨ persisted.cancelRequested ∨
        ¬ persisted.holdsLease leaseToken reading.nowMs then
      refuseCommit db run leaseToken reading.nowMs
    else
      let observed := threadRevision db run.tenantId persisted.threadId
      match failCheckpointConflict db reading run.runId run.tenantId leaseToken
          persisted.checkpointBaseRevision observed phase with
      | .error error => .error error
      | .ok failed =>
        .ok ((.checkpointConflict, failedRecord run threadCheckpointConflictCode
          (checkpointConflictError persisted.checkpointBaseRevision observed)
          (reading.utcNow 0)), failed)

/-- The message of a quarantine. -/
def quarantineError (expected : Option Nat) (observed : Nat) : String :=
  "Thread checkpoint revision changed while external-action reconciliation remains unresolved; "
    ++ "the Run is quarantined: expected " ++ formatOption expected ++ ", observed "
    ++ toString observed

/-- `quarantine_checkpoint_conflict_for_reconciliation`: the Run stays RUNNING without a lease. -/
def quarantineCheckpointConflict (db : Database) (reading : Reading) (run : RunRecord)
    (leaseToken phase : String) : Except StoreError ((RunCommitOutcome × RunRecord) × Database) :=
  match findRunForTenant db run.runId run.tenantId with
  | none => .error (.keyError ("Run not found: " ++ run.runId))
  | some persisted =>
    if persisted.status ≠ .running ∨ ¬ persisted.holdsLease leaseToken reading.nowMs then
      refuseCommit db run leaseToken reading.nowMs
    else
      let observed := threadRevision db run.tenantId persisted.threadId
      if persisted.checkpointBaseRevision = some observed then
        .error (.runtimeError
          "Checkpoint reconciliation quarantine requires a current revision mismatch")
      else
        let error := quarantineError persisted.checkpointBaseRevision observed
        let updated := updateRun db run.runId fun row ↦ RunRow.clearLease
          { row with
            errorCode := some threadCheckpointReconciliationBlockedCode
            error := some error
            completedAt := none
            updatedAt := reading.utcNow 0 }
        .ok ((.committed, RunRecord.clearLease
            { run with
              status := .running
              errorCode := some threadCheckpointReconciliationBlockedCode
              error := some error
              completedAt := none
              updatedAt := reading.utcNow 0 }),
          appendRunEvent updated run.runId "checkpoint.conflict"
            (checkpointConflictPayload phase persisted.checkpointBaseRevision observed ++
              [("disposition", .str "external_action_reconciliation_quarantined")])
            (reading.utcNow 1))

/-- The columns `commit_cancelled_run` writes: all of the record's except its checkpoint base. -/
def cancelledRow (row : RunRow) (run : RunRecord) (completedAt : String) : RunRow :=
  RunRow.clearLease
    { row with
      executionAuthority := run.executionAuthority
      threadId := run.threadId
      agentId := run.agentId
      agentVersion := run.agentVersion
      domainId := run.domainId
      schemaVersion := run.schemaVersion
      status := .cancelled
      input := run.input
      stateJson := run.state.map RuntimeState.toStateJson
      outputMessage := run.outputMessage
      validationErrors := run.validationErrors
      errorCode := none
      error := none
      attempt := run.attempt
      cancelRequested := true
      clientRequestId := run.clientRequestId
      createdAt := run.createdAt
      updatedAt := completedAt
      startedAt := run.startedAt
      completedAt := some completedAt }

/-- `commit_cancelled_run`. -/
def commitCancelledRun (db : Database) (reading : Reading) (run : RunRecord)
    (reason leaseToken : String) : Except StoreError ((RunCommitOutcome × RunRecord) × Database) :=
  match (findRunForTenant db run.runId run.tenantId).filter fun row ↦
      (row.status == .queued || row.status == .running) && row.cancelRequested &&
        row.holdsLease leaseToken reading.nowMs with
  | none => refuseCommit db run leaseToken reading.nowMs
  | some row =>
    let cancelled := cancelledRow row run (reading.utcNow 0)
    if clientRequestTaken db run.runId cancelled then
      .error (.integrityError "idx_runs_tenant_client_request_id")
    else
      .ok ((.committed, RunRecord.clearLease
          { run with
            status := .cancelled
            cancelRequested := true
            errorCode := none
            error := none
            completedAt := some (reading.utcNow 0)
            updatedAt := reading.utcNow 0 }),
        appendRunEvent (updateRun db run.runId fun _ ↦ cancelled) run.runId "run.cancelled"
          [("reason", .str reason)] (reading.utcNow 1))

/-- `commit_failed_run`. -/
def commitFailedRun (db : Database) (reading : Reading) (run : RunRecord)
    (leaseToken errorCode error : String) (tracebackText : Option String)
    (allowCancelRequested : Bool) :
    Except StoreError ((RunCommitOutcome × RunRecord) × Database) :=
  match (currentAttempt db run.runId leaseToken reading.nowMs).filter fun row ↦
      row.tenantId == run.tenantId && (!row.cancelRequested || allowCancelRequested) with
  | none => refuseCommit db run leaseToken reading.nowMs
  | some _ =>
    let updated := updateRun db run.runId fun row ↦
      failedRow row errorCode error (reading.utcNow 0)
    .ok ((.committed, failedRecord run errorCode error (reading.utcNow 0)),
      appendRunEvent updated run.runId "run.failed" (failedPayload errorCode error tracebackText)
        (reading.utcNow 1))

/-! ### Reads -/

/-- `get_run_internal`. -/
def getRunInternal (db : Database) (runId : String) : Option RunRecord :=
  (db.runs.find runId).map (rowToRun runId)

/-- `get_run_for_tenant`. -/
def getRunForTenant (db : Database) (runId tenantId : String) : Option RunRecord :=
  (findRunForTenant db runId tenantId).map (rowToRun runId)

/-- `get_run_by_client_request_id`. -/
def getRunByClientRequestId (db : Database) (tenantId clientRequestId : String) :
    Option RunRecord :=
  (db.runs.rows.find? fun entry ↦
    entry.2.tenantId == tenantId && entry.2.clientRequestId == some clientRequestId).map
      fun entry ↦ rowToRun entry.1 entry.2

/-- `list_events` of the Run store: appended in the order of their sequences. -/
def listRunEvents (db : Database) (runId : String) (afterSequence : Nat) : List EventRow :=
  db.runEvents.filter fun event ↦
    event.runId == runId && decide (afterSequence < event.sequence)

/-- `list_events_for_tenant`. -/
def listEventsForTenant (db : Database) (runId tenantId : String) (afterSequence : Nat) :
    List EventRow :=
  if (findRunForTenant db runId tenantId).isSome then listRunEvents db runId afterSequence else []

/-- `ThreadStateSnapshot`. -/
structure ThreadStateSnapshot where
  state : Option RuntimeState
  revision : Nat

/-- `load_thread_state_snapshot`. -/
def loadThreadStateSnapshot (db : Database) (threadId tenantId : String)
    (domainId schemaVersion : Option String) (expectedRevision : Option Nat)
    (requireRevisionMatch : Bool) : Except StoreError ThreadStateSnapshot :=
  let observed := threadRevision db tenantId threadId
  if requireRevisionMatch && expectedRevision != some observed then
    .error (.checkpointRevisionConflict expectedRevision observed)
  else
    match db.threadStates.find (tenantId, threadId) with
    | none => .ok { state := none, revision := 0 }
    | some row =>
      if domainId.isSome && domainId != some row.domainId then
        .error (.valueError ("Thread " ++ pyRepr threadId ++ " belongs to domain "
          ++ pyRepr row.domainId ++ ", not " ++ pyRepr (domainId.getD "")))
      else if schemaVersion.isSome && schemaVersion != some row.schemaVersion then
        .error (.valueError ("Thread " ++ pyRepr threadId ++ " uses schema "
          ++ pyRepr row.schemaVersion ++ ", not " ++ pyRepr (schemaVersion.getD "")))
      else
        .ok
          { state := some
              { toStateJson := row.stateJson
                domainId := row.domainId
                schemaVersion := row.schemaVersion }
            revision := observed }

end AgentRuntime.Store
