import AgentRuntime.Store.Calls

/-!
# The operations of `PostgresRunStore`

The second implementation of the Run store, statement by statement from its own source. It keeps
the tables of the SQLite store, so the model keeps `Database`; what differs is how a transaction
can fail and how its guards are written.

* A parameter of type text is sent through psycopg, which refuses a NUL character (`bindTexts`). A
  text that a transaction has already sent, or has read from a row, is sent again without failing,
  so it is listed once.
* `attempt`, `sequence` and `revision` are `INTEGER` columns of 32 bits (`integerColumn`), where
  SQLite's integers have 64.
* The candidate query of a claim skips a QUEUED Run that has an older QUEUED sibling, and a
  violation of the one-running-Run index counts as an empty queue.
* The first checkpoint of a thread is guarded by an advisory lock on a text key.

Serial use is modelled: no row is locked by another transaction, so `FOR UPDATE` and `SKIP LOCKED`
select what the query selects.
-/

set_option autoImplicit false
set_option relaxedAutoImplicit false

namespace AgentRuntime.Postgres

open Library Store

/-! ### Parameters and columns -/

/-- What a transaction of the PostgreSQL store raises. -/
inductive PostgresError where
  | raised (error : StoreError)
  | dataError
  | numericValueOutOfRange
  | uniqueViolation (constraint : String)

/-- A text PostgreSQL cannot store. -/
def hasNul (text : String) : Bool := text.toList.contains (Char.ofNat 0)

/-- psycopg adapts the text parameters of a statement. -/
def bindTexts (texts : List String) : Except PostgresError Unit :=
  if texts.any hasNul then .error .dataError else .ok ()

/-- The largest value of an `INTEGER` column. -/
def maxInteger : Int := 2147483647

/-- A value is stored in an `INTEGER` column. -/
def integerColumn (value : Int) : Except PostgresError Unit :=
  if -maxInteger - 1 ≤ value ∧ value ≤ maxInteger then .ok ()
  else .error .numericValueOutOfRange

/-- An exception of the code the two stores share. -/
def lift {α : Type} : Except StoreError α → Except PostgresError α
  | .ok value => .ok value
  | .error error => .error (.raised error)

/-- `_append_event_with_connection`: the Run's row is locked before its sequence is allocated. Every
caller has sent the Run's id or read it. -/
def appendRunEvent (db : Database) (runId eventType : String) (payload : Payload)
    (createdAt : String) : Except PostgresError Database := do
  if (db.runs.find runId).isNone then
    throw (.raised (.keyError ("Run not found: " ++ runId)))
  else
    bindTexts [eventType, createdAt]
    integerColumn (nextSequence db.runEvents runId)
    return Store.appendRunEvent db runId eventType payload createdAt

/-! ### Creation -/

/-- `_legacy_input_message`: the text of the `input_message` column. -/
def legacyInputMessage (input : Payload) : String :=
  match input.getD "user_message" with
  | .str message => message
  | _ => ""

/-- The text parameters of `_run_values`; the JSON columns escape a NUL character. -/
def runTexts (run : RunRecord) : List String :=
  [run.runId, run.tenantId, run.threadId, run.agentId, run.agentVersion, run.domainId,
    run.schemaVersion, legacyInputMessage run.input, run.createdAt, run.updatedAt] ++
  run.outputMessage.toList ++ run.errorCode.toList ++ run.error.toList ++
  run.clientRequestId.toList ++ run.startedAt.toList ++ run.completedAt.toList ++
  run.leaseOwnerId.toList ++ run.leaseToken.toList

/-- `_assert_new_queued_run`. -/
def assertNewQueuedRun (run : RunRecord) : Except PostgresError Unit :=
  lift (Store.assertNewQueuedRun run)

/-- `_insert_run_with_connection`, with the primary key and the unique indexes of `runs`. -/
def insertRun (db : Database) (run : RunRecord) : Except PostgresError Database := do
  bindTexts (runTexts run)
  integerColumn run.attempt
  if (db.runs.find run.runId).isSome then
    throw (.uniqueViolation "runs_pkey")
  else if clientRequestTaken db run.runId (runValues run) then
    throw (.uniqueViolation "idx_runs_tenant_client_request_id")
  else if run.status == .running && threadOccupied db run.runId (runValues run) then
    throw (.uniqueViolation "idx_runs_one_running_per_thread")
  else
    return { db with runs := db.runs.insert run.runId (runValues run) }

/-- The key of the advisory lock that guards the first checkpoint of a thread. -/
def seedLockKey (tenantId threadId : String) : String :=
  "agent-runtime-thread-seed:" ++ tenantId ++ String.ofList [Char.ofNat 0] ++ threadId

/-- `_prepare_client_state_seed`: the lock key is sent before the thread is inspected. -/
def prepareClientStateSeed (db : Database) (run : RunRecord) :
    Except PostgresError (RunRecord × Database) := do
  if run.state.isNone then
    return (run, db)
  else
    bindTexts [seedLockKey run.tenantId run.threadId]
    if (db.threadStates.find (run.tenantId, run.threadId)).isSome ||
        threadHasNonterminal db run then
      throw (.raised (.threadStateConflict
        ("Client-provided state can only initialize an empty thread; omit state to continue thread "
          ++ pyRepr run.threadId)))
    else
      return ({ run with checkpointBaseRevision := some 0 },
        updateRun db run.runId fun row ↦ { row with checkpointBaseRevision := some 0 })

/-- `create_run`. -/
def createRun (db : Database) (run : RunRecord) :
    Except PostgresError (RunRecord × Database) := do
  assertNewQueuedRun run
  let inserted ← insertRun db run
  prepareClientStateSeed inserted run

/-- `create_run_with_event`. -/
def createRunWithEvent (db : Database) (reading : Reading) (run : RunRecord) (eventType : String)
    (payload : Payload) : Except PostgresError (RunRecord × Database) := do
  assertNewQueuedRun run
  if eventType ≠ "run.queued" then
    throw (.raised (.valueError "A new Run's initial event must be run.queued"))
  else
    let inserted ← insertRun db run
    let (seeded, prepared) ← prepareClientStateSeed inserted run
    let queued ← appendRunEvent prepared run.runId eventType payload (reading.utcNow 0)
    return (seeded, queued)

/-! ### Claims and leases -/

/-- Another QUEUED Run of the thread, not asked to cancel, comes earlier in the creation order. -/
def earlierQueued (db : Database) (runId : String) (row : RunRow) : Bool :=
  db.runs.rows.any fun entry ↦
    entry.2.sameThread row && entry.2.status == .queued && !entry.2.cancelRequested &&
      decide (creationOrder entry < creationOrder (runId, row))

/-- The first branch of the claim. -/
def queuedCandidate (db : Database) (runId : String) (row : RunRow) : Bool :=
  row.status == .queued && !row.cancelRequested &&
    !(db.runs.rows.any fun entry ↦ entry.2.sameThread row && entry.2.status == .running) &&
    !earlierQueued db runId row

/-- The `WHERE` clause of the candidate query. -/
def claimable (db : Database) (runId : String) (row : RunRow) (nowMs : Int) : Bool :=
  queuedCandidate db runId row || expiredCandidate db runId row nowMs

/-- `SELECT candidate.* … ORDER BY created_at, run_id FOR UPDATE SKIP LOCKED LIMIT 1`. -/
def claimCandidate (db : Database) (nowMs : Int) : Option (String × RunRow) :=
  (db.runs.rows.filter fun entry ↦ claimable db entry.1 entry.2 nowMs).argmin creationOrder

/-- The `run.recovered` event of a takeover. -/
def appendRecoveredEvent (db : Database) (runId : String) (row : RunRow)
    (reconciliationPendingCode : Option String) (createdAt : String) :
    Except PostgresError Database :=
  match recoveryReason row with
  | none => .ok db
  | some reason =>
    appendRunEvent db runId "run.recovered"
      [("reason", .str (recoveredReasonText row reason reconciliationPendingCode))] createdAt

/-- `claim_next_run`. -/
def claimNextRun (db : Database) (reading : Reading) (ownerId : String)
    (leaseDurationSeconds : Int) (reconciliationPendingCode : Option String) :
    Except PostgresError (Option RunLeaseClaim × Database) := do
  if ownerId.isEmpty then
    throw (.raised (.valueError "owner_id must not be empty"))
  else if leaseDurationSeconds ≤ 0 then
    throw (.raised (.valueError "lease_duration_seconds must be positive"))
  else
    match claimCandidate db reading.nowMs with
    | none => return (none, db)
    | some (runId, row) =>
      let leaseToken := "lease_" ++ reading.uuid 0
      bindTexts ([reading.utcNow 0, ownerId, leaseToken] ++ reconciliationPendingCode.toList)
      if claimUpdatable db runId row reading.nowMs then
        let claimed := claimedRow db row ownerId leaseToken (reading.utcNow 0) reading.nowMs
          (reading.nowMs + leaseDurationSeconds * 1000) reconciliationPendingCode
        integerColumn claimed.attempt
        -- the violation of `_RUNNING_THREAD_INDEX` is caught as a scheduling race
        if threadOccupied db runId row then
          return (none, db)
        else
          let updated := updateRun db runId fun _ ↦ claimed
          let recovered ← appendRecoveredEvent updated runId row reconciliationPendingCode
            (reading.utcNow 1)
          let started ← appendRunEvent recovered runId "run.started" (startedPayload row claimed)
            (reading.utcNow 2)
          return (some
              { run := rowToRun runId claimed
                ownerId := ownerId
                leaseToken := leaseToken
                recoveryReason := recoveryReason row },
            started)
      else
        return (none, db)

/-- `renew_run_lease`. -/
def renewRunLease (db : Database) (reading : Reading) (runId leaseToken : String)
    (leaseDurationSeconds : Int) : Except PostgresError (Bool × Database) := do
  if leaseToken.isEmpty then
    throw (.raised (.valueError "lease_token must not be empty"))
  else if leaseDurationSeconds ≤ 0 then
    throw (.raised (.valueError "lease_duration_seconds must be positive"))
  else
    bindTexts [reading.utcNow 0, runId, leaseToken]
    match currentAttempt db runId leaseToken reading.nowMs with
    | none => return (false, db)
    | some _ =>
      return (true, updateRun db runId fun row ↦
        { row with
          leaseHeartbeatAt := some reading.nowMs
          leaseExpiresAt := some (reading.nowMs + leaseDurationSeconds * 1000)
          updatedAt := reading.utcNow 0 })

/-- `expire_run_lease`. -/
def expireRunLease (db : Database) (reading : Reading) (runId leaseToken : String) :
    Except PostgresError (Bool × Database) := do
  if leaseToken.isEmpty then
    throw (.raised (.valueError "lease_token must not be empty"))
  else
    bindTexts [reading.utcNow 0, runId, leaseToken]
    match (db.runs.find runId).filter fun row ↦
        row.status == .running && row.leaseToken == some leaseToken with
    | none => return (false, db)
    | some _ =>
      return (true, updateRun db runId fun row ↦
        { row with
          leaseHeartbeatAt := some reading.nowMs
          leaseExpiresAt := some reading.nowMs
          updatedAt := reading.utcNow 0 })

/-- `assert_current_run_lease`. -/
def assertCurrentRunLease (db : Database) (nowMs : Int) (runId : String)
    (leaseToken : Option String) : Except PostgresError Unit := do
  match leaseToken with
  | none => throw (.raised (.runLeaseLost ("Run lease token is required: " ++ runId)))
  | some token =>
    bindTexts [runId, token]
    match currentAttempt db runId token nowMs with
    | none => throw (.raised (.runLeaseLost ("Run lease is no longer current: " ++ runId)))
    | some _ => return ()

/-- `append_attempt_event`. -/
def appendAttemptEvent (db : Database) (reading : Reading) (runId : String)
    (leaseToken : Option String) (eventType : String) (payload : Payload) :
    Except PostgresError (EventRow × Database) := do
  assertCurrentRunLease db reading.nowMs runId leaseToken
  let appended ← appendRunEvent db runId eventType payload (reading.utcNow 0)
  return (newEvent db.runEvents runId eventType payload (reading.utcNow 0), appended)

/-- `append_control_plane_event`. -/
def appendControlPlaneEvent (db : Database) (reading : Reading) (runId tenantId eventType : String)
    (payload : Payload) : Except PostgresError (EventRow × Database) := do
  if eventType ∉ controlPlaneEventTypes then
    throw (.raised (.valueError ("Unsupported control-plane Run event: " ++ eventType)))
  else
    bindTexts [runId, tenantId]
    match findRunForTenant db runId tenantId with
    | none => throw (.raised (.keyError ("Run not found: " ++ runId)))
    | some _ =>
      let appended ← appendRunEvent db runId eventType payload (reading.utcNow 0)
      return (newEvent db.runEvents runId eventType payload (reading.utcNow 0), appended)

/-! ### Cancellation -/

/-- `finalize_next_queued_cancellation`. -/
def finalizeNextQueuedCancellation (db : Database) (reading : Reading) :
    Except PostgresError (Option RunRecord × Database) := do
  match (db.runs.rows.filter fun entry ↦
      entry.2.status == .queued && entry.2.cancelRequested).argmin creationOrder with
  | none => return (none, db)
  | some (runId, row) =>
    bindTexts [reading.utcNow 0]
    let cancelled : RunRow := RunRow.clearLease
      { row with
        status := .cancelled
        errorCode := none
        error := none
        completedAt := some (reading.utcNow 0)
        updatedAt := reading.utcNow 0 }
    let noted ← appendRunEvent (updateRun db runId fun _ ↦ cancelled) runId "run.cancelled"
      [("reason", .str "cancelled_before_start")] (reading.utcNow 1)
    return (some (rowToRun runId cancelled), noted)

/-- `request_cancel_atomically`. -/
def requestCancelAtomically (db : Database) (reading : Reading) (runId tenantId : String) :
    Except PostgresError (RunRecord × Database) := do
  bindTexts [runId, tenantId]
  match findRunForTenant db runId tenantId with
  | none => throw (.raised (.keyError ("Run not found: " ++ runId)))
  | some row =>
    bindTexts [reading.utcNow 0]
    if (row.status == .queued || row.status == .running) && !row.cancelRequested then
      let requested : RunRow :=
        { row with cancelRequested := true, updatedAt := reading.utcNow 0 }
      let noted ← appendRunEvent (updateRun db runId fun _ ↦ requested) runId
        "run.cancel_requested" [("status", .str row.status.text)] (reading.utcNow 1)
      return (rowToRun runId requested, noted)
    else
      return (rowToRun runId row, db)

/-! ### Fenced commits -/

/-- `_classify_commit_outcome`. -/
def classifyCommitOutcome (db : Database) (runId tenantId leaseToken : String) (nowMs : Int) :
    Except PostgresError RunCommitOutcome := do
  bindTexts [runId, tenantId]
  match findRunForTenant db runId tenantId with
  | none => throw (.raised (.keyError ("Run not found: " ++ runId)))
  | some row =>
    if row.status.isTerminal then return .alreadyTerminal
    else if !row.holdsLease leaseToken nowMs then return .leaseLost
    else if row.cancelRequested then return .cancelRequested
    else return .notEligible

/-- A commit that changed nothing reports what `_classify_commit_outcome` finds. -/
def refuseCommit (db : Database) (run : RunRecord) (leaseToken : String) (nowMs : Int) :
    Except PostgresError ((RunCommitOutcome × RunRecord) × Database) := do
  let outcome ← classifyCommitOutcome db run.runId run.tenantId leaseToken nowMs
  return ((outcome, run), db)

/-- `commit_reconciliation_pending`. -/
def commitReconciliationPending (db : Database) (reading : Reading)
    (runId tenantId leaseToken errorCode error : String) :
    Except PostgresError (RunCommitOutcome × Database) := do
  bindTexts [errorCode, error, reading.utcNow 0, runId, tenantId, leaseToken]
  match (currentAttempt db runId leaseToken reading.nowMs).filter
      fun row ↦ row.tenantId == tenantId with
  | some _ =>
    return (.committed, updateRun db runId fun row ↦
      { row with
        errorCode := some errorCode
        error := some error
        completedAt := none
        updatedAt := reading.utcNow 0 })
  | none =>
    let outcome ← classifyCommitOutcome db runId tenantId leaseToken reading.nowMs
    return (outcome, db)

/-- `_fail_checkpoint_conflict_with_connection`. -/
def failCheckpointConflict (db : Database) (reading : Reading) (runId tenantId leaseToken : String)
    (expected : Option Nat) (observed : Nat) (phase : String) :
    Except PostgresError Database := do
  bindTexts [reading.utcNow 0, runId, tenantId, leaseToken]
  match (currentAttempt db runId leaseToken reading.nowMs).filter
      fun row ↦ row.tenantId == tenantId && !row.cancelRequested with
  | none =>
    throw (.raised (.runtimeError "Checkpoint conflict terminalization lost its Run lease"))
  | some _ =>
    let error := checkpointConflictError expected observed
    let updated := updateRun db runId fun row ↦
      failedRow row threadCheckpointConflictCode error (reading.utcNow 0)
    let noted ← appendRunEvent updated runId "checkpoint.conflict"
      (checkpointConflictPayload phase expected observed) (reading.utcNow 1)
    appendRunEvent noted runId "run.failed"
      (failedPayload threadCheckpointConflictCode error none) (reading.utcNow 2)

/-- `commit_checkpoint_conflict`. -/
def commitCheckpointConflict (db : Database) (reading : Reading) (run : RunRecord)
    (leaseToken phase : String) :
    Except PostgresError ((RunCommitOutcome × RunRecord) × Database) := do
  bindTexts [run.runId, run.tenantId]
  match findRunForTenant db run.runId run.tenantId with
  | none => throw (.raised (.keyError ("Run not found: " ++ run.runId)))
  | some persisted =>
    if persisted.status ≠ .running ∨ persisted.cancelRequested ∨
        ¬ persisted.holdsLease leaseToken reading.nowMs then
      refuseCommit db run leaseToken reading.nowMs
    else
      let observed := threadRevision db run.tenantId persisted.threadId
      let failed ← failCheckpointConflict db reading run.runId run.tenantId leaseToken
        persisted.checkpointBaseRevision observed phase
      return ((.checkpointConflict, failedRecord run threadCheckpointConflictCode
        (checkpointConflictError persisted.checkpointBaseRevision observed)
        (reading.utcNow 0)), failed)

/-- `_write_checkpoint_with_connection`: the upsert returns no row when the revision moved. -/
def writeCheckpoint (db : Database) (tenantId threadId : String) (observed : Nat)
    (checkpoint : ThreadStateRow) : Except PostgresError (Option Database) := do
  match db.threadStates.find (tenantId, threadId) with
  | none =>
    return some { db with
      threadStates :=
        db.threadStates.insert (tenantId, threadId) { checkpoint with revision := 1 } }
  | some existing =>
    if existing.revision = observed then
      integerColumn (existing.revision + 1)
      return some { db with
        threadStates := db.threadStates.modify (tenantId, threadId)
          fun _ ↦ { checkpoint with revision := existing.revision + 1 } }
    else
      return none

/-- `commit_completed_run`. -/
def commitCompletedRun (db : Database) (reading : Reading) (run : RunRecord)
    (leaseToken : String) :
    Except PostgresError ((RunCommitOutcome × RunRecord) × Database) := do
  bindTexts [run.runId, run.tenantId]
  match findRunForTenant db run.runId run.tenantId with
  | none => throw (.raised (.keyError ("Run not found: " ++ run.runId)))
  | some persisted =>
    if persisted.status ≠ .running ∨ persisted.cancelRequested ∨
        ¬ persisted.holdsLease leaseToken reading.nowMs then
      refuseCommit db run leaseToken reading.nowMs
    else
      match run.state with
      | none =>
        throw (.raised (.valueError "A completed managed Run must include checkpoint state"))
      | some state =>
        let observed := threadRevision db run.tenantId persisted.threadId
        if persisted.checkpointBaseRevision ≠ some observed then
          let failed ← failCheckpointConflict db reading run.runId run.tenantId leaseToken
            persisted.checkpointBaseRevision observed "completion"
          return ((.checkpointConflict, failedRecord run threadCheckpointConflictCode
            (checkpointConflictError persisted.checkpointBaseRevision observed)
            (reading.utcNow 0)), failed)
        else if (run.threadId, run.domainId, run.schemaVersion) ≠
              (persisted.threadId, persisted.domainId, persisted.schemaVersion) ∨
            (state.threadId, state.domainId, state.schemaVersion) ≠
              (persisted.threadId, persisted.domainId, persisted.schemaVersion) then
          throw (.raised (.valueError
            "Completed Run and checkpoint state identity must match the persisted Run"))
        else
          lift (assertThreadSchemaAvailable db run.tenantId persisted.threadId persisted.domainId
            persisted.schemaVersion)
          let completedAt := reading.utcNow 0
          bindTexts (run.outputMessage.toList ++ [completedAt, leaseToken])
          let updated := updateRun db run.runId fun row ↦ completedRow row run state completedAt
          let written ← writeCheckpoint updated run.tenantId persisted.threadId observed
            { domainId := persisted.domainId
              schemaVersion := persisted.schemaVersion
              stateJson := (projectThreadCheckpointState state).toStateJson
              updatedAt := completedAt
              revision := 0 }
          match written with
          | none =>
            -- `_CheckpointCASChanged` rolled the completion back
            commitCheckpointConflict db reading run leaseToken "completion"
          | some saved =>
            let noted ← appendRunEvent saved run.runId "checkpoint.saved"
              (checkpointSavedPayload persisted.threadId state observed) (reading.utcNow 1)
            let completed ← appendRunEvent noted run.runId "run.completed"
              [("validation_errors", .arr (run.validationErrors.map Json.str))]
              (reading.utcNow 2)
            return ((.committed, completedRecord run completedAt), completed)

/-- `quarantine_checkpoint_conflict_for_reconciliation`. -/
def quarantineCheckpointConflict (db : Database) (reading : Reading) (run : RunRecord)
    (leaseToken phase : String) :
    Except PostgresError ((RunCommitOutcome × RunRecord) × Database) := do
  bindTexts [run.runId, run.tenantId]
  match findRunForTenant db run.runId run.tenantId with
  | none => throw (.raised (.keyError ("Run not found: " ++ run.runId)))
  | some persisted =>
    if persisted.status ≠ .running ∨ ¬ persisted.holdsLease leaseToken reading.nowMs then
      refuseCommit db run leaseToken reading.nowMs
    else
      let observed := threadRevision db run.tenantId persisted.threadId
      if persisted.checkpointBaseRevision = some observed then
        throw (.raised (.runtimeError
          "Checkpoint reconciliation quarantine requires a current revision mismatch"))
      else
        let error := quarantineError persisted.checkpointBaseRevision observed
        bindTexts [reading.utcNow 0, leaseToken]
        let updated := updateRun db run.runId fun row ↦ RunRow.clearLease
          { row with
            errorCode := some threadCheckpointReconciliationBlockedCode
            error := some error
            completedAt := none
            updatedAt := reading.utcNow 0 }
        let noted ← appendRunEvent updated run.runId "checkpoint.conflict"
          (checkpointConflictPayload phase persisted.checkpointBaseRevision observed ++
            [("disposition", .str "external_action_reconciliation_quarantined")])
          (reading.utcNow 1)
        return ((.committed, RunRecord.clearLease
            { run with
              status := .running
              errorCode := some threadCheckpointReconciliationBlockedCode
              error := some error
              completedAt := none
              updatedAt := reading.utcNow 0 }),
          noted)

/-- The text parameters of `commit_cancelled_run` other than its lease token. -/
def cancelTexts (run : RunRecord) : List String :=
  [run.threadId, run.agentId, run.agentVersion, run.domainId, run.schemaVersion,
    legacyInputMessage run.input, run.createdAt, run.runId, run.tenantId] ++
  run.outputMessage.toList ++ run.clientRequestId.toList ++ run.startedAt.toList

/-- `commit_cancelled_run`. -/
def commitCancelledRun (db : Database) (reading : Reading) (run : RunRecord)
    (reason leaseToken : String) :
    Except PostgresError ((RunCommitOutcome × RunRecord) × Database) := do
  bindTexts (cancelTexts run ++ [reading.utcNow 0, leaseToken])
  integerColumn run.attempt
  match (findRunForTenant db run.runId run.tenantId).filter fun row ↦
      (row.status == .queued || row.status == .running) && row.cancelRequested &&
        row.holdsLease leaseToken reading.nowMs with
  | none => refuseCommit db run leaseToken reading.nowMs
  | some row =>
    let cancelled := cancelledRow row run (reading.utcNow 0)
    if clientRequestTaken db run.runId cancelled then
      throw (.uniqueViolation "idx_runs_tenant_client_request_id")
    else
      let noted ← appendRunEvent (updateRun db run.runId fun _ ↦ cancelled) run.runId
        "run.cancelled" [("reason", .str reason)] (reading.utcNow 1)
      return ((.committed, RunRecord.clearLease
          { run with
            status := .cancelled
            cancelRequested := true
            errorCode := none
            error := none
            completedAt := some (reading.utcNow 0)
            updatedAt := reading.utcNow 0 }),
        noted)

/-- `commit_failed_run`. -/
def commitFailedRun (db : Database) (reading : Reading) (run : RunRecord)
    (leaseToken errorCode error : String) (tracebackText : Option String)
    (allowCancelRequested : Bool) :
    Except PostgresError ((RunCommitOutcome × RunRecord) × Database) := do
  bindTexts [errorCode, error, reading.utcNow 0, run.runId, run.tenantId, leaseToken]
  match (currentAttempt db run.runId leaseToken reading.nowMs).filter fun row ↦
      row.tenantId == run.tenantId && (!row.cancelRequested || allowCancelRequested) with
  | none => refuseCommit db run leaseToken reading.nowMs
  | some _ =>
    let updated := updateRun db run.runId fun row ↦
      failedRow row errorCode error (reading.utcNow 0)
    let noted ← appendRunEvent updated run.runId "run.failed"
      (failedPayload errorCode error tracebackText) (reading.utcNow 1)
    return ((.committed, failedRecord run errorCode error (reading.utcNow 0)), noted)

/-! ### Quarantine repair -/

/-- `_derive_quarantine_plan_with_connection`: the target is checked before any row is read. -/
def deriveQuarantinePlan (hasher : Hasher) (db : Database) (runId tenantId : String)
    (target : QuarantineResolutionTarget) (resolution : QuarantineResolutionKind) :
    Except PostgresError QuarantineResolutionPlan := do
  if target.identifier ≠ runId then
    throw (.raised (.valueError "Quarantine target identity does not match run_id"))
  else
    bindTexts [runId, tenantId]
    lift (Store.deriveQuarantinePlan hasher db runId tenantId target resolution)

/-- `_lock_quarantine_evidence`. -/
def lockQuarantineEvidence (db : Database) (runId tenantId : String) :
    Except PostgresError Unit := do
  bindTexts [runId, tenantId]
  match findRunForTenant db runId tenantId with
  | none => throw (.raised (.keyError ("Run not found: " ++ runId)))
  | some _ => return ()

/-- `apply_quarantine_resolution`: the evidence is locked before it is read. -/
def applyQuarantineResolution (hasher : Hasher) (db : Database) (reading : Reading)
    (runId tenantId : String) (target : QuarantineResolutionTarget)
    (resolution : QuarantineResolutionKind)
    (expectedPlanId operatorSubjectId operatorCredentialId : String) :
    Except PostgresError (QuarantineResolutionCommit × Database) := do
  lockQuarantineEvidence db runId tenantId
  let existing ← lift (findResolutionEvent db runId expectedPlanId)
  let plan ← deriveQuarantinePlan hasher db runId tenantId target resolution
  let threadId := ((findRunForTenant db runId tenantId).map RunRow.threadId).getD ""
  let workflowFingerprint := workflowEvidenceFingerprint hasher db runId
  let checkpointFingerprint := checkpointEvidenceFingerprint hasher db tenantId threadId
  match existing with
  | some stored =>
    if stored.plan.target ≠ target ∨ stored.plan.resolution ≠ resolution ∨
        stored.workflowFingerprint ≠ workflowFingerprint ∨
        ¬ checkpointProgressIsValid stored.plan.observedCheckpointRevision
          stored.checkpointFingerprint plan.observedCheckpointRevision
          checkpointFingerprint then
      throw (.raised (.quarantineEvidenceIncomplete
        "Committed quarantine resolution evidence is inconsistent"))
    else
      return ({ plan := stored.plan
                reused := true
                workflowEvidenceFingerprint := stored.workflowFingerprint
                checkpointEvidenceFingerprint := stored.checkpointFingerprint }, db)
  | none =>
    if !plan.eligible || plan.planId != some expectedPlanId then
      throw (.raised (.quarantineStalePlan plan))
    else
      bindTexts [reading.utcNow 0]
      match (findRunForTenant db runId tenantId).filter RunRow.quarantined with
      | none => throw (.raised (.quarantineStalePlan plan))
      | some _ =>
        let updated := updateRun db runId fun row ↦
          failedRow row threadCheckpointConflictCode resolutionError (reading.utcNow 0)
        let audited ← appendRunEvent updated runId "quarantine.resolution_applied"
          (auditPayload plan target resolution expectedPlanId operatorSubjectId
            operatorCredentialId workflowFingerprint checkpointFingerprint) (reading.utcNow 1)
        let failed ← appendRunEvent audited runId "run.failed"
          (failedPayload threadCheckpointConflictCode resolutionError none ++
            [("resolution", .str resolution.text), ("plan_id", .str expectedPlanId)])
          (reading.utcNow 2)
        return ({ plan := plan
                  reused := false
                  workflowEvidenceFingerprint := workflowFingerprint
                  checkpointEvidenceFingerprint := checkpointFingerprint }, failed)

/-- `verify_quarantine_resolution`. -/
def verifyQuarantineResolution (hasher : Hasher) (db : Database)
    (commit : QuarantineResolutionCommit) : Except PostgresError Unit := do
  if commit.plan.planId.isSome then
    bindTexts [commit.plan.target.identifier, commit.plan.thread.tenantId]
  lift (Store.verifyQuarantineResolution hasher db commit)

/-! ### The operations as one function -/

/-- A read that sends some texts. -/
def reads {α : Type} (db : Database) (texts : List String) (value : Except StoreError α) :
    Except PostgresError (α × Database) := do
  bindTexts texts
  let reply ← lift value
  return (reply, db)

/-- Run one operation of the Run store on PostgreSQL. -/
def perform (hasher : Hasher) (db : Database) (reading : Reading) :
    (call : RunCall) → Except PostgresError (call.Reply × Database)
  | .createRun run => createRun db run
  | .createRunWithEvent run eventType payload =>
    createRunWithEvent db reading run eventType payload
  | .claimNextRun ownerId duration code => claimNextRun db reading ownerId duration code
  | .renewRunLease runId token duration => renewRunLease db reading runId token duration
  | .expireRunLease runId token => expireRunLease db reading runId token
  | .appendAttemptEvent runId token eventType payload =>
    appendAttemptEvent db reading runId token eventType payload
  | .appendControlPlaneEvent runId tenantId eventType payload =>
    appendControlPlaneEvent db reading runId tenantId eventType payload
  | .finalizeNextQueuedCancellation => finalizeNextQueuedCancellation db reading
  | .requestCancelAtomically runId tenantId => requestCancelAtomically db reading runId tenantId
  | .commitReconciliationPending runId tenantId token code error =>
    commitReconciliationPending db reading runId tenantId token code error
  | .commitCompletedRun run token => commitCompletedRun db reading run token
  | .commitCheckpointConflict run token phase => commitCheckpointConflict db reading run token phase
  | .quarantineCheckpointConflict run token phase =>
    quarantineCheckpointConflict db reading run token phase
  | .commitCancelledRun run reason token => commitCancelledRun db reading run reason token
  | .commitFailedRun run token code error traceback allow =>
    commitFailedRun db reading run token code error traceback allow
  | .applyQuarantineResolution runId tenantId target resolution planId subject credential =>
    applyQuarantineResolution hasher db reading runId tenantId target resolution planId subject
      credential
  | .planQuarantineResolution runId tenantId target resolution => do
    let plan ← deriveQuarantinePlan hasher db runId tenantId target resolution
    return (plan, db)
  | .verifyQuarantineResolution commit => do
    verifyQuarantineResolution hasher db commit
    return ((), db)
  | .getRunInternal runId => reads db [runId] (.ok (getRunInternal db runId))
  | .getRunForTenant runId tenantId =>
    reads db [runId, tenantId] (.ok (getRunForTenant db runId tenantId))
  | .getRunByClientRequestId tenantId clientRequestId =>
    reads db [tenantId, clientRequestId] (.ok (getRunByClientRequestId db tenantId clientRequestId))
  | .listEvents runId afterSequence => reads db [runId] (.ok (listRunEvents db runId afterSequence))
  | .listEventsForTenant runId tenantId afterSequence =>
    reads db [runId, tenantId] (.ok (listEventsForTenant db runId tenantId afterSequence))
  | .loadThreadStateSnapshot threadId tenantId domainId schemaVersion expected require =>
    reads db [tenantId, threadId]
      (loadThreadStateSnapshot db threadId tenantId domainId schemaVersion expected require)

end AgentRuntime.Postgres
