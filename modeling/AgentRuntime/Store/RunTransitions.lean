import AgentRuntime.Store.Calls

/-!
# What one Run-store call can do

`RunChange db reading call after` lists everything a call can do to the Run tables, guards
included: nothing, one new Run, one rewritten row with the events that describe the rewrite
(`RowChange`, one constructor for each kind), or one completion with its checkpoint.
`change_of_perform` says that the list is exhaustive, and `sameRunTables_of_workflow` and
`onlyMemory_of_memory` that the other two stores leave the Run tables alone. Every invariant of
the Run store is proved from these and never unfolds an operation.
-/

set_option autoImplicit false
set_option relaxedAutoImplicit false

namespace AgentRuntime.Store

open Library

/-! ### Reading the guards -/

theorem holdsLease_iff (row : RunRow) (token : String) (nowMs : Int) :
    row.holdsLease token nowMs = true ↔
      row.leaseToken = some token ∧ ∃ expiresAt, row.leaseExpiresAt = some expiresAt ∧
        nowMs < expiresAt := by
  unfold RunRow.holdsLease
  cases row.leaseExpiresAt <;> simp

theorem findRunForTenant_eq_some_iff (db : Database) (runId tenantId : String) (row : RunRow) :
    findRunForTenant db runId tenantId = some row ↔
      db.runs.find runId = some row ∧ row.tenantId = tenantId := by
  simp [findRunForTenant, Option.filter_eq_some_iff]

theorem currentAttempt_eq_some_iff (db : Database) (runId token : String) (nowMs : Int)
    (row : RunRow) :
    currentAttempt db runId token nowMs = some row ↔
      db.runs.find runId = some row ∧ row.status = .running ∧
        row.holdsLease token nowMs = true := by
  simp [currentAttempt, Option.filter_eq_some_iff]

theorem sameThread_iff (row other : RunRow) :
    row.sameThread other = true ↔
      row.tenantId = other.tenantId ∧ row.threadId = other.threadId := by
  simp [RunRow.sameThread]

theorem threadOccupied_iff (db : Database) (runId : String) (row : RunRow) :
    threadOccupied db runId row = true ↔
      ∃ other otherRow, db.runs.find other = some otherRow ∧ other ≠ runId ∧
        otherRow.sameThread row = true ∧ otherRow.status = .running := by
  simp [threadOccupied, Table.mem_rows_iff, and_assoc]

theorem queuedCandidate_iff (db : Database) (row : RunRow) :
    queuedCandidate db row = true ↔
      row.status = .queued ∧ row.cancelRequested = false ∧
        ∀ other otherRow, db.runs.find other = some otherRow →
          otherRow.sameThread row = true → otherRow.status ≠ .running := by
  simp [queuedCandidate, Table.mem_rows_iff, and_assoc]

/-! ### The tables after an update -/

/-- The Run tables are left as they were. -/
def SameRunTables (db after : Database) : Prop :=
  after.runs = db.runs ∧ after.runEvents = db.runEvents ∧ after.threadStates = db.threadStates

/-- The workflow tables are left as they were. -/
def SameLedger (db after : Database) : Prop :=
  after.executions = db.executions ∧ after.toolCalls = db.toolCalls ∧
    after.externalActions = db.externalActions ∧ after.workflowEvents = db.workflowEvents

theorem SameLedger.refl (db : Database) : SameLedger db db := ⟨rfl, rfl, rfl, rfl⟩

theorem SameLedger.trans {db middle after : Database} (hfirst : SameLedger db middle)
    (hsecond : SameLedger middle after) : SameLedger db after :=
  ⟨hsecond.1.trans hfirst.1, hsecond.2.1.trans hfirst.2.1, hsecond.2.2.1.trans hfirst.2.2.1,
    hsecond.2.2.2.trans hfirst.2.2.2⟩

/-- An event before it gets its sequence number. -/
structure Note where
  eventType : String
  payload : Payload
  createdAt : String

/-- Append several events of one Run. -/
def appendNotes (events : List EventRow) (runId : String) (notes : List Note) : List EventRow :=
  notes.foldl
    (fun events note ↦
      events ++ [newEvent events runId note.eventType note.payload note.createdAt]) events

/-- Only the row of `runId` changed, and it is `row` now. -/
def RewritesRun (db after : Database) (runId : String) (row : RunRow) : Prop :=
  ∀ other, after.runs.find other = if other = runId then some row else db.runs.find other

theorem rewritesRun_updateRun {db : Database} {runId : String} {row : RunRow}
    (change : RunRow → RunRow) (hfind : db.runs.find runId = some row) :
    RewritesRun db (updateRun db runId change) runId (change row) := by
  intro other
  simp only [updateRun, Table.find_modify]
  by_cases hother : other = runId
  · simp [hother, hfind]
  · simp [hother]

theorem RewritesRun.of_runs_eq {db middle after : Database} {runId : String} {row : RunRow}
    (hrewrites : RewritesRun db middle runId row) (hruns : after.runs = middle.runs) :
    RewritesRun db after runId row := by
  intro other
  rw [hruns]
  exact hrewrites other

theorem rewritesRun_self {db : Database} {runId : String} {row : RunRow}
    (hfind : db.runs.find runId = some row) : RewritesRun db db runId row := by
  intro other
  by_cases hother : other = runId
  · simp [hother, hfind]
  · simp [hother]

/-! ### The kinds of row rewrites -/

/-- The attempt that holds the row's lease at a reading. -/
def HoldsAttempt (row : RunRow) (token : String) (reading : Reading) : Prop :=
  row.status = .running ∧ row.holdsLease token reading.nowMs = true

/-- How a call rewrites the row of one Run, with the events it appends. -/
inductive RowChange (db : Database) (reading : Reading) (call : RunCall) (runId : String)
    (row : RunRow) : RunRow → List Note → Prop
  | claimQueued (ownerId : String) (duration : Int) (code : Option String)
    (hcall : call = .claimNextRun ownerId duration code)
    (hcandidate : queuedCandidate db row = true)
    (hfirst : ∀ other otherRow, db.runs.find other = some otherRow →
      claimable db other otherRow reading.nowMs = true →
      creationOrder (runId, row) ≤ creationOrder (other, otherRow)) :
    RowChange db reading call runId row
      (claimedRow db row ownerId ("lease_" ++ reading.uuid 0) (reading.utcNow 0) reading.nowMs
        (reading.nowMs + duration * 1000) code)
      [⟨"run.started", startedPayload row
        (claimedRow db row ownerId ("lease_" ++ reading.uuid 0) (reading.utcNow 0) reading.nowMs
          (reading.nowMs + duration * 1000) code), reading.utcNow 2⟩]
  | takeover (ownerId : String) (duration : Int) (code : Option String)
    (reason : RunLeaseRecoveryReason)
    (hcall : call = .claimNextRun ownerId duration code)
    (hcandidate : expiredCandidate db runId row reading.nowMs = true)
    (hreason : recoveryReason row = some reason)
    (hfree : threadOccupied db runId row = false) :
    RowChange db reading call runId row
      (claimedRow db row ownerId ("lease_" ++ reading.uuid 0) (reading.utcNow 0) reading.nowMs
        (reading.nowMs + duration * 1000) code)
      [⟨"run.recovered", [("reason", .str (recoveredReasonText row reason code))],
          reading.utcNow 1⟩,
        ⟨"run.started", startedPayload row
          (claimedRow db row ownerId ("lease_" ++ reading.uuid 0) (reading.utcNow 0) reading.nowMs
            (reading.nowMs + duration * 1000) code), reading.utcNow 2⟩]
  | renew (token : String) (duration : Int) (hcall : call = .renewRunLease runId token duration)
    (hattempt : HoldsAttempt row token reading) (hduration : 0 < duration) :
    RowChange db reading call runId row
      { row with
        leaseHeartbeatAt := some reading.nowMs
        leaseExpiresAt := some (reading.nowMs + duration * 1000)
        updatedAt := reading.utcNow 0 } []
  | expire (token : String) (hcall : call = .expireRunLease runId token)
    (hrunning : row.status = .running) (htoken : row.leaseToken = some token) :
    RowChange db reading call runId row
      { row with
        leaseHeartbeatAt := some reading.nowMs
        leaseExpiresAt := some reading.nowMs
        updatedAt := reading.utcNow 0 } []
  | marker (token code error : String)
    (hcall : call = .commitReconciliationPending runId row.tenantId token code error)
    (hattempt : HoldsAttempt row token reading) :
    RowChange db reading call runId row
      { row with
        errorCode := some code
        error := some error
        completedAt := none
        updatedAt := reading.utcNow 0 } []
  | attemptEvent (token eventType : String) (payload : Payload)
    (hcall : call = .appendAttemptEvent runId (some token) eventType payload)
    (hattempt : HoldsAttempt row token reading) :
    RowChange db reading call runId row row [⟨eventType, payload, reading.utcNow 0⟩]
  | controlEvent (eventType : String) (payload : Payload)
    (hcall : call = .appendControlPlaneEvent runId row.tenantId eventType payload)
    (htype : eventType ∈ controlPlaneEventTypes) :
    RowChange db reading call runId row row [⟨eventType, payload, reading.utcNow 0⟩]
  | requestCancel (hcall : call = .requestCancelAtomically runId row.tenantId)
    (hactive : row.status = .queued ∨ row.status = .running)
    (hflag : row.cancelRequested = false) :
    RowChange db reading call runId row
      { row with cancelRequested := true, updatedAt := reading.utcNow 0 }
      [⟨"run.cancel_requested", [("status", .str row.status.text)], reading.utcNow 1⟩]
  | cancelQueued (hcall : call = .finalizeNextQueuedCancellation)
    (hqueued : row.status = .queued) (hflag : row.cancelRequested = true) :
    RowChange db reading call runId row
      (RunRow.clearLease
        { row with
          status := .cancelled
          errorCode := none
          error := none
          completedAt := some (reading.utcNow 0)
          updatedAt := reading.utcNow 0 })
      [⟨"run.cancelled", [("reason", .str "cancelled_before_start")], reading.utcNow 1⟩]
  | fail (run : RunRecord) (token code error : String) (traceback : Option String) (allow : Bool)
    (hcall : call = .commitFailedRun run token code error traceback allow)
    (hrun : run.runId = runId) (hattempt : HoldsAttempt row token reading) :
    RowChange db reading call runId row (failedRow row code error (reading.utcNow 0))
      [⟨"run.failed", failedPayload code error traceback, reading.utcNow 1⟩]
  | conflict (run : RunRecord) (token phase : String)
    (hcall : call = .commitCheckpointConflict run token phase ∨
      call = .commitCompletedRun run token ∧ phase = "completion" ∧
        row.checkpointBaseRevision ≠ some (threadRevision db row.tenantId row.threadId))
    (hrun : run.runId = runId) (hattempt : HoldsAttempt row token reading)
    (hflag : row.cancelRequested = false) :
    RowChange db reading call runId row
      (failedRow row threadCheckpointConflictCode
        (checkpointConflictError row.checkpointBaseRevision
          (threadRevision db row.tenantId row.threadId)) (reading.utcNow 0))
      [⟨"checkpoint.conflict", checkpointConflictPayload phase row.checkpointBaseRevision
          (threadRevision db row.tenantId row.threadId), reading.utcNow 1⟩,
        ⟨"run.failed", failedPayload threadCheckpointConflictCode
          (checkpointConflictError row.checkpointBaseRevision
            (threadRevision db row.tenantId row.threadId)) none, reading.utcNow 2⟩]
  | cancel (run : RunRecord) (token reason : String)
    (hcall : call = .commitCancelledRun run reason token) (hrun : run.runId = runId)
    (hactive : row.status = .queued ∨ row.status = .running)
    (hflag : row.cancelRequested = true)
    (hlease : row.holdsLease token reading.nowMs = true) :
    RowChange db reading call runId row (cancelledRow row run (reading.utcNow 0))
      [⟨"run.cancelled", [("reason", .str reason)], reading.utcNow 1⟩]
  | quarantine (run : RunRecord) (token phase : String)
    (hcall : call = .quarantineCheckpointConflict run token phase) (hrun : run.runId = runId)
    (hattempt : HoldsAttempt row token reading)
    (hdrift : row.checkpointBaseRevision ≠ some (threadRevision db row.tenantId row.threadId)) :
    RowChange db reading call runId row
      (RunRow.clearLease
        { row with
          errorCode := some threadCheckpointReconciliationBlockedCode
          error := some (quarantineError row.checkpointBaseRevision
            (threadRevision db row.tenantId row.threadId))
          completedAt := none
          updatedAt := reading.utcNow 0 })
      [⟨"checkpoint.conflict", checkpointConflictPayload phase row.checkpointBaseRevision
          (threadRevision db row.tenantId row.threadId) ++
            [("disposition", .str "external_action_reconciliation_quarantined")],
          reading.utcNow 1⟩]
  | resolve (target : QuarantineResolutionTarget) (resolution : QuarantineResolutionKind)
    (planId subject credential : String) (audit failure : Payload)
    (hcall : call = .applyQuarantineResolution runId row.tenantId target resolution planId subject
      credential)
    (hquarantined : row.quarantined = true) :
    RowChange db reading call runId row
      (failedRow row threadCheckpointConflictCode resolutionError (reading.utcNow 0))
      [⟨"quarantine.resolution_applied", audit, reading.utcNow 1⟩,
        ⟨"run.failed", failure, reading.utcNow 2⟩]

/-- The row a new Run is created with: client state stands on revision 0. -/
def createdRow (run : RunRecord) : RunRow :=
  if run.state.isSome then { runValues run with checkpointBaseRevision := some 0 }
  else runValues run

/-- A completing commit: the guards it passed, the row, the events and the checkpoint it wrote. -/
structure Completion (db : Database) (reading : Reading) (run : RunRecord) (token : String)
    (row : RunRow) (state : RuntimeState) (after : Database) : Prop where
  find : db.runs.find run.runId = some row
  tenant : row.tenantId = run.tenantId
  attempt : HoldsAttempt row token reading
  flag : row.cancelRequested = false
  given : run.state = some state
  identity : state.threadId = row.threadId ∧ state.domainId = row.domainId ∧
    state.schemaVersion = row.schemaVersion
  base : row.checkpointBaseRevision = some (threadRevision db row.tenantId row.threadId)
  runs : RewritesRun db after run.runId (completedRow row run state (reading.utcNow 0))
  events : after.runEvents = appendNotes db.runEvents run.runId
    [⟨"checkpoint.saved", checkpointSavedPayload row.threadId state
        (threadRevision db row.tenantId row.threadId), reading.utcNow 1⟩,
      ⟨"run.completed", [("validation_errors", .arr (run.validationErrors.map Json.str))],
        reading.utcNow 2⟩]
  threads : ∀ key, after.threadStates.find key =
    if key = (row.tenantId, row.threadId) then
      some
        { domainId := row.domainId
          schemaVersion := row.schemaVersion
          stateJson := (projectThreadCheckpointState state).toStateJson
          updatedAt := reading.utcNow 0
          revision := threadRevision db row.tenantId row.threadId + 1 }
    else db.threadStates.find key

/-- Everything a call can do to the Run tables. -/
inductive RunChange (db : Database) (reading : Reading) (call : RunCall) (after : Database) : Prop
  | same (htables : SameRunTables db after)
  | created (run : RunRecord) (notes : List Note)
    (hcall : call = .createRun run ∧ notes = [] ∨
      ∃ payload, call = .createRunWithEvent run "run.queued" payload ∧
        notes = [⟨"run.queued", payload, reading.utcNow 0⟩])
    (hnew : isNewQueuedRun run = true) (hfresh : db.runs.find run.runId = none)
    (hseed : run.state.isSome → db.threadStates.find (run.tenantId, run.threadId) = none ∧
      ∀ other otherRow, db.runs.find other = some otherRow →
        otherRow.tenantId = run.tenantId → otherRow.threadId = run.threadId →
        otherRow.status ≠ .queued ∧ otherRow.status ≠ .running)
    (hruns : RewritesRun db after run.runId (createdRow run))
    (hevents : after.runEvents = appendNotes db.runEvents run.runId notes)
    (hthreads : after.threadStates = db.threadStates)
  | rewritten (runId : String) (row rewritten : RunRow) (notes : List Note)
    (hfind : db.runs.find runId = some row)
    (hchange : RowChange db reading call runId row rewritten notes)
    (hruns : RewritesRun db after runId rewritten)
    (hevents : after.runEvents = appendNotes db.runEvents runId notes)
    (hthreads : after.threadStates = db.threadStates)
  | completed (run : RunRecord) (token : String) (row : RunRow) (state : RuntimeState)
    (hcall : call = .commitCompletedRun run token)
    (hcompletion : Completion db reading run token row state after)

theorem RunChange.unchanged (db : Database) (reading : Reading) (call : RunCall) :
    RunChange db reading call db :=
  .same ⟨rfl, rfl, rfl⟩

/-! ### One lemma for each operation -/

theorem change_of_prepareClientStateSeed {db seeded : Database} {run reply : RunRecord}
    {reading : Reading} {call : RunCall} {notes : List Note} {after : Database}
    (hcall : call = .createRun run ∧ notes = [] ∨
      ∃ payload, call = .createRunWithEvent run "run.queued" payload ∧
        notes = [⟨"run.queued", payload, reading.utcNow 0⟩])
    (hnew : isNewQueuedRun run = true) (hfresh : db.runs.find run.runId = none)
    (hseeded : prepareClientStateSeed
      { db with runs := db.runs.insert run.runId (runValues run) } run = .ok (reply, seeded))
    (hruns : after.runs = seeded.runs)
    (hevents : after.runEvents = appendNotes db.runEvents run.runId notes)
    (hthreads : after.threadStates = db.threadStates) : RunChange db reading call after := by
  have hinsert := db.runs.find_insert_of_fresh run.runId
  unfold prepareClientStateSeed at hseeded
  split_ifs at hseeded with hstate hbusy
  · obtain ⟨-, rfl⟩ := Prod.mk.inj (Except.ok.inj hseeded)
    refine .created run notes hcall hnew hfresh (fun hsome ↦ ?_) (fun other ↦ ?_) hevents hthreads
    · simp [Option.isNone_iff_eq_none.mp hstate] at hsome
    · rw [hruns, hinsert other _ hfresh]
      simp [createdRow, Option.isNone_iff_eq_none.mp hstate]
  · obtain ⟨-, rfl⟩ := Prod.mk.inj (Except.ok.inj hseeded)
    have hsome : run.state.isSome = true := by
      simpa [Option.isSome_iff_ne_none] using hstate
    have hfree := (Bool.not_eq_true _ ▸ hbusy : _ = false)
    rw [Bool.or_eq_false_iff] at hfree
    refine .created run notes hcall hnew hfresh (fun _ ↦ ⟨?_, ?_⟩) (fun other ↦ ?_) hevents
      hthreads
    · simpa using hfree.1
    · intro other otherRow hfind htenant hthread
      have hne : other ≠ run.runId := fun heq ↦ by simp [heq, hfresh] at hfind
      have hscan := hfree.2
      simp only [threadHasNonterminal, List.any_eq_false, Prod.forall, Table.mem_rows_iff,
        hinsert _ _ hfresh] at hscan
      have hother := hscan other otherRow (by simpa [hne] using hfind)
      simpa [htenant, hthread, hne] using hother
    · rw [hruns]
      simp only [updateRun, Table.find_modify, hinsert other _ hfresh]
      by_cases hother : other = run.runId <;> simp [hother, createdRow, hsome]

theorem insertRun_eq_ok {db inserted : Database} {run : RunRecord}
    (hinsert : insertRun db run = .ok inserted) :
    db.runs.find run.runId = none ∧
      inserted = { db with runs := db.runs.insert run.runId (runValues run) } := by
  unfold insertRun at hinsert
  split_ifs at hinsert with hfresh
  exact ⟨by simpa using hfresh, (Except.ok.inj hinsert).symm⟩

theorem assertNewQueuedRun_eq_ok {run : RunRecord} (hok : assertNewQueuedRun run = .ok ()) :
    isNewQueuedRun run = true := by
  unfold assertNewQueuedRun at hok
  split_ifs at hok with hnew
  exact hnew

theorem prepareClientStateSeed_frame {db seeded : Database} {run reply : RunRecord}
    (hok : prepareClientStateSeed db run = .ok (reply, seeded)) :
    seeded.runEvents = db.runEvents ∧ seeded.threadStates = db.threadStates := by
  unfold prepareClientStateSeed at hok
  split_ifs at hok
  all_goals
    obtain ⟨-, rfl⟩ := Prod.mk.inj (Except.ok.inj hok)
    exact ⟨rfl, rfl⟩

theorem change_of_createRun {db after : Database} {reading : Reading} {run reply : RunRecord}
    (hok : createRun db run = .ok (reply, after)) :
    RunChange db reading (.createRun run) after := by
  unfold createRun at hok
  split at hok
  · cases hok
  · next hassert =>
    split at hok
    · cases hok
    · next inserted hinsert =>
      obtain ⟨hfresh, rfl⟩ := insertRun_eq_ok hinsert
      obtain ⟨hevents, hthreads⟩ := prepareClientStateSeed_frame hok
      exact change_of_prepareClientStateSeed (.inl ⟨rfl, rfl⟩) (assertNewQueuedRun_eq_ok hassert)
        hfresh hok rfl hevents hthreads

theorem change_of_createRunWithEvent {db after : Database} {reading : Reading}
    {run reply : RunRecord} {eventType : String} {payload : Payload}
    (hok : createRunWithEvent db reading run eventType payload = .ok (reply, after)) :
    RunChange db reading (.createRunWithEvent run eventType payload) after := by
  unfold createRunWithEvent at hok
  split at hok
  · cases hok
  · next hassert =>
    split_ifs at hok with htype
    split at hok
    · cases hok
    · next inserted hinsert =>
      split at hok
      · cases hok
      · next seeded prepared hseeded =>
        obtain ⟨-, rfl⟩ := Prod.mk.inj (Except.ok.inj hok)
        obtain ⟨hfresh, rfl⟩ := insertRun_eq_ok hinsert
        obtain ⟨hevents, hthreads⟩ := prepareClientStateSeed_frame hseeded
        rw [not_not] at htype
        subst htype
        refine change_of_prepareClientStateSeed (.inr ⟨payload, rfl, rfl⟩)
          (assertNewQueuedRun_eq_ok hassert) hfresh hseeded rfl ?_ hthreads
        simp only [appendRunEvent, appendNotes, List.foldl_cons, List.foldl_nil, hevents]

theorem claimCandidate_eq_some {db : Database} {nowMs : Int} {runId : String} {row : RunRow}
    (hcandidate : claimCandidate db nowMs = some (runId, row)) :
    db.runs.find runId = some row ∧ claimable db runId row nowMs = true ∧
      ∀ other otherRow, db.runs.find other = some otherRow →
        claimable db other otherRow nowMs = true →
        creationOrder (runId, row) ≤ creationOrder (other, otherRow) := by
  have hmem := List.argmin_mem hcandidate
  rw [List.mem_filter, Table.mem_rows_iff] at hmem
  refine ⟨hmem.1, hmem.2, fun other otherRow hfind hclaimable ↦ ?_⟩
  refine List.le_of_mem_argmin ?_ hcandidate
  rw [List.mem_filter, Table.mem_rows_iff]
  exact ⟨hfind, hclaimable⟩

/-- A claimed Run either was QUEUED in a free thread or is taken over from a lapsed attempt. -/
theorem change_of_claimNextRun {db after : Database} {reading : Reading} {ownerId : String}
    {duration : Int} {code : Option String} {reply : Option RunLeaseClaim}
    (hok : claimNextRun db reading ownerId duration code = .ok (reply, after)) :
    RunChange db reading (.claimNextRun ownerId duration code) after := by
  unfold claimNextRun at hok
  split_ifs at hok
  split at hok
  · obtain ⟨-, rfl⟩ := Prod.mk.inj (Except.ok.inj hok)
    exact .unchanged _ _ _
  · next runId row hcandidate =>
    obtain ⟨hfind, hclaimable, hfirst⟩ := claimCandidate_eq_some hcandidate
    simp only at hok
    split_ifs at hok with hupdatable hoccupied
    · obtain ⟨-, rfl⟩ := Prod.mk.inj (Except.ok.inj hok)
      rcases Bool.or_eq_true_iff.mp hclaimable with hqueued | hexpired
      · have hstatus := ((queuedCandidate_iff db row).mp hqueued).1
        have hreason : recoveryReason row = none := by
          simp [recoveryReason, hstatus]
        refine .rewritten runId row _ _ hfind (.claimQueued ownerId duration code rfl hqueued
          hfirst) ?_ ?_ ?_
        · refine (rewritesRun_updateRun (fun _ ↦ claimedRow db row ownerId _ _ _ _ code)
            hfind).of_runs_eq ?_
          simp only [appendRunEvent, appendRecoveredEvent, hreason]
        · simp only [appendRunEvent, appendRecoveredEvent, hreason, updateRun, appendNotes,
            List.foldl_cons, List.foldl_nil]
        · simp only [appendRunEvent, appendRecoveredEvent, hreason, updateRun]
      · have hstatus : row.status = .running := by
          simp only [expiredCandidate, Bool.and_eq_true, beq_iff_eq] at hexpired
          exact hexpired.1.1.1.1
        obtain ⟨reason, hreason⟩ : ∃ reason, recoveryReason row = some reason := by
          unfold recoveryReason
          by_cases hlegacy : (row.leaseToken.isNone || row.leaseExpiresAt.isNone) = true
          · exact ⟨.legacyUnleased, by simp only [hstatus, hlegacy, beq_self_eq_true, if_true]⟩
          · exact ⟨.leaseExpired, by simp [hstatus, hlegacy]⟩
        refine .rewritten runId row _ _ hfind (.takeover ownerId duration code reason rfl hexpired
          hreason (by simpa using hoccupied)) ?_ ?_ ?_
        · refine (rewritesRun_updateRun (fun _ ↦ claimedRow db row ownerId _ _ _ _ code)
            hfind).of_runs_eq ?_
          simp only [appendRunEvent, appendRecoveredEvent, hreason]
        · simp only [appendRunEvent, appendRecoveredEvent, hreason, updateRun, appendNotes,
            List.foldl_cons, List.foldl_nil]
        · simp only [appendRunEvent, appendRecoveredEvent, hreason, updateRun]
    · obtain ⟨-, rfl⟩ := Prod.mk.inj (Except.ok.inj hok)
      exact .unchanged _ _ _

theorem change_of_renewRunLease {db after : Database} {reading : Reading} {runId token : String}
    {duration : Int} {reply : Bool}
    (hok : renewRunLease db reading runId token duration = .ok (reply, after)) :
    RunChange db reading (.renewRunLease runId token duration) after := by
  unfold renewRunLease at hok
  split_ifs at hok with hempty hduration
  split at hok
  · obtain ⟨-, rfl⟩ := Prod.mk.inj (Except.ok.inj hok)
    exact .unchanged _ _ _
  · next row hcurrent =>
    obtain ⟨-, rfl⟩ := Prod.mk.inj (Except.ok.inj hok)
    obtain ⟨hfind, hrunning, hlease⟩ := (currentAttempt_eq_some_iff _ _ _ _ _).mp hcurrent
    exact .rewritten runId row _ [] hfind
      (.renew token duration rfl ⟨hrunning, hlease⟩ (not_le.mp hduration))
      (rewritesRun_updateRun _ hfind) rfl rfl

theorem change_of_expireRunLease {db after : Database} {reading : Reading} {runId token : String}
    {reply : Bool} (hok : expireRunLease db reading runId token = .ok (reply, after)) :
    RunChange db reading (.expireRunLease runId token) after := by
  unfold expireRunLease at hok
  split_ifs at hok
  split at hok
  · obtain ⟨-, rfl⟩ := Prod.mk.inj (Except.ok.inj hok)
    exact .unchanged _ _ _
  · next row hheld =>
    obtain ⟨-, rfl⟩ := Prod.mk.inj (Except.ok.inj hok)
    rw [Option.filter_eq_some_iff, Bool.and_eq_true, beq_iff_eq, beq_iff_eq] at hheld
    exact .rewritten runId row _ [] hheld.1 (.expire token rfl hheld.2.1 hheld.2.2)
      (rewritesRun_updateRun _ hheld.1) rfl rfl

theorem change_of_appendAttemptEvent {db after : Database} {reading : Reading} {runId : String}
    {token : Option String} {eventType : String} {payload : Payload} {reply : EventRow}
    (hok : appendAttemptEvent db reading runId token eventType payload = .ok (reply, after)) :
    RunChange db reading (.appendAttemptEvent runId token eventType payload) after := by
  unfold appendAttemptEvent at hok
  split at hok
  · cases hok
  · next hassert =>
    obtain ⟨-, rfl⟩ := Prod.mk.inj (Except.ok.inj hok)
    unfold assertCurrentRunLease at hassert
    split at hassert
    · cases hassert
    · next token =>
      split at hassert
      · cases hassert
      · next row hcurrent =>
        obtain ⟨hfind, hrunning, hlease⟩ := (currentAttempt_eq_some_iff _ _ _ _ _).mp hcurrent
        exact .rewritten runId row row _ hfind
          (.attemptEvent token eventType payload rfl ⟨hrunning, hlease⟩)
          (rewritesRun_self hfind) rfl rfl

theorem change_of_appendControlPlaneEvent {db after : Database} {reading : Reading}
    {runId tenantId eventType : String} {payload : Payload} {reply : EventRow}
    (hok : appendControlPlaneEvent db reading runId tenantId eventType payload =
      .ok (reply, after)) :
    RunChange db reading (.appendControlPlaneEvent runId tenantId eventType payload) after := by
  unfold appendControlPlaneEvent at hok
  split_ifs at hok with htype
  split at hok
  · cases hok
  · next row hrow =>
    obtain ⟨-, rfl⟩ := Prod.mk.inj (Except.ok.inj hok)
    obtain ⟨hfind, rfl⟩ := (findRunForTenant_eq_some_iff _ _ _ _).mp hrow
    exact .rewritten runId row row _ hfind
      (.controlEvent eventType payload rfl htype) (rewritesRun_self hfind) rfl rfl

theorem change_of_finalizeNextQueuedCancellation {db after : Database} {reading : Reading}
    {reply : Option RunRecord}
    (hok : finalizeNextQueuedCancellation db reading = .ok (reply, after)) :
    RunChange db reading .finalizeNextQueuedCancellation after := by
  unfold finalizeNextQueuedCancellation at hok
  split at hok
  · obtain ⟨-, rfl⟩ := Prod.mk.inj (Except.ok.inj hok)
    exact .unchanged _ _ _
  · next runId row hfirst =>
    obtain ⟨-, rfl⟩ := Prod.mk.inj (Except.ok.inj hok)
    have hmem := List.argmin_mem hfirst
    rw [List.mem_filter, Table.mem_rows_iff, Bool.and_eq_true, beq_iff_eq] at hmem
    exact .rewritten runId row _ _ hmem.1 (.cancelQueued rfl hmem.2.1 hmem.2.2)
      (rewritesRun_updateRun _ hmem.1) rfl rfl

theorem change_of_requestCancelAtomically {db after : Database} {reading : Reading}
    {runId tenantId : String} {reply : RunRecord}
    (hok : requestCancelAtomically db reading runId tenantId = .ok (reply, after)) :
    RunChange db reading (.requestCancelAtomically runId tenantId) after := by
  unfold requestCancelAtomically at hok
  split at hok
  · cases hok
  · next row hrow =>
    obtain ⟨hfind, rfl⟩ := (findRunForTenant_eq_some_iff _ _ _ _).mp hrow
    simp only at hok
    split_ifs at hok with heligible
    · obtain ⟨-, rfl⟩ := Prod.mk.inj (Except.ok.inj hok)
      simp only [Bool.and_eq_true, Bool.or_eq_true, beq_iff_eq, Bool.not_eq_true'] at heligible
      exact .rewritten runId row _ _ hfind (.requestCancel rfl heligible.1 heligible.2)
        (rewritesRun_updateRun _ hfind) rfl rfl
    · obtain ⟨-, rfl⟩ := Prod.mk.inj (Except.ok.inj hok)
      exact .unchanged _ _ _

theorem classifyCommitOutcome_ne_committed {db : Database} {runId tenantId token : String}
    {nowMs : Int} {outcome : RunCommitOutcome}
    (hok : classifyCommitOutcome db runId tenantId token nowMs = .ok outcome) :
    outcome ≠ .committed := by
  unfold classifyCommitOutcome at hok
  split at hok
  · cases hok
  · split_ifs at hok
    all_goals
      rw [← Except.ok.inj hok]
      decide

/-- A refused commit changes nothing and does not report that it committed. -/
theorem refuseCommit_eq_ok {db after : Database} {run : RunRecord} {token : String} {nowMs : Int}
    {reply : RunCommitOutcome × RunRecord}
    (hok : refuseCommit db run token nowMs = .ok (reply, after)) :
    after = db ∧ reply.1 ≠ .committed := by
  unfold refuseCommit at hok
  split at hok
  · cases hok
  · next outcome hclassify =>
    obtain ⟨rfl, rfl⟩ := Prod.mk.inj (Except.ok.inj hok)
    exact ⟨rfl, classifyCommitOutcome_ne_committed hclassify⟩

theorem change_of_commitReconciliationPending {db after : Database} {reading : Reading}
    {runId tenantId token code error : String} {reply : RunCommitOutcome}
    (hok : commitReconciliationPending db reading runId tenantId token code error =
      .ok (reply, after)) :
    RunChange db reading (.commitReconciliationPending runId tenantId token code error) after := by
  unfold commitReconciliationPending at hok
  split at hok
  · next row hcurrent =>
    obtain ⟨-, rfl⟩ := Prod.mk.inj (Except.ok.inj hok)
    rw [Option.filter_eq_some_iff, beq_iff_eq] at hcurrent
    obtain ⟨hcurrent, rfl⟩ := hcurrent
    obtain ⟨hfind, hrunning, hlease⟩ := (currentAttempt_eq_some_iff _ _ _ _ _).mp hcurrent
    exact .rewritten runId row _ [] hfind (.marker token code error rfl ⟨hrunning, hlease⟩)
      (rewritesRun_updateRun _ hfind) rfl rfl
  · split at hok
    · cases hok
    · obtain ⟨-, rfl⟩ := Prod.mk.inj (Except.ok.inj hok)
      exact .unchanged _ _ _

theorem failCheckpointConflict_eq_ok {db after : Database} {reading : Reading}
    {run : RunRecord} {token phase : String} {row : RunRow}
    (hfind : db.runs.find run.runId = some row) (htenant : row.tenantId = run.tenantId)
    (hok : failCheckpointConflict db reading run.runId run.tenantId token
      row.checkpointBaseRevision (threadRevision db run.tenantId row.threadId) phase =
        .ok after) :
    HoldsAttempt row token reading ∧ row.cancelRequested = false ∧
      RewritesRun db after run.runId
        (failedRow row threadCheckpointConflictCode
          (checkpointConflictError row.checkpointBaseRevision
            (threadRevision db row.tenantId row.threadId)) (reading.utcNow 0)) ∧
      after.runEvents = appendNotes db.runEvents run.runId
        [⟨"checkpoint.conflict", checkpointConflictPayload phase row.checkpointBaseRevision
            (threadRevision db row.tenantId row.threadId), reading.utcNow 1⟩,
          ⟨"run.failed", failedPayload threadCheckpointConflictCode
            (checkpointConflictError row.checkpointBaseRevision
              (threadRevision db row.tenantId row.threadId)) none, reading.utcNow 2⟩] ∧
      after.threadStates = db.threadStates := by
  unfold failCheckpointConflict at hok
  split at hok
  · cases hok
  · next current hcurrent =>
    rw [Option.filter_eq_some_iff, Bool.and_eq_true, Bool.not_eq_true'] at hcurrent
    obtain ⟨hattempt, -, hflag⟩ := hcurrent
    obtain ⟨hfind', hrunning, hlease⟩ := (currentAttempt_eq_some_iff _ _ _ _ _).mp hattempt
    obtain rfl : row = current := Option.some.inj (hfind.symm.trans hfind')
    rw [← htenant] at hok
    rw [← Except.ok.inj hok]
    exact ⟨⟨hrunning, hlease⟩, hflag, rewritesRun_updateRun _ hfind, rfl, rfl⟩

theorem saveCheckpoint_eq_ok {db saved : Database} {tenantId threadId : String}
    {checkpoint : ThreadStateRow}
    (hok : saveCheckpoint db tenantId threadId (threadRevision db tenantId threadId) checkpoint =
      .ok saved) :
    saved.runs = db.runs ∧ saved.runEvents = db.runEvents ∧
      ∀ key, saved.threadStates.find key =
        if key = (tenantId, threadId) then
          some { checkpoint with revision := threadRevision db tenantId threadId + 1 }
        else db.threadStates.find key := by
  unfold saveCheckpoint at hok
  split at hok
  · next hnone =>
    rw [← Except.ok.inj hok]
    refine ⟨rfl, rfl, fun key ↦ ?_⟩
    simp only [Table.find_insert_of_fresh _ _ _ _ hnone, threadRevision, hnone]
  · next existing hsome =>
    split_ifs at hok with hrevision
    rw [← Except.ok.inj hok]
    refine ⟨rfl, rfl, fun key ↦ ?_⟩
    simp only [Table.find_modify, ← hrevision]
    by_cases hkey : key = (tenantId, threadId)
    · simp [hkey, hsome]
    · simp [hkey]

/-- A completing call that returns either completed the Run and reports so, or it changed at most
the row of a Run whose checkpoint drifted. -/
theorem commitCompletedRun_eq_ok {db after : Database} {reading : Reading} {run : RunRecord}
    {token : String} {reply : RunCommitOutcome × RunRecord}
    (hok : commitCompletedRun db reading run token = .ok (reply, after)) :
    (reply.1 = .committed ∧ ∃ row state, Completion db reading run token row state after) ∨
      reply.1 ≠ .committed ∧ (after = db ∨
        ∃ row rewritten notes, db.runs.find run.runId = some row ∧
          row.checkpointBaseRevision ≠ some (threadRevision db row.tenantId row.threadId) ∧
          RowChange db reading (.commitCompletedRun run token) run.runId row rewritten notes ∧
          RewritesRun db after run.runId rewritten ∧
          after.runEvents = appendNotes db.runEvents run.runId notes ∧
          after.threadStates = db.threadStates) := by
  unfold commitCompletedRun at hok
  split at hok
  · cases hok
  · next row hrow =>
    obtain ⟨hfind, htenant⟩ := (findRunForTenant_eq_some_iff _ _ _ _).mp hrow
    split_ifs at hok with hstale
    · obtain ⟨hafter, houtcome⟩ := refuseCommit_eq_ok hok
      exact .inr ⟨houtcome, .inl hafter⟩
    simp only [not_or, not_not] at hstale
    obtain ⟨hrunning, hflag, hlease⟩ := hstale
    rw [Bool.not_eq_true] at hflag
    split at hok
    · cases hok
    · next state hstate =>
      simp only at hok
      split_ifs at hok with hdrift hidentity
      · split at hok
        · cases hok
        · next failed hfailed =>
          obtain ⟨rfl, rfl⟩ := Prod.mk.inj (Except.ok.inj hok)
          obtain ⟨hattempt, hflag, hruns, hevents, hthreads⟩ :=
            failCheckpointConflict_eq_ok hfind htenant hfailed
          rw [← htenant] at hdrift
          exact .inr ⟨(by simp), .inr ⟨row, _, _, hfind, hdrift,
            .conflict run token "completion" (.inr ⟨rfl, rfl, hdrift⟩) rfl hattempt hflag, hruns,
            hevents, hthreads⟩⟩
      · split at hok
        · cases hok
        · split at hok
          · cases hok
          · next saved hsaved =>
            obtain ⟨rfl, rfl⟩ := Prod.mk.inj (Except.ok.inj hok)
            obtain ⟨hruns, hevents, hthreads⟩ := saveCheckpoint_eq_ok hsaved
            simp only [not_or, not_not, Prod.mk.injEq] at hidentity
            rw [not_not, ← htenant] at hdrift
            rw [← htenant] at hthreads
            refine .inl ⟨rfl, row, state, ?_⟩
            refine ⟨hfind, htenant, ⟨hrunning, hlease⟩, hflag, hstate, hidentity.2, hdrift, ?_, ?_,
              hthreads⟩
            · exact (rewritesRun_updateRun (fun row ↦ completedRow row run state _)
                hfind).of_runs_eq (by simp only [appendRunEvent, hruns])
            · simp only [appendRunEvent, appendNotes, List.foldl_cons, List.foldl_nil, hevents,
                updateRun, htenant]

theorem change_of_commitCompletedRun {db after : Database} {reading : Reading} {run : RunRecord}
    {token : String} {reply : RunCommitOutcome × RunRecord}
    (hok : commitCompletedRun db reading run token = .ok (reply, after)) :
    RunChange db reading (.commitCompletedRun run token) after := by
  rcases commitCompletedRun_eq_ok hok with ⟨-, row, state, hcompletion⟩ |
    ⟨-, rfl | ⟨row, rewritten, notes, hfind, -, hchange, hruns, hevents, hthreads⟩⟩
  · exact .completed run token row state rfl hcompletion
  · exact .unchanged _ _ _
  · exact .rewritten run.runId row rewritten notes hfind hchange hruns hevents hthreads

theorem change_of_commitCheckpointConflict {db after : Database} {reading : Reading}
    {run : RunRecord} {token phase : String} {reply : RunCommitOutcome × RunRecord}
    (hok : commitCheckpointConflict db reading run token phase = .ok (reply, after)) :
    RunChange db reading (.commitCheckpointConflict run token phase) after := by
  unfold commitCheckpointConflict at hok
  split at hok
  · cases hok
  · next row hrow =>
    obtain ⟨hfind, htenant⟩ := (findRunForTenant_eq_some_iff _ _ _ _).mp hrow
    split_ifs at hok with hstale
    · rw [(refuseCommit_eq_ok hok).1]
      exact .unchanged _ _ _
    · simp only at hok
      split at hok
      · cases hok
      · next failed hfailed =>
        obtain ⟨-, rfl⟩ := Prod.mk.inj (Except.ok.inj hok)
        obtain ⟨hattempt, hflag, hruns, hevents, hthreads⟩ :=
          failCheckpointConflict_eq_ok hfind htenant hfailed
        exact .rewritten run.runId row _ _ hfind
          (.conflict run token phase (.inl rfl) rfl hattempt hflag) hruns hevents hthreads

theorem change_of_quarantineCheckpointConflict {db after : Database} {reading : Reading}
    {run : RunRecord} {token phase : String} {reply : RunCommitOutcome × RunRecord}
    (hok : quarantineCheckpointConflict db reading run token phase = .ok (reply, after)) :
    RunChange db reading (.quarantineCheckpointConflict run token phase) after := by
  unfold quarantineCheckpointConflict at hok
  split at hok
  · cases hok
  · next row hrow =>
    obtain ⟨hfind, htenant⟩ := (findRunForTenant_eq_some_iff _ _ _ _).mp hrow
    split_ifs at hok with hstale
    · rw [(refuseCommit_eq_ok hok).1]
      exact .unchanged _ _ _
    simp only [← htenant] at hok
    split_ifs at hok with hsame
    obtain ⟨-, rfl⟩ := Prod.mk.inj (Except.ok.inj hok)
    simp only [not_or, not_not] at hstale
    exact .rewritten run.runId row _ _ hfind
      (.quarantine run token phase rfl rfl hstale hsame) (rewritesRun_updateRun _ hfind) rfl rfl

theorem change_of_commitCancelledRun {db after : Database} {reading : Reading} {run : RunRecord}
    {reason token : String} {reply : RunCommitOutcome × RunRecord}
    (hok : commitCancelledRun db reading run reason token = .ok (reply, after)) :
    RunChange db reading (.commitCancelledRun run reason token) after := by
  unfold commitCancelledRun at hok
  split at hok
  · rw [(refuseCommit_eq_ok hok).1]
    exact .unchanged _ _ _
  · next row hrow =>
    simp only at hok
    split_ifs at hok
    obtain ⟨-, rfl⟩ := Prod.mk.inj (Except.ok.inj hok)
    simp only [Option.filter_eq_some_iff, findRunForTenant_eq_some_iff, Bool.and_eq_true,
      Bool.or_eq_true, beq_iff_eq] at hrow
    obtain ⟨⟨hfind, -⟩, ⟨hactive, hflag⟩, hlease⟩ := hrow
    exact .rewritten run.runId row _ _ hfind (.cancel run token reason rfl rfl hactive hflag hlease)
      (rewritesRun_updateRun _ hfind) rfl rfl

theorem change_of_commitFailedRun {db after : Database} {reading : Reading} {run : RunRecord}
    {token code error : String} {traceback : Option String} {allow : Bool}
    {reply : RunCommitOutcome × RunRecord}
    (hok : commitFailedRun db reading run token code error traceback allow =
      .ok (reply, after)) :
    RunChange db reading (.commitFailedRun run token code error traceback allow) after := by
  unfold commitFailedRun at hok
  split at hok
  · rw [(refuseCommit_eq_ok hok).1]
    exact .unchanged _ _ _
  · next row hrow =>
    obtain ⟨-, rfl⟩ := Prod.mk.inj (Except.ok.inj hok)
    rw [Option.filter_eq_some_iff] at hrow
    obtain ⟨hfind, hrunning, hlease⟩ := (currentAttempt_eq_some_iff _ _ _ _ _).mp hrow.1
    exact .rewritten run.runId row _ _ hfind
      (.fail run token code error traceback allow rfl rfl ⟨hrunning, hlease⟩)
      (rewritesRun_updateRun _ hfind) rfl rfl

theorem change_of_applyQuarantineResolution {hasher : Hasher} {db after : Database}
    {reading : Reading} {runId tenantId : String} {target : QuarantineResolutionTarget}
    {resolution : QuarantineResolutionKind} {planId subject credential : String}
    {reply : QuarantineResolutionCommit}
    (hok : applyQuarantineResolution hasher db reading runId tenantId target resolution planId
      subject credential = .ok (reply, after)) :
    RunChange db reading
      (.applyQuarantineResolution runId tenantId target resolution planId subject credential)
      after := by
  unfold applyQuarantineResolution at hok
  split at hok
  · cases hok
  · split at hok
    · cases hok
    · simp only at hok
      split at hok
      · split_ifs at hok
        obtain ⟨-, rfl⟩ := Prod.mk.inj (Except.ok.inj hok)
        exact .unchanged _ _ _
      · split_ifs at hok
        split at hok
        · cases hok
        · next row hrow =>
          obtain ⟨-, rfl⟩ := Prod.mk.inj (Except.ok.inj hok)
          rw [Option.filter_eq_some_iff, findRunForTenant_eq_some_iff] at hrow
          obtain ⟨⟨hfind, rfl⟩, hquarantined⟩ := hrow
          exact .rewritten runId row _ _ hfind
            (.resolve target resolution planId subject credential _ _ rfl hquarantined)
            (rewritesRun_updateRun _ hfind) rfl rfl

theorem reads_eq_ok {α : Type} {db after : Database} {value : Except StoreError α} {reply : α}
    (hok : reads db value = .ok (reply, after)) : value = .ok reply ∧ after = db := by
  unfold reads at hok
  split at hok
  · cases hok
  · obtain ⟨rfl, rfl⟩ := Prod.mk.inj (Except.ok.inj hok)
    exact ⟨rfl, rfl⟩

/-- The list of changes is exhaustive. -/
theorem change_of_perform {hasher : Hasher} {db after : Database} {reading : Reading}
    {call : RunCall} {reply : call.Reply}
    (hok : call.perform hasher db reading = .ok (reply, after)) :
    RunChange db reading call after := by
  cases call with
  | createRun => exact change_of_createRun hok
  | createRunWithEvent => exact change_of_createRunWithEvent hok
  | claimNextRun => exact change_of_claimNextRun hok
  | renewRunLease => exact change_of_renewRunLease hok
  | expireRunLease => exact change_of_expireRunLease hok
  | appendAttemptEvent => exact change_of_appendAttemptEvent hok
  | appendControlPlaneEvent => exact change_of_appendControlPlaneEvent hok
  | finalizeNextQueuedCancellation => exact change_of_finalizeNextQueuedCancellation hok
  | requestCancelAtomically => exact change_of_requestCancelAtomically hok
  | commitReconciliationPending => exact change_of_commitReconciliationPending hok
  | commitCompletedRun => exact change_of_commitCompletedRun hok
  | commitCheckpointConflict => exact change_of_commitCheckpointConflict hok
  | quarantineCheckpointConflict => exact change_of_quarantineCheckpointConflict hok
  | commitCancelledRun => exact change_of_commitCancelledRun hok
  | commitFailedRun => exact change_of_commitFailedRun hok
  | applyQuarantineResolution => exact change_of_applyQuarantineResolution hok
  | planQuarantineResolution | verifyQuarantineResolution | getRunInternal | getRunForTenant
  | getRunByClientRequestId | listEvents | listEventsForTenant | loadThreadStateSnapshot =>
    simp only [RunCall.perform] at hok
    rw [(reads_eq_ok hok).2]
    exact .unchanged _ _ _

/-! ### What a change keeps -/

/-- A terminal row is never rewritten. -/
theorem RowChange.terminal_fixed {db : Database} {reading : Reading} {call : RunCall}
    {runId : String} {row rewritten : RunRow} {notes : List Note}
    (hchange : RowChange db reading call runId row rewritten notes)
    (hterminal : row.status.isTerminal = true) : rewritten = row := by
  cases hchange with
  | attemptEvent | controlEvent => rfl
  | claimQueued _ _ _ _ hcandidate =>
    rw [((queuedCandidate_iff db row).mp hcandidate).1] at hterminal
    cases hterminal
  | takeover _ _ _ _ _ hcandidate =>
    simp only [expiredCandidate, Bool.and_eq_true, beq_iff_eq] at hcandidate
    rw [hcandidate.1.1.1.1] at hterminal
    cases hterminal
  | renew _ _ _ hattempt | marker _ _ _ _ hattempt | fail _ _ _ _ _ _ _ _ hattempt
  | conflict _ _ _ _ _ hattempt | quarantine _ _ _ _ _ hattempt =>
    rw [hattempt.1] at hterminal
    cases hterminal
  | expire _ _ hrunning =>
    rw [hrunning] at hterminal
    cases hterminal
  | requestCancel _ hactive | cancel _ _ _ _ _ hactive =>
    rcases hactive with hactive | hactive
    all_goals
      rw [hactive] at hterminal
      cases hterminal
  | cancelQueued _ hqueued =>
    rw [hqueued] at hterminal
    cases hterminal
  | resolve _ _ _ _ _ _ _ _ hquarantined =>
    simp only [RunRow.quarantined, Bool.and_eq_true, beq_iff_eq] at hquarantined
    rw [hquarantined.1.1] at hterminal
    cases hterminal

/-- A captured checkpoint base is never replaced. -/
theorem RowChange.base_kept {db : Database} {reading : Reading} {call : RunCall} {runId : String}
    {row rewritten : RunRow} {notes : List Note}
    (hchange : RowChange db reading call runId row rewritten notes) {base : Nat}
    (hbase : row.checkpointBaseRevision = some base) :
    rewritten.checkpointBaseRevision = some base := by
  cases hchange with
  | claimQueued | takeover => simp only [claimedRow, hbase, Option.getD_some]
  | renew | expire | marker | attemptEvent | controlEvent | requestCancel | cancelQueued | fail
  | conflict | cancel | quarantine | resolve => exact hbase

/-- No rewrite completes a Run. -/
theorem RowChange.completed_before {db : Database} {reading : Reading} {call : RunCall}
    {runId : String} {row rewritten : RunRow} {notes : List Note}
    (hchange : RowChange db reading call runId row rewritten notes)
    (hcompleted : rewritten.status = .completed) : row.status = .completed := by
  cases hchange with
  | claimQueued | takeover | cancelQueued | fail | conflict | cancel | resolve => cases hcompleted
  | renew | expire | marker | attemptEvent | controlEvent | requestCancel | quarantine =>
    exact hcompleted

/-- Once terminal, a Run's row is the same after every change. -/
theorem terminal_row_fixed {db after : Database} {reading : Reading} {call : RunCall}
    (hchange : RunChange db reading call after) {runId : String} {row : RunRow}
    (hfind : db.runs.find runId = some row) (hterminal : row.status.isTerminal = true) :
    after.runs.find runId = some row := by
  cases hchange with
  | same htables => rw [htables.1, hfind]
  | created run notes hcall hnew hfresh hseed hruns =>
    have hne : runId ≠ run.runId := fun heq ↦ by simp [heq, hfresh] at hfind
    rw [hruns runId, if_neg hne, hfind]
  | rewritten other otherRow rewritten notes hother hrow hruns =>
    rw [hruns runId]
    by_cases heq : runId = other
    · subst heq
      obtain rfl : row = otherRow := Option.some.inj (hfind.symm.trans hother)
      rw [if_pos rfl, hrow.terminal_fixed hterminal]
    · rw [if_neg heq, hfind]
  | completed run token other state hcall hcompletion =>
    rw [hcompletion.runs runId]
    by_cases heq : runId = run.runId
    · subst heq
      obtain rfl : row = other := Option.some.inj (hfind.symm.trans hcompletion.find)
      rw [hcompletion.attempt.1] at hterminal
      cases hterminal
    · rw [if_neg heq, hfind]

theorem createdRow_status {run : RunRecord} (hnew : isNewQueuedRun run = true) :
    (createdRow run).status = .queued := by
  have hqueued : run.status = .queued := by
    simp only [isNewQueuedRun, Bool.and_eq_true, beq_iff_eq] at hnew
    grind
  unfold createdRow
  split_ifs <;> exact hqueued

theorem createdRow_leaseToken {run : RunRecord} (hnew : isNewQueuedRun run = true) :
    (createdRow run).leaseToken = none := by
  have hnone : run.leaseToken = none := by
    simp only [isNewQueuedRun, Bool.and_eq_true, Option.isNone_iff_eq_none] at hnew
    exact hnew.1.1.2
  unfold createdRow
  split_ifs <;> exact hnone

/-- A relation that every rewrite of a row keeps holds between a row and its successor. -/
theorem row_followed {db after : Database} {reading : Reading} {call : RunCall}
    (related : RunRow → RunRow → Prop) (hrefl : ∀ row, related row row)
    (hrewritten : ∀ {runId : String} {row rewritten : RunRow} {notes : List Note},
      RowChange db reading call runId row rewritten notes → related row rewritten)
    (hcompleted : ∀ row run state now, related row (completedRow row run state now))
    (hchange : RunChange db reading call after) {runId : String} {row : RunRow}
    (hfind : db.runs.find runId = some row) :
    ∃ later, after.runs.find runId = some later ∧ related row later := by
  cases hchange with
  | same htables => exact ⟨row, by rw [htables.1, hfind], hrefl row⟩
  | created run notes hcall hnew hfresh hseed hruns =>
    have hne : runId ≠ run.runId := fun heq ↦ by simp [heq, hfresh] at hfind
    exact ⟨row, by rw [hruns runId, if_neg hne, hfind], hrefl row⟩
  | rewritten other otherRow rewritten notes hother hrow hruns =>
    by_cases heq : runId = other
    · subst heq
      obtain rfl : row = otherRow := Option.some.inj (hfind.symm.trans hother)
      exact ⟨rewritten, by rw [hruns runId, if_pos rfl], hrewritten hrow⟩
    · exact ⟨row, by rw [hruns runId, if_neg heq, hfind], hrefl row⟩
  | completed run token other state hcall hcompletion =>
    by_cases heq : runId = run.runId
    · subst heq
      obtain rfl : row = other := Option.some.inj (hfind.symm.trans hcompletion.find)
      exact ⟨completedRow row run state (reading.utcNow 0),
        by rw [hcompletion.runs run.runId, if_pos rfl], hcompleted _ _ _ _⟩
    · exact ⟨row, by rw [hcompletion.runs runId, if_neg heq, hfind], hrefl row⟩

/-- Once captured, a Run's checkpoint base is the same after every change. -/
theorem base_fixed {db after : Database} {reading : Reading} {call : RunCall}
    (hchange : RunChange db reading call after) {runId : String} {row : RunRow} {base : Nat}
    (hfind : db.runs.find runId = some row) (hbase : row.checkpointBaseRevision = some base) :
    ∃ later, after.runs.find runId = some later ∧
      later.checkpointBaseRevision = some base := by
  obtain ⟨later, hlater, hkept⟩ := row_followed
    (fun row later ↦ row.checkpointBaseRevision = some base →
      later.checkpointBaseRevision = some base)
    (fun _ ↦ id) (fun hrow hrowBase ↦ hrow.base_kept hrowBase) (fun _ _ _ _ ↦ id) hchange hfind
  exact ⟨later, hlater, hkept hbase⟩

/-- The columns of a Run that are fixed when it is submitted. -/
structure RunSubmission where
  tenantId : String
  executionAuthority : Option ExecutionAuthority
  threadId : String
  agentId : String
  agentVersion : String
  domainId : String
  schemaVersion : String
  input : Payload

def RunRow.submission (row : RunRow) : RunSubmission where
  tenantId := row.tenantId
  executionAuthority := row.executionAuthority
  threadId := row.threadId
  agentId := row.agentId
  agentVersion := row.agentVersion
  domainId := row.domainId
  schemaVersion := row.schemaVersion
  input := row.input

/-- What a Run was submitted with stays while the Run is active; its tenant stays for good. A
cancelling commit writes the other columns of its record. -/
structure KeepsSubmission (row later : RunRow) : Prop where
  tenant : later.tenantId = row.tenantId
  submission : later.status.isTerminal = false → later.submission = row.submission

theorem RowChange.submission_kept {db : Database} {reading : Reading} {call : RunCall}
    {runId : String} {row rewritten : RunRow} {notes : List Note}
    (hchange : RowChange db reading call runId row rewritten notes) :
    KeepsSubmission row rewritten := by
  cases hchange with
  | cancel => exact ⟨rfl, fun hactive ↦ by cases hactive⟩
  | claimQueued | takeover | renew | expire | marker | attemptEvent | controlEvent | requestCancel
  | cancelQueued | fail | conflict | quarantine | resolve => exact ⟨rfl, fun _ ↦ rfl⟩

theorem submission_fixed {db after : Database} {reading : Reading} {call : RunCall}
    (hchange : RunChange db reading call after) {runId : String} {row : RunRow}
    (hfind : db.runs.find runId = some row) :
    ∃ later, after.runs.find runId = some later ∧ KeepsSubmission row later :=
  row_followed KeepsSubmission (fun _ ↦ ⟨rfl, fun _ ↦ rfl⟩)
    (fun hrow ↦ hrow.submission_kept) (fun _ _ _ _ ↦ ⟨rfl, fun _ ↦ rfl⟩) hchange hfind

theorem prefix_appendNotes (events : List EventRow) (runId : String) (notes : List Note) :
    ∃ more, appendNotes events runId notes = events ++ more := by
  unfold appendNotes
  induction notes generalizing events with
  | nil => exact ⟨[], by simp⟩
  | cons note rest ih =>
    obtain ⟨more, hmore⟩ := ih
      (events ++ [newEvent events runId note.eventType note.payload note.createdAt])
    exact ⟨[newEvent events runId note.eventType note.payload note.createdAt] ++ more, by
      rw [List.foldl_cons, hmore, List.append_assoc]⟩

/-- Events are only ever appended. -/
theorem events_kept {db after : Database} {reading : Reading} {call : RunCall}
    (hchange : RunChange db reading call after) {event : EventRow}
    (hmem : event ∈ db.runEvents) : event ∈ after.runEvents := by
  cases hchange with
  | same htables => rwa [htables.2.1]
  | created run notes hcall hnew hfresh hseed hruns hevents =>
    obtain ⟨more, hmore⟩ := prefix_appendNotes db.runEvents run.runId notes
    rw [hevents, hmore]
    exact List.mem_append_left _ hmem
  | rewritten runId row rewritten notes hfind hrow hruns hevents =>
    obtain ⟨more, hmore⟩ := prefix_appendNotes db.runEvents runId notes
    rw [hevents, hmore]
    exact List.mem_append_left _ hmem
  | completed run token row state hcall hcompletion =>
    obtain ⟨more, hmore⟩ := prefix_appendNotes db.runEvents run.runId _
    rw [hcompletion.events, hmore]
    exact List.mem_append_left _ hmem

/-- A rewritten row keeps its token with its attempt, unless a claim gave it a new one. -/
theorem RowChange.lease_origin {db : Database} {reading : Reading} {call : RunCall}
    {runId : String} {row rewritten : RunRow} {notes : List Note}
    (hchange : RowChange db reading call runId row rewritten notes) {token : String}
    (htoken : rewritten.leaseToken = some token) :
    row.leaseToken = some token ∧ rewritten.attempt = row.attempt ∨
      (∃ ownerId duration code, call = .claimNextRun ownerId duration code) ∧
        token = "lease_" ++ reading.uuid 0 := by
  cases hchange with
  | claimQueued ownerId duration code hcall | takeover ownerId duration code _ hcall =>
    exact .inr ⟨⟨ownerId, duration, code, hcall⟩, (Option.some.inj htoken).symm⟩
  | renew | expire | marker | attemptEvent | controlEvent | requestCancel =>
    exact .inl ⟨htoken, rfl⟩
  | cancelQueued | fail | conflict | cancel | quarantine | resolve => cases htoken

/-- The token of a row after a change was there before, on the same attempt, unless a claim issued
it. -/
theorem lease_origin {db after : Database} {reading : Reading} {call : RunCall}
    (hchange : RunChange db reading call after) {runId token : String} {row : RunRow}
    (hfind : after.runs.find runId = some row) (htoken : row.leaseToken = some token) :
    (∃ before, db.runs.find runId = some before ∧ before.leaseToken = some token ∧
      row.attempt = before.attempt) ∨
      (∃ ownerId duration code, call = .claimNextRun ownerId duration code) ∧
        token = "lease_" ++ reading.uuid 0 := by
  cases hchange with
  | same htables => exact .inl ⟨row, by rw [← htables.1, hfind], htoken, rfl⟩
  | created run notes hcall hnew hfresh hseed hruns =>
    rw [hruns runId] at hfind
    split_ifs at hfind with heq
    · obtain rfl := Option.some.inj hfind
      rw [createdRow_leaseToken hnew] at htoken
      cases htoken
    · exact .inl ⟨row, hfind, htoken, rfl⟩
  | rewritten other before rewritten notes hother hrow hruns =>
    rw [hruns runId] at hfind
    split_ifs at hfind with heq
    · obtain rfl := Option.some.inj hfind
      rcases hrow.lease_origin htoken with ⟨hbefore, hattempt⟩ | hclaim
      · exact .inl ⟨before, by rw [heq, hother], hbefore, hattempt⟩
      · exact .inr hclaim
    · exact .inl ⟨row, hfind, htoken, rfl⟩
  | completed run _ before state hcall hcompletion =>
    rw [hcompletion.runs runId] at hfind
    split_ifs at hfind with heq
    · obtain rfl := Option.some.inj hfind
      cases htoken
    · exact .inl ⟨row, hfind, htoken, rfl⟩

end AgentRuntime.Store
