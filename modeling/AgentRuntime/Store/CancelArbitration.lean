import AgentRuntime.Store.CheckpointHistory
import AgentRuntime.Store.EventLog
import AgentRuntime.Store.ActionTransitions

/-!
# Cancellation arbitration

`request_cancel_atomically` races with the completing commit of its Run and with the first dispatch
of each of its actions. All three read the row of the Run in the transaction that writes, so the
first to commit decides.

Once the flag is set on a Run that has not completed (`CancelFlagged`), no request takes it back or
completes the Run (`cancelFlagged_apply`), the checkpoint of a thread is only moved by other Runs
(`CancellationHolds.checkpoints`), and an action without a dispatch gets none
(`undispatched_apply`). In the other order a cancel request finds a terminal row or the actions of a
ledger it does not write. `CancelLogged` counts the `run.cancel_requested` events of a Run: one when
its flag is set and none otherwise, whatever the number of requests.
-/

set_option autoImplicit false
set_option relaxedAutoImplicit false

namespace AgentRuntime.Store

open Library

variable {hasher : Hasher} {db after : Database} {reading : Reading} {runId : String}

/-! ### The flag -/

/-- The Run was asked to cancel and did not complete. -/
def CancelFlagged (runId : String) (db : Database) : Prop :=
  ∃ row, db.runs.find runId = some row ∧ row.cancelRequested = true ∧ row.status ≠ .completed

/-- No rewrite of a row takes the flag back. -/
theorem RowChange.flag_kept {call : RunCall} {row rewritten : RunRow} {notes : List Note}
    (hchange : RowChange db reading call runId row rewritten notes)
    (hflag : row.cancelRequested = true) : rewritten.cancelRequested = true := by
  cases hchange with
  | requestCancel | cancel => rfl
  | claimQueued | takeover | renew | expire | marker | attemptEvent | controlEvent | cancelQueued
  | fail | conflict | quarantine | resolve => exact hflag

theorem cancelFlagged_of_change {call : RunCall} (hchange : RunChange db reading call after)
    (hflagged : CancelFlagged runId db) : CancelFlagged runId after := by
  obtain ⟨row, hfind, hflag, hstatus⟩ := hflagged
  cases hchange with
  | same htables => exact ⟨row, by rw [htables.1, hfind], hflag, hstatus⟩
  | created run notes hcall hnew hfresh hseed hruns =>
    have hne : runId ≠ run.runId := fun heq ↦ by simp [heq, hfresh] at hfind
    exact ⟨row, by rw [hruns runId, if_neg hne, hfind], hflag, hstatus⟩
  | rewritten other otherRow rewritten notes hother hrow hruns =>
    by_cases heq : runId = other
    · subst heq
      obtain rfl : row = otherRow := Option.some.inj (hfind.symm.trans hother)
      exact ⟨rewritten, by rw [hruns runId, if_pos rfl], hrow.flag_kept hflag,
        fun hcompleted ↦ hstatus (hrow.completed_before hcompleted)⟩
    · exact ⟨row, by rw [hruns runId, if_neg heq, hfind], hflag, hstatus⟩
  | completed run token other state hcall hcompletion =>
    -- The completing commit checks the flag in its own transaction.
    by_cases heq : runId = run.runId
    · subst heq
      obtain rfl : row = other := Option.some.inj (hfind.symm.trans hcompletion.find)
      rw [hcompletion.flag] at hflag
      cases hflag
    · exact ⟨row, by rw [hcompletion.runs runId, if_neg heq, hfind], hflag, hstatus⟩

theorem cancelFlagged_apply (hflagged : CancelFlagged runId db) (request : Request) :
    CancelFlagged runId (request.apply hasher db) := by
  rcases runTables_of_apply hasher db request with hsame | ⟨call, -, hchange⟩
  · obtain ⟨row, hfind, hrest⟩ := hflagged
    exact ⟨row, by rw [hsame.1, hfind], hrest⟩
  · exact cancelFlagged_of_change hchange hflagged

theorem cancelFlagged_run (hflagged : CancelFlagged runId db) (later : List Request) :
    CancelFlagged runId ((storeMachine hasher).run db later) :=
  (storeMachine hasher).invariant_run (CancelFlagged runId)
    (fun _ request hkept _ ↦ cancelFlagged_apply hkept request) hflagged
    ((storeMachine hasher).admits_true _ _)

/-- A COMPLETED Run was not asked to cancel. -/
def CompletedUnflagged (db : Database) : Prop :=
  ∀ runId row, db.runs.find runId = some row → row.status = .completed →
    row.cancelRequested = false

theorem completedUnflagged_of_change {call : RunCall} (hchange : RunChange db reading call after)
    (hunflagged : CompletedUnflagged db) : CompletedUnflagged after := by
  intro runId row hfind hcompleted
  cases hchange with
  | same htables => exact hunflagged runId row (htables.1 ▸ hfind) hcompleted
  | created run notes hcall hnew hfresh hseed hruns =>
    rw [hruns runId] at hfind
    split_ifs at hfind with heq
    · rw [← Option.some.inj hfind, createdRow_status hnew] at hcompleted
      cases hcompleted
    · exact hunflagged runId row hfind hcompleted
  | rewritten other otherRow rewritten notes hother hrow hruns =>
    rw [hruns runId] at hfind
    split_ifs at hfind with heq
    · obtain rfl := Option.some.inj hfind
      have hwas := hrow.completed_before hcompleted
      rw [hrow.terminal_fixed (by rw [hwas]; rfl)]
      exact hunflagged other otherRow hother hwas
    · exact hunflagged runId row hfind hcompleted
  | completed run token other state hcall hcompletion =>
    rw [hcompletion.runs runId] at hfind
    split_ifs at hfind with heq
    · rw [← Option.some.inj hfind]
      exact hcompletion.flag
    · exact hunflagged runId row hfind hcompleted

theorem completedUnflagged_run (history : List Request) :
    CompletedUnflagged ((storeMachine hasher).run Database.empty history) := by
  refine (storeMachine hasher).invariant_run CompletedUnflagged ?_
    (fun runId row hfind ↦ by cases hfind) ((storeMachine hasher).admits_true _ _)
  intro db request hunflagged _
  rcases runTables_of_apply hasher db request with hsame | ⟨call, -, hchange⟩
  · intro runId row hfind
    exact hunflagged runId row (hsame.1 ▸ hfind)
  · exact completedUnflagged_of_change hchange hunflagged

/-! ### Checkpoints -/

/-- Only a completing commit moves a checkpoint. -/
theorem completion_of_threadStates {request : Request}
    (hmoved : (request.apply hasher db).threadStates ≠ db.threadStates) :
    ∃ run token row state, request.call = .run (.commitCompletedRun run token) ∧
      Completion db request.reading run token row state (request.apply hasher db) := by
  rcases runTables_of_apply hasher db request with hsame | ⟨call, hcall, hchange⟩
  · exact (hmoved hsame.2.2).elim
  · cases hchange with
    | same htables => exact (hmoved htables.2.2).elim
    | created run notes _ _ _ _ _ _ hthreads => exact (hmoved hthreads).elim
    | rewritten other row rewritten notes _ _ _ _ hthreads => exact (hmoved hthreads).elim
    | completed run token row state hcommit hcompletion =>
      exact ⟨run, token, row, state, by rw [hcall, hcommit], hcompletion⟩

/-- A flagged Run moves no checkpoint. -/
theorem CancelFlagged.checkpoint_moved (hflagged : CancelFlagged runId db) {request : Request}
    (hmoved : (request.apply hasher db).threadStates ≠ db.threadStates) :
    ∃ run token, request.call = .run (.commitCompletedRun run token) ∧ run.runId ≠ runId := by
  obtain ⟨run, token, row, state, hcall, hcompletion⟩ := completion_of_threadStates hmoved
  refine ⟨run, token, hcall, ?_⟩
  rintro rfl
  obtain ⟨flagged, hfind, hflag, -⟩ := hflagged
  obtain rfl : row = flagged := Option.some.inj (hcompletion.find.symm.trans hfind)
  rw [hcompletion.flag] at hflag
  cases hflag

/-! ### Actions -/

/-- The action was never dispatched, if it exists at all. -/
def Undispatched (runId stepId : String) (db : Database) : Prop :=
  ∀ action, db.externalActions.find (runId, stepId) = some action → NeverDispatched action

theorem undispatched_of_sameLedger {stepId : String} (hsame : SameLedger db after)
    (hundispatched : Undispatched runId stepId db) : Undispatched runId stepId after := by
  intro action hfind
  rw [hsame.2.2.1] at hfind
  exact hundispatched action hfind

/-- No action of the Run can have its first dispatch: the Run does not run, or the flag is set. -/
def DispatchBarred (runId : String) (db : Database) : Prop :=
  ∀ row, db.runs.find runId = some row → row.status = .running → row.cancelRequested = true

theorem CancelFlagged.barred (hflagged : CancelFlagged runId db) : DispatchBarred runId db := by
  intro row hfind _
  obtain ⟨flagged, hflag, hset, -⟩ := hflagged
  obtain rfl : flagged = row := Option.some.inj (hflag.symm.trans hfind)
  exact hset

/-- Of the calls that write an action, preparing leaves it undispatched, the first dispatch is
refused, and the others find it dispatched. -/
theorem undispatched_of_barred {call : WorkflowCall} {stepId : String}
    (hchange : WorkflowChange db reading call after) (hbarred : DispatchBarred runId db)
    (hundispatched : Undispatched runId stepId db) : Undispatched runId stepId after := by
  cases hchange with
  | same hafter | createExecution _ _ _ _ _ _ hafter | startExecution _ _ _ _ _ _ hafter
  | finalizeExecution _ _ _ _ _ _ _ _ _ hafter | reuseStep _ _ _ _ _ _ _ _ _ _ _ _ _ hafter
  | claimFresh _ _ _ _ _ _ _ _ _ _ hafter | claimRetry _ _ _ _ _ _ _ _ _ _ _ hafter
  | finishStep _ _ _ _ _ _ _ _ _ _ _ _ _ hafter | recoverStep _ _ _ _ _ _ _ hafter
  | appendEvent _ _ _ _ _ _ _ hafter =>
    subst hafter
    exact hundispatched
  | prepareAction other otherStep attempt arguments token step run action _ _ _ _ hnone _ _
      haction hafter =>
    intro found hfind
    subst hafter
    have hinserted : (db.externalActions.insert (other, otherStep) action).find (runId, stepId) =
        some found := hfind
    rw [Table.find_insert_of_fresh _ _ _ _ hnone] at hinserted
    split_ifs at hinserted with hkey
    · rw [← Option.some.inj hinserted, haction]
      exact neverDispatched_preparedAction _ _ _
    · exact hundispatched found hinserted
  | beginDispatch other otherStep attempt token action step run _ _ _ hrun hrunning hflag _ _
      hafter =>
    intro found hfind
    subst hafter
    rw [recordDispatch_find] at hfind
    by_cases hkey : (runId, stepId) = (other, otherStep)
    · obtain ⟨rfl, rfl⟩ := Prod.mk.inj hkey
      have hset := hbarred run hrun hrunning
      rw [hflag] at hset
      cases hset
    · rw [if_neg hkey] at hfind
      exact hundispatched found hfind
  | retryDispatch other otherStep previous attempt token action step _ haction hdispatching _ _ _ _
      hafter =>
    intro found hfind
    subst hafter
    rw [recordDispatch_find] at hfind
    by_cases hkey : (runId, stepId) = (other, otherStep)
    · obtain ⟨rfl, rfl⟩ := Prod.mk.inj hkey
      have hprepared := (hundispatched action haction).status
      rw [hdispatching] at hprepared
      cases hprepared
    · rw [if_neg hkey] at hfind
      exact hundispatched found hfind
  | settle settlement outcome action step _ _ haction hdispatching _ _ _ hafter =>
    intro found hfind
    subst hafter
    rw [recordOutcome_find] at hfind
    by_cases hkey : (runId, stepId) = (settlement.runId, settlement.stepId)
    · obtain ⟨rfl, rfl⟩ := Prod.mk.inj hkey
      have hprepared := (hundispatched action haction).status
      rw [hdispatching] at hprepared
      cases hprepared
    · rw [if_neg hkey] at hfind
      exact hundispatched found hfind

theorem undispatched_of_workflow {call : WorkflowCall} {stepId : String}
    (hchange : WorkflowChange db reading call after) (hflagged : CancelFlagged runId db)
    (hundispatched : Undispatched runId stepId db) : Undispatched runId stepId after :=
  undispatched_of_barred hchange hflagged.barred hundispatched

theorem undispatched_apply {stepId : String} (hflagged : CancelFlagged runId db)
    (hundispatched : Undispatched runId stepId db) (request : Request) :
    Undispatched runId stepId (request.apply hasher db) := by
  rcases ledger_of_apply hasher db request with hsame | ⟨call, -, hchange⟩
  · exact undispatched_of_sameLedger hsame hundispatched
  · exact undispatched_of_workflow hchange hflagged hundispatched

theorem undispatched_run {stepId : String} (hflagged : CancelFlagged runId db)
    (hundispatched : Undispatched runId stepId db) (later : List Request) :
    Undispatched runId stepId ((storeMachine hasher).run db later) :=
  ((storeMachine hasher).invariant_run
    (fun db ↦ CancelFlagged runId db ∧ Undispatched runId stepId db)
    (fun _ request hkept _ ↦
      ⟨cancelFlagged_apply hkept.1 request, undispatched_apply hkept.1 hkept.2 request⟩)
    ⟨hflagged, hundispatched⟩ ((storeMachine hasher).admits_true _ _)).2

/-- A PREPARED action was never dispatched. -/
def PreparedUndispatched (db : Database) : Prop :=
  ∀ key action, db.externalActions.find key = some action → action.status = .prepared →
    NeverDispatched action

theorem PreparedUndispatched.calm {failing : String × String → ExternalActionRow → Prop}
    (hprepared : PreparedUndispatched db) (hcalm : Calm failing db after) :
    PreparedUndispatched after := by
  intro key next hnext hstatus
  cases hfind : db.externalActions.find key with
  | none => exact hcalm.fresh key next hfind hnext
  | some row =>
    obtain ⟨found, hfound, hsame, -⟩ := hcalm.kept key row hfind
    obtain rfl : found = next := Option.some.inj (hfound.symm.trans hnext)
    have hrow := hprepared key row hfind (hsame.prepared hstatus)
    exact ⟨hstatus, hsame.count.trans hrow.count, hsame.token.trans hrow.token⟩

theorem PreparedUndispatched.dispatch {other stepId : String} {action : ExternalActionRow}
    (hprepared : PreparedUndispatched db) (retry : Bool) :
    PreparedUndispatched (recordDispatch db reading other stepId action retry) := by
  intro key next hnext hstatus
  rw [recordDispatch_find] at hnext
  split_ifs at hnext with hkey
  · obtain ⟨row, -, rfl⟩ := Option.map_eq_some_iff.mp hnext
    cases hstatus
  · exact hprepared key next hnext hstatus

/-- A call dispatches an action or is calm. -/
theorem dispatch_or_calm {call : WorkflowCall} (hchange : WorkflowChange db reading call after) :
    (∃ other stepId action retry,
        after = recordDispatch db reading other stepId action retry) ∨
      Calm call.failing db after := by
  by_cases hcalm : call.isCalm = true
  · exact .inr (calm_of_workflow hchange hcalm)
  · cases hchange with
    | same hafter =>
      subst hafter
      exact .inr (.refl _)
    | beginDispatch other stepId _ _ action _ _ _ _ _ _ _ _ _ _ hafter =>
      exact .inl ⟨other, stepId, action, false, hafter⟩
    | retryDispatch other stepId _ _ _ action _ _ _ _ _ _ _ _ hafter =>
      exact .inl ⟨other, stepId, action, true, hafter⟩
    | createExecution _ _ _ _ hcall | startExecution _ _ _ hcall | reuseStep _ _ _ _ _ _ _ _ hcall
    | claimFresh _ _ _ _ _ _ _ hcall | claimRetry _ _ _ _ _ _ _ hcall | recoverStep _ _ _ _ hcall
    | prepareAction _ _ _ _ _ _ _ _ hcall | appendEvent _ _ _ _ _ hcall =>
      subst hcall
      exact (hcalm rfl).elim
    | finishStep _ _ _ _ _ _ _ _ _ _ hcall =>
      rcases hcall with ⟨json, rfl, -⟩ | ⟨error, rfl, -⟩ <;> exact (hcalm rfl).elim
    | finalizeExecution _ _ _ _ _ _ hcall | settle _ _ _ _ hcall =>
      cases call with
      | beginExternalActionDispatch | retryExternalActionDispatch => cases hcall
      | _ => exact (hcalm rfl).elim

theorem preparedUndispatched_apply (request : Request) (hprepared : PreparedUndispatched db) :
    PreparedUndispatched (request.apply hasher db) := by
  rcases ledger_of_apply hasher db request with hsame | ⟨call, -, hchange⟩
  · have hcalm : Calm (fun _ _ ↦ False) db (request.apply hasher db) := calm_of_sameLedger hsame
    exact hprepared.calm hcalm
  · rcases dispatch_or_calm hchange with ⟨other, stepId, action, retry, hafter⟩ | hcalm
    · rw [hafter]
      exact hprepared.dispatch retry
    · exact hprepared.calm hcalm

theorem preparedUndispatched_run (history : List Request) :
    PreparedUndispatched ((storeMachine hasher).run Database.empty history) :=
  (storeMachine hasher).invariant_run PreparedUndispatched
    (fun _ request hkept _ ↦ preparedUndispatched_apply request hkept)
    (fun key action hfind ↦ by cases hfind) ((storeMachine hasher).admits_true _ _)

/-! ### The events -/

/-- No worker writes the event of a cancellation by hand. -/
def Request.unforged (request : Request) : Bool :=
  match request.call with
  | .run (.appendAttemptEvent _ _ eventType _) => eventType != "run.cancel_requested"
  | _ => true

/-- How often the events of a Run tell of a cancellation. -/
def cancelEvents (types : List String) : Nat := types.count "run.cancel_requested"

/-- A Run has one event of a cancellation when its flag is set, and none otherwise. -/
structure CancelLogged (db : Database) : Prop where
  logged : ∀ runId row, db.runs.find runId = some row →
    cancelEvents (typesOf db.runEvents runId) = row.cancelRequested.toNat
  unborn : ∀ runId, db.runs.find runId = none → cancelEvents (typesOf db.runEvents runId) = 0

/-- A rewrite writes the event exactly when it sets the flag. -/
theorem RowChange.cancelEvents_eq {call : RunCall} {row rewritten : RunRow} {notes : List Note}
    (hchange : RowChange db reading call runId row rewritten notes)
    (hunforged : ∀ token eventType payload,
      call = .appendAttemptEvent runId (some token) eventType payload →
        eventType ≠ "run.cancel_requested") :
    row.cancelRequested.toNat + cancelEvents (notes.map Note.eventType) =
      rewritten.cancelRequested.toNat := by
  cases hchange with
  | attemptEvent token eventType payload hcall =>
    have hne := hunforged token eventType payload hcall
    simp [cancelEvents, hne]
  | controlEvent eventType payload hcall htype =>
    have hne : eventType ≠ "run.cancel_requested" := by
      rintro rfl
      simp [controlPlaneEventTypes] at htype
    simp [cancelEvents, hne]
  | requestCancel hcall hactive hflag => simp [cancelEvents, hflag]
  | cancel _ _ _ _ _ _ hflag => simp [cancelEvents, hflag, cancelledRow, RunRow.clearLease]
  | claimQueued | takeover => simp [cancelEvents, claimedRow]
  | renew | expire | marker => simp [cancelEvents]
  | cancelQueued | fail | conflict | quarantine | resolve =>
    simp [cancelEvents, failedRow, RunRow.clearLease]

theorem cancelEvents_appendNotes (events : List EventRow) (other : String) (notes : List Note)
    (runId : String) :
    cancelEvents (typesOf (appendNotes events other notes) runId) =
      cancelEvents (typesOf events runId) +
        if other = runId then cancelEvents (notes.map Note.eventType) else 0 := by
  unfold cancelEvents
  rw [typesOf_appendNotes, List.count_append]
  split_ifs <;> simp

theorem createdRow_cancelRequested {run : RunRecord} (hnew : isNewQueuedRun run = true) :
    (createdRow run).cancelRequested = false := by
  have hflag : run.cancelRequested = false := by
    simp only [isNewQueuedRun, Bool.and_eq_true, beq_iff_eq] at hnew
    grind
  unfold createdRow
  split_ifs <;> exact hflag

/-- A change of one row keeps the count when it adds the events that its flag asks for. -/
theorem CancelLogged.rewrite {notes : List Note} {row : RunRow} (hlogged : CancelLogged db)
    (hruns : RewritesRun db after runId row)
    (hevents : after.runEvents = appendNotes db.runEvents runId notes)
    (hcount : cancelEvents (typesOf db.runEvents runId) + cancelEvents (notes.map Note.eventType) =
      row.cancelRequested.toNat) : CancelLogged after := by
  refine ⟨fun other found hfind ↦ ?_, fun other hnone ↦ ?_⟩
  · rw [hruns other] at hfind
    rw [hevents, cancelEvents_appendNotes]
    by_cases heq : other = runId
    · subst heq
      rw [if_pos rfl] at hfind
      rw [if_pos rfl, hcount, Option.some.inj hfind]
    · rw [if_neg heq] at hfind
      rw [if_neg (Ne.symm heq), Nat.add_zero]
      exact hlogged.logged other found hfind
  · rw [hruns other] at hnone
    rw [hevents, cancelEvents_appendNotes]
    by_cases heq : other = runId
    · rw [if_pos heq] at hnone
      cases hnone
    · rw [if_neg heq] at hnone
      rw [if_neg (Ne.symm heq), Nat.add_zero]
      exact hlogged.unborn other hnone

theorem CancelLogged.same (hlogged : CancelLogged db) (hsame : SameRunTables db after) :
    CancelLogged after := by
  refine ⟨fun runId row hfind ↦ ?_, fun runId hnone ↦ ?_⟩
  · rw [hsame.2.1]
    exact hlogged.logged runId row (hsame.1 ▸ hfind)
  · rw [hsame.2.1]
    exact hlogged.unborn runId (hsame.1 ▸ hnone)

theorem cancelLogged_of_change {call : RunCall} (hlogged : CancelLogged db)
    (hchange : RunChange db reading call after)
    (hunforged : ∀ runId token eventType payload,
      call = .appendAttemptEvent runId token eventType payload →
        eventType ≠ "run.cancel_requested") : CancelLogged after := by
  cases hchange with
  | same htables => exact hlogged.same htables
  | created run notes hcall hnew hfresh hseed hruns hevents hthreads =>
    have hflag := createdRow_cancelRequested hnew
    have hquiet : cancelEvents (notes.map Note.eventType) = 0 := by
      rcases hcall with ⟨-, rfl⟩ | ⟨payload, -, rfl⟩ <;> simp [cancelEvents]
    refine hlogged.rewrite hruns hevents ?_
    rw [hlogged.unborn run.runId hfresh, hquiet, hflag]
    rfl
  | rewritten runId row rewritten notes hfind hrow hruns hevents hthreads =>
    refine hlogged.rewrite hruns hevents ?_
    rw [hlogged.logged runId row hfind]
    exact hrow.cancelEvents_eq fun token ↦ hunforged runId (some token)
  | completed run token row state hcall hcompletion =>
    refine hlogged.rewrite hcompletion.runs hcompletion.events ?_
    rw [hlogged.logged run.runId row hcompletion.find]
    simp [cancelEvents, completedRow, RunRow.clearLease]

theorem cancelLogged_apply {request : Request} (hlogged : CancelLogged db)
    (hunforged : request.unforged = true) : CancelLogged (request.apply hasher db) := by
  rcases runTables_of_apply hasher db request with hsame | ⟨call, hcall, hchange⟩
  · exact hlogged.same hsame
  · refine cancelLogged_of_change hlogged hchange fun runId token eventType payload heq ↦ ?_
    rw [Request.unforged, hcall, heq] at hunforged
    simpa using hunforged

theorem cancelLogged_empty : CancelLogged Database.empty where
  logged runId row hfind := by cases hfind
  unborn _ _ := rfl

theorem cancelLogged_run {history : List Request}
    (hunforged : ∀ request ∈ history, request.unforged = true) :
    CancelLogged ((storeMachine hasher).run Database.empty history) :=
  (storeMachine hasher).invariant_run CancelLogged
    (fun _ _ hkept hunforged ↦ cancelLogged_apply hkept hunforged) cancelLogged_empty
    ((storeMachine hasher).admits_of_forall (fun request hmem _ ↦ hunforged request hmem) _)

/-! ### The two orders -/

/-- A cancel request of an active Run's tenant sets the flag. -/
theorem cancelFlagged_of_request {request : Request} {row : RunRow}
    (hcall : request.call = .run (.requestCancelAtomically runId row.tenantId))
    (hfind : db.runs.find runId = some row)
    (hactive : row.status = .queued ∨ row.status = .running) :
    CancelFlagged runId (request.apply hasher db) := by
  obtain ⟨reading, call⟩ := request
  obtain rfl : call = .run (.requestCancelAtomically runId row.tenantId) := hcall
  have hstatus : row.status ≠ .completed := by
    rcases hactive with heq | heq <;> simp [heq]
  have hrow : findRunForTenant db runId row.tenantId = some row :=
    (findRunForTenant_eq_some_iff db runId row.tenantId row).mpr ⟨hfind, rfl⟩
  by_cases hflag : row.cancelRequested = true
  · have hperform : requestCancelAtomically db reading runId row.tenantId =
        .ok (rowToRun runId row, db) := by
      simp [requestCancelAtomically, hrow, hflag]
    have hkept : Request.apply hasher db
        ⟨reading, .run (.requestCancelAtomically runId row.tenantId)⟩ = db := apply_of_ok hperform
    exact ⟨row, by rw [hkept, hfind], hflag, hstatus⟩
  · let requested : RunRow := { row with cancelRequested := true, updatedAt := reading.utcNow 0 }
    have hperform : requestCancelAtomically db reading runId row.tenantId =
        .ok (rowToRun runId requested, appendRunEvent (updateRun db runId fun _ ↦ requested) runId
          "run.cancel_requested" [("status", .str row.status.text)] (reading.utcNow 1)) := by
      simp [requestCancelAtomically, hrow, hflag, hactive, requested]
    have hset : Request.apply hasher db
        ⟨reading, .run (.requestCancelAtomically runId row.tenantId)⟩ = _ := apply_of_ok hperform
    refine ⟨requested, ?_, rfl, hstatus⟩
    rw [hset]
    exact (rewritesRun_updateRun (fun _ ↦ requested) hfind runId).trans (if_pos rfl)

/-- What a flag that is set before the Run completes decides about the requests that follow. -/
structure CancellationHolds (hasher : Hasher) (runId : String) (before flagged : Database)
    (later : List Request) : Prop where
  uncompleted : ∀ row, ((storeMachine hasher).run flagged later).runs.find runId = some row →
    row.cancelRequested = true ∧ row.status ≠ .completed
  checkpoints : ∀ passed request rest, later = passed ++ request :: rest →
    ((storeMachine hasher).run flagged (passed ++ [request])).threadStates ≠
      ((storeMachine hasher).run flagged passed).threadStates →
    ∃ run token, request.call = .run (.commitCompletedRun run token) ∧ run.runId ≠ runId
  withheld : ∀ stepId, (∀ action, before.externalActions.find (runId, stepId) = some action →
      action.status = .prepared) →
    Undispatched runId stepId ((storeMachine hasher).run flagged later)

theorem cancellationHolds_of_request {request : Request} {row : RunRow}
    (hprepared : PreparedUndispatched db)
    (hcall : request.call = .run (.requestCancelAtomically runId row.tenantId))
    (hfind : db.runs.find runId = some row)
    (hactive : row.status = .queued ∨ row.status = .running) (later : List Request) :
    CancellationHolds hasher runId db (request.apply hasher db) later := by
  have hflagged : CancelFlagged runId (request.apply hasher db) :=
    cancelFlagged_of_request hcall hfind hactive
  refine ⟨fun found hfound ↦ ?_, fun passed next rest hlater hmoved ↦ ?_,
    fun stepId hopen ↦ ?_⟩
  · have hrun : CancelFlagged runId ((storeMachine hasher).run (request.apply hasher db) later) :=
      cancelFlagged_run hflagged later
    obtain ⟨twin, htwin, hkept⟩ := hrun
    exact Option.some.inj (hfound.symm.trans htwin) ▸ hkept
  · rw [Machine.run_append] at hmoved
    exact (cancelFlagged_run hflagged passed).checkpoint_moved hmoved
  · refine undispatched_run hflagged ?_ later
    have hbefore : Undispatched runId stepId db :=
      fun action haction ↦ hprepared _ action haction (hopen action haction)
    rcases ledger_of_apply hasher db request with hsame | ⟨call, hworkflow, -⟩
    · exact undispatched_of_sameLedger hsame hbefore
    · rw [hcall] at hworkflow
      cases hworkflow

/-- What was decided before a cancel request stays as it was. -/
structure KeepsDecided (db after : Database) : Prop where
  terminal : ∀ runId row, db.runs.find runId = some row → row.status.isTerminal = true →
    after.runs.find runId = some row
  checkpoints : after.threadStates = db.threadStates
  ledger : SameLedger db after

theorem keepsDecided_of_request {request : Request} {tenantId : String}
    (hcall : request.call = .run (.requestCancelAtomically runId tenantId)) :
    KeepsDecided db (request.apply hasher db) := by
  refine ⟨fun other row hfind hterminal ↦ terminal_row_run hfind hterminal [request], ?_, ?_⟩
  · by_contra hmoved
    obtain ⟨run, token, row, state, hcommit, -⟩ := completion_of_threadStates hmoved
    rw [hcall] at hcommit
    cases hcommit
  · rcases ledger_of_apply hasher db request with hsame | ⟨call, hworkflow, -⟩
    · exact hsame
    · rw [hcall] at hworkflow
      cases hworkflow

end AgentRuntime.Store
