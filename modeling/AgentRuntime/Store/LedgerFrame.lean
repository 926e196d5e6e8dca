import AgentRuntime.Store.WorkflowTransitions

/-!
# What the Run store leaves alone

The three stores share one file but not their tables: every call of the Run store keeps
`OnlyRunTables`, as `sameRunTables_of_workflow` and `onlyMemory_of_memory` say of the other two.
`ledger_of_apply` and `memory_of_apply` are the conclusions for one request.
-/

set_option autoImplicit false
set_option relaxedAutoImplicit false

namespace AgentRuntime.Store

open Library

/-- The memory tables are left as they were. -/
def SameMemory (db after : Database) : Prop :=
  after.memoryRecords = db.memoryRecords ∧ after.memoryEvents = db.memoryEvents ∧
    after.memorySnapshots = db.memorySnapshots

/-- Nothing outside the tables of the Run store is written. -/
def OnlyRunTables (db after : Database) : Prop := SameLedger db after ∧ SameMemory db after

theorem OnlyRunTables.refl (db : Database) : OnlyRunTables db db := ⟨.refl db, rfl, rfl, rfl⟩

theorem OnlyRunTables.trans {db middle after : Database} (hfirst : OnlyRunTables db middle)
    (hsecond : OnlyRunTables middle after) : OnlyRunTables db after := by
  obtain ⟨hledger, hrecords, hevents, hsnapshots⟩ := hfirst
  obtain ⟨hledger', hrecords', hevents', hsnapshots'⟩ := hsecond
  exact ⟨hledger.trans hledger', hrecords'.trans hrecords, hevents'.trans hevents,
    hsnapshots'.trans hsnapshots⟩

/-- The database of a returned reply. -/
theorem eq_of_ok {α : Type} {reply other : α} {middle after : Database}
    (hok : (Except.ok (reply, middle) : Except StoreError (α × Database)) = .ok (other, after)) :
    after = middle :=
  (Prod.mk.inj (Except.ok.inj hok)).2.symm

theorem onlyRunTables_of_insertRun {db after : Database} {run : RunRecord}
    (hok : insertRun db run = .ok after) : OnlyRunTables db after := by
  unfold insertRun at hok
  split_ifs at hok
  rw [← Except.ok.inj hok]
  exact .refl db

theorem onlyRunTables_of_prepareClientStateSeed {db after : Database} {run reply : RunRecord}
    (hok : prepareClientStateSeed db run = .ok (reply, after)) : OnlyRunTables db after := by
  unfold prepareClientStateSeed at hok
  split_ifs at hok
  · rw [eq_of_ok hok]
    exact .refl db
  · rw [eq_of_ok hok]
    exact .refl db

theorem onlyRunTables_of_createRun {db after : Database} {run reply : RunRecord}
    (hok : createRun db run = .ok (reply, after)) : OnlyRunTables db after := by
  unfold createRun at hok
  split at hok
  · cases hok
  · split at hok
    · cases hok
    · next inserted hinsert =>
      have hinserted := onlyRunTables_of_insertRun hinsert
      exact hinserted.trans (onlyRunTables_of_prepareClientStateSeed hok)

theorem onlyRunTables_of_createRunWithEvent {db after : Database} {reading : Reading}
    {run reply : RunRecord} {eventType : String} {payload : Payload}
    (hok : createRunWithEvent db reading run eventType payload = .ok (reply, after)) :
    OnlyRunTables db after := by
  unfold createRunWithEvent at hok
  split at hok
  · cases hok
  · split_ifs at hok
    split at hok
    · cases hok
    · next inserted hinsert =>
      split at hok
      · cases hok
      · next seeded prepared hseed =>
        have hinserted := onlyRunTables_of_insertRun hinsert
        have hprepared := onlyRunTables_of_prepareClientStateSeed hseed
        rw [eq_of_ok hok]
        exact hinserted.trans hprepared

theorem onlyRunTables_of_claimNextRun {db after : Database} {reading : Reading} {ownerId : String}
    {duration : Int} {code : Option String} {reply : Option RunLeaseClaim}
    (hok : claimNextRun db reading ownerId duration code = .ok (reply, after)) :
    OnlyRunTables db after := by
  unfold claimNextRun at hok
  split_ifs at hok
  split at hok
  · rw [eq_of_ok hok]
    exact .refl db
  · simp only at hok
    split_ifs at hok
    · rw [eq_of_ok hok]
      simp only [appendRecoveredEvent]
      split
      · exact .refl db
      · exact .refl db
    · rw [eq_of_ok hok]
      exact .refl db

theorem onlyRunTables_of_renewRunLease {db after : Database} {reading : Reading}
    {runId token : String} {duration : Int} {reply : Bool}
    (hok : renewRunLease db reading runId token duration = .ok (reply, after)) :
    OnlyRunTables db after := by
  unfold renewRunLease at hok
  split_ifs at hok
  split at hok
  · rw [eq_of_ok hok]
    exact .refl db
  · rw [eq_of_ok hok]
    exact .refl db

theorem onlyRunTables_of_expireRunLease {db after : Database} {reading : Reading}
    {runId token : String} {reply : Bool}
    (hok : expireRunLease db reading runId token = .ok (reply, after)) :
    OnlyRunTables db after := by
  unfold expireRunLease at hok
  split_ifs at hok
  split at hok
  · rw [eq_of_ok hok]
    exact .refl db
  · rw [eq_of_ok hok]
    exact .refl db

theorem onlyRunTables_of_appendAttemptEvent {db after : Database} {reading : Reading}
    {runId eventType : String} {token : Option String} {payload : Payload} {reply : EventRow}
    (hok : appendAttemptEvent db reading runId token eventType payload = .ok (reply, after)) :
    OnlyRunTables db after := by
  unfold appendAttemptEvent at hok
  split at hok
  · cases hok
  · rw [eq_of_ok hok]
    exact .refl db

theorem onlyRunTables_of_appendControlPlaneEvent {db after : Database} {reading : Reading}
    {runId tenantId eventType : String} {payload : Payload} {reply : EventRow}
    (hok : appendControlPlaneEvent db reading runId tenantId eventType payload =
      .ok (reply, after)) : OnlyRunTables db after := by
  unfold appendControlPlaneEvent at hok
  split_ifs at hok
  split at hok
  · cases hok
  · rw [eq_of_ok hok]
    exact .refl db

theorem onlyRunTables_of_finalizeNextQueuedCancellation {db after : Database} {reading : Reading}
    {reply : Option RunRecord}
    (hok : finalizeNextQueuedCancellation db reading = .ok (reply, after)) :
    OnlyRunTables db after := by
  unfold finalizeNextQueuedCancellation at hok
  split at hok
  · rw [eq_of_ok hok]
    exact .refl db
  · rw [eq_of_ok hok]
    exact .refl db

theorem onlyRunTables_of_requestCancelAtomically {db after : Database} {reading : Reading}
    {runId tenantId : String} {reply : RunRecord}
    (hok : requestCancelAtomically db reading runId tenantId = .ok (reply, after)) :
    OnlyRunTables db after := by
  unfold requestCancelAtomically at hok
  split at hok
  · cases hok
  · simp only at hok
    split_ifs at hok
    · rw [eq_of_ok hok]
      exact .refl db
    · rw [eq_of_ok hok]
      exact .refl db

theorem onlyRunTables_of_commitReconciliationPending {db after : Database} {reading : Reading}
    {runId tenantId token code error : String} {reply : RunCommitOutcome}
    (hok : commitReconciliationPending db reading runId tenantId token code error =
      .ok (reply, after)) : OnlyRunTables db after := by
  unfold commitReconciliationPending at hok
  split at hok
  · rw [eq_of_ok hok]
    exact .refl db
  · split at hok
    · cases hok
    · rw [eq_of_ok hok]
      exact .refl db

theorem onlyRunTables_of_refuseCommit {db after : Database} {run : RunRecord} {token : String}
    {nowMs : Int} {reply : RunCommitOutcome × RunRecord}
    (hok : refuseCommit db run token nowMs = .ok (reply, after)) : OnlyRunTables db after := by
  rw [(refuseCommit_eq_ok hok).1]
  exact .refl db

theorem onlyRunTables_of_failCheckpointConflict {db after : Database} {reading : Reading}
    {runId tenantId token phase : String} {expected : Option Nat} {observed : Nat}
    (hok : failCheckpointConflict db reading runId tenantId token expected observed phase =
      .ok after) : OnlyRunTables db after := by
  unfold failCheckpointConflict at hok
  split at hok
  · cases hok
  · rw [← Except.ok.inj hok]
    exact .refl db

theorem onlyRunTables_of_saveCheckpoint {db after : Database} {tenantId threadId : String}
    {observed : Nat} {checkpoint : ThreadStateRow}
    (hok : saveCheckpoint db tenantId threadId observed checkpoint = .ok after) :
    OnlyRunTables db after := by
  unfold saveCheckpoint at hok
  split at hok
  · rw [← Except.ok.inj hok]
    exact .refl db
  · split_ifs at hok
    rw [← Except.ok.inj hok]
    exact .refl db

theorem onlyRunTables_of_commitCompletedRun {db after : Database} {reading : Reading}
    {run : RunRecord} {token : String} {reply : RunCommitOutcome × RunRecord}
    (hok : commitCompletedRun db reading run token = .ok (reply, after)) :
    OnlyRunTables db after := by
  unfold commitCompletedRun at hok
  split at hok
  · cases hok
  · split at hok
    · exact onlyRunTables_of_refuseCommit hok
    · split at hok
      · cases hok
      · simp only at hok
        split at hok
        · split at hok
          · cases hok
          · next failed hfailed =>
            rw [eq_of_ok hok]
            exact onlyRunTables_of_failCheckpointConflict hfailed
        · split at hok
          · cases hok
          · split at hok
            · cases hok
            · split at hok
              · cases hok
              · next saved hsaved =>
                have hupdated := onlyRunTables_of_saveCheckpoint hsaved
                rw [eq_of_ok hok]
                exact hupdated

theorem onlyRunTables_of_commitCheckpointConflict {db after : Database} {reading : Reading}
    {run : RunRecord} {token phase : String} {reply : RunCommitOutcome × RunRecord}
    (hok : commitCheckpointConflict db reading run token phase = .ok (reply, after)) :
    OnlyRunTables db after := by
  unfold commitCheckpointConflict at hok
  split at hok
  · cases hok
  · split at hok
    · exact onlyRunTables_of_refuseCommit hok
    · simp only at hok
      split at hok
      · cases hok
      · next failed hfailed =>
        rw [eq_of_ok hok]
        exact onlyRunTables_of_failCheckpointConflict hfailed

theorem onlyRunTables_of_quarantineCheckpointConflict {db after : Database} {reading : Reading}
    {run : RunRecord} {token phase : String} {reply : RunCommitOutcome × RunRecord}
    (hok : quarantineCheckpointConflict db reading run token phase = .ok (reply, after)) :
    OnlyRunTables db after := by
  unfold quarantineCheckpointConflict at hok
  split at hok
  · cases hok
  · split at hok
    · exact onlyRunTables_of_refuseCommit hok
    · simp only at hok
      split at hok
      · cases hok
      · rw [eq_of_ok hok]
        exact .refl db

theorem onlyRunTables_of_commitCancelledRun {db after : Database} {reading : Reading}
    {run : RunRecord} {token reason : String} {reply : RunCommitOutcome × RunRecord}
    (hok : commitCancelledRun db reading run reason token = .ok (reply, after)) :
    OnlyRunTables db after := by
  unfold commitCancelledRun at hok
  split at hok
  · exact onlyRunTables_of_refuseCommit hok
  · simp only at hok
    split at hok
    · cases hok
    · rw [eq_of_ok hok]
      exact .refl db

theorem onlyRunTables_of_commitFailedRun {db after : Database} {reading : Reading} {run : RunRecord}
    {token code error : String} {traceback : Option String} {allow : Bool}
    {reply : RunCommitOutcome × RunRecord}
    (hok : commitFailedRun db reading run token code error traceback allow = .ok (reply, after)) :
    OnlyRunTables db after := by
  unfold commitFailedRun at hok
  split at hok
  · exact onlyRunTables_of_refuseCommit hok
  · rw [eq_of_ok hok]
    exact .refl db

theorem onlyRunTables_of_applyQuarantineResolution {hasher : Hasher} {db after : Database}
    {reading : Reading} {runId tenantId : String} {target : QuarantineResolutionTarget}
    {resolution : QuarantineResolutionKind} {planId subject credential : String}
    {reply : QuarantineResolutionCommit}
    (hok : applyQuarantineResolution hasher db reading runId tenantId target resolution planId
      subject credential = .ok (reply, after)) : OnlyRunTables db after := by
  unfold applyQuarantineResolution at hok
  split at hok
  · cases hok
  · split at hok
    · cases hok
    · simp only at hok
      split at hok
      · split at hok
        · cases hok
        · rw [eq_of_ok hok]
          exact .refl db
      · split at hok
        · cases hok
        · split at hok
          · cases hok
          · rw [eq_of_ok hok]
            exact .refl db

/-- The Run store leaves the tables of the others alone. -/
theorem onlyRunTables_of_run {hasher : Hasher} {db after : Database} {reading : Reading}
    {call : RunCall} {reply : call.Reply}
    (hok : call.perform hasher db reading = .ok (reply, after)) : OnlyRunTables db after := by
  cases call with
  | createRun => exact onlyRunTables_of_createRun hok
  | createRunWithEvent => exact onlyRunTables_of_createRunWithEvent hok
  | claimNextRun => exact onlyRunTables_of_claimNextRun hok
  | renewRunLease => exact onlyRunTables_of_renewRunLease hok
  | expireRunLease => exact onlyRunTables_of_expireRunLease hok
  | appendAttemptEvent => exact onlyRunTables_of_appendAttemptEvent hok
  | appendControlPlaneEvent => exact onlyRunTables_of_appendControlPlaneEvent hok
  | finalizeNextQueuedCancellation => exact onlyRunTables_of_finalizeNextQueuedCancellation hok
  | requestCancelAtomically => exact onlyRunTables_of_requestCancelAtomically hok
  | commitReconciliationPending => exact onlyRunTables_of_commitReconciliationPending hok
  | commitCompletedRun => exact onlyRunTables_of_commitCompletedRun hok
  | commitCheckpointConflict => exact onlyRunTables_of_commitCheckpointConflict hok
  | quarantineCheckpointConflict => exact onlyRunTables_of_quarantineCheckpointConflict hok
  | commitCancelledRun => exact onlyRunTables_of_commitCancelledRun hok
  | commitFailedRun => exact onlyRunTables_of_commitFailedRun hok
  | applyQuarantineResolution => exact onlyRunTables_of_applyQuarantineResolution hok
  | planQuarantineResolution | verifyQuarantineResolution | getRunInternal | getRunForTenant
  | getRunByClientRequestId | listEvents | listEventsForTenant | loadThreadStateSnapshot =>
    simp only [RunCall.perform] at hok
    rw [(reads_eq_ok hok).2]
    exact .refl db

/-- The workflow store leaves the memory tables alone. -/
theorem sameMemory_of_workflow {db after : Database} {reading : Reading} {call : WorkflowCall}
    (hchange : WorkflowChange db reading call after) : SameMemory db after := by
  cases hchange with
  | same hafter => exact hafter ▸ ⟨rfl, rfl, rfl⟩
  | createExecution _ _ _ _ _ _ hafter | startExecution _ _ _ _ _ _ hafter
  | finalizeExecution _ _ _ _ _ _ _ _ _ hafter | reuseStep _ _ _ _ _ _ _ _ _ _ _ _ _ hafter
  | claimFresh _ _ _ _ _ _ _ _ _ _ hafter | claimRetry _ _ _ _ _ _ _ _ _ _ _ hafter
  | finishStep _ _ _ _ _ _ _ _ _ _ _ _ _ hafter | recoverStep _ _ _ _ _ _ _ hafter
  | prepareAction _ _ _ _ _ _ _ _ _ _ _ _ _ _ _ _ hafter
  | beginDispatch _ _ _ _ _ _ _ _ _ _ _ _ _ _ _ hafter
  | retryDispatch _ _ _ _ _ _ _ _ _ _ _ _ _ _ hafter
  | settle _ _ _ _ _ _ _ _ _ _ _ hafter
  | appendEvent _ _ _ _ _ _ _ hafter => exact hafter ▸ ⟨rfl, rfl, rfl⟩

/-- A request changes the workflow tables only through a call of the workflow store. -/
theorem ledger_of_apply (hasher : Hasher) (db : Database) (request : Request) :
    SameLedger db (request.apply hasher db) ∨
      ∃ call, request.call = .workflow call ∧
        WorkflowChange db request.reading call (request.apply hasher db) := by
  obtain ⟨reading, call⟩ := request
  cases hperform : call.perform hasher db reading with
  | error error =>
    left
    rw [apply_of_error hperform]
    exact .refl db
  | ok result =>
    obtain ⟨reply, after⟩ := result
    rw [apply_of_ok hperform]
    cases call with
    | run call => exact .inl ((onlyRunTables_of_run hperform).1)
    | workflow call => exact .inr ⟨call, rfl, workflowChange_of_perform hperform⟩
    | memory call => exact .inl (onlyMemory_of_memory hperform).2

/-- A request changes the memory tables only through a call of the memory store. -/
theorem memory_of_apply (hasher : Hasher) (db : Database) (request : Request) :
    SameMemory db (request.apply hasher db) ∨
      ∃ call reply, request.call = .memory call ∧
        call.perform db request.reading = .ok (reply, request.apply hasher db) := by
  obtain ⟨reading, call⟩ := request
  cases hperform : call.perform hasher db reading with
  | error error =>
    left
    rw [apply_of_error hperform]
    exact ⟨rfl, rfl, rfl⟩
  | ok result =>
    obtain ⟨reply, after⟩ := result
    rw [apply_of_ok hperform]
    cases call with
    | run call => exact .inl (onlyRunTables_of_run hperform).2
    | workflow call => exact .inl (sameMemory_of_workflow (workflowChange_of_perform hperform))
    | memory call => exact .inr ⟨call, reply, rfl, hperform⟩

end AgentRuntime.Store
