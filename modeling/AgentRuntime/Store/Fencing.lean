import AgentRuntime.Store.EventLog

/-!
# Attempt fencing

A lease token that no longer holds its Run is dead in all three stores. `NotHeld` says that at a
clock reading no row of the Run is held by the token; `dead_call` goes through the calls that carry
a token and shows that each leaves every table as it was and reports the loss. What remains is that
a token stays dead: tokens are never drawn twice, so a token that lost its row never gets it back
(`notHeld_run`), and while the clock does not go backwards a lapsed lease cannot be renewed
(`lapsed_run`). `stale_attempts_are_fenced` puts the two together.
-/

set_option autoImplicit false
set_option relaxedAutoImplicit false

namespace AgentRuntime.Store

open Library

/-! ### Calls that carry a lease token -/

/-- The Run and the lease token a Run-store call carries. -/
def RunCall.carries : RunCall → Option (String × String)
  | renewRunLease runId token _ => some (runId, token)
  | appendAttemptEvent runId (some token) _ _ => some (runId, token)
  | commitReconciliationPending runId _ token _ _ => some (runId, token)
  | commitCompletedRun run token => some (run.runId, token)
  | commitCheckpointConflict run token _ => some (run.runId, token)
  | quarantineCheckpointConflict run token _ => some (run.runId, token)
  | commitCancelledRun run _ token => some (run.runId, token)
  | commitFailedRun run token _ _ _ _ => some (run.runId, token)
  | _ => none

/-- The Run and the lease token a workflow-store call carries. -/
def WorkflowCall.carries (call : WorkflowCall) : Option (String × String) :=
  match call.lease with
  | some (runId, some token) => some (runId, token)
  | _ => none

/-- The Run and the lease token a memory-store call carries. -/
def MemoryCall.carries : MemoryCall → Option (String × String)
  | upsertFromRun token _ _ runId _ _ => some (runId, token)
  | getOrCreateRunSnapshotForRun token runId _ _ => some (runId, token)
  | _ => none

/-- The Run and the lease token a call carries. -/
def Call.carries : Call → Option (String × String)
  | run call => call.carries
  | workflow call => call.carries
  | memory call => call.carries

/-- The arguments pass the checks that an operation makes before it looks at the lease: a positive
duration and number of attempts, an existing Run of the tenant, a complete identity, a machine error
code, a scope that matches the Run. -/
def Call.Accepted (db : Database) : Call → Prop
  | run (.renewRunLease _ token duration) => token.isEmpty = false ∧ 0 < duration
  | run (.commitReconciliationPending runId tenantId _ _ _) =>
    (findRunForTenant db runId tenantId).isSome = true
  | run (.commitCompletedRun record _) | run (.commitCheckpointConflict record _ _)
  | run (.quarantineCheckpointConflict record _ _) | run (.commitCancelledRun record _ _)
  | run (.commitFailedRun record _ _ _ _ _) =>
    (findRunForTenant db record.runId record.tenantId).isSome = true
  | workflow (.reuseCompletedStep source target _ _ _ _) => source ≠ target
  | workflow (.claimStep _ _ _ _ maxAttempts _) => 1 ≤ maxAttempts
  | workflow (.prepareExternalAction runId stepId attempt identity _) =>
    ∃ fields, identity.argumentsJson = .obj fields ∧ emptyIdentityField runId stepId attempt
      { identity with argumentsJson := identity.argumentsJson.sortKeys } = false
  | workflow call => ∀ settlement, call.settlement = some settlement →
    ∃ checked, checkedOutcome settlement.outcome = .ok checked
  | memory (.upsertFromRun token scope _ runId _ _) =>
    token.isEmpty = false ∧ scope.valid = true ∧ assertRunIdentity db runId scope = .ok ()
  | memory (.getOrCreateRunSnapshotForRun token runId scope _) =>
    token.isEmpty = false ∧ scope.valid = true ∧ assertRunIdentity db runId scope = .ok ()
  | _ => True

/-- A commit reported that its lease is gone or that the Run is terminal already. -/
def RunCommitOutcome.isLoss : RunCommitOutcome → Prop
  | leaseLost | alreadyTerminal => True
  | committed | cancelRequested | checkpointConflict | notEligible => False

/-- A fenced commit reported a loss. -/
def CommitLoss (result : Except StoreError ((RunCommitOutcome × RunRecord) × Database)) : Prop :=
  ∃ outcome record after, result = .ok ((outcome, record), after) ∧ outcome.isLoss

/-- What a call reports when its token is dead: a renewal is refused, a commit reports `LEASE_LOST`
or `ALREADY_TERMINAL`, and everything else raises `RunLeaseLostError`. -/
def Call.ReportsLoss : (call : Call) → Except StoreError (call.Reply × Database) → Prop
  | run (.renewRunLease _ _ _), result => ∃ after, result = Except.ok (false, after)
  | run (.commitReconciliationPending _ _ _ _ _), result =>
    ∃ (outcome : RunCommitOutcome) (after : Database), result = Except.ok (outcome, after) ∧
      outcome.isLoss
  | run (.commitCompletedRun _ _), result => CommitLoss result
  | run (.commitCheckpointConflict _ _ _), result => CommitLoss result
  | run (.quarantineCheckpointConflict _ _ _), result => CommitLoss result
  | run (.commitCancelledRun _ _ _), result => CommitLoss result
  | run (.commitFailedRun _ _ _ _ _ _), result => CommitLoss result
  | _, result => ∃ message, result = Except.error (StoreError.runLeaseLost message)

/-! ### A dead token -/

/-- The Run's row is not held by the token at this clock reading. -/
def NotHeld (db : Database) (runId token : String) (nowMs : Int) : Prop :=
  ∀ row, db.runs.find runId = some row → row.holdsLease token nowMs = false

theorem NotHeld.currentAttempt {db : Database} {runId token : String} {nowMs : Int}
    (hdead : NotHeld db runId token nowMs) : currentAttempt db runId token nowMs = none := by
  by_contra hne
  obtain ⟨row, hrow⟩ := Option.ne_none_iff_exists'.mp hne
  obtain ⟨hfind, -, hheld⟩ := (currentAttempt_eq_some_iff db runId token nowMs row).mp hrow
  rw [hdead row hfind] at hheld
  cases hheld

/-- The workflow fence refuses a dead token. -/
theorem NotHeld.fenced {α : Type} {db : Database} {runId token : String} {reading : Reading}
    (hdead : NotHeld db runId token reading.nowMs)
    (transaction : Except StoreError (α × Database)) :
    ∃ message, Store.fenced db reading runId (some token) transaction =
      .error (.runLeaseLost message) := by
  unfold Store.fenced
  cases hassert : assertWorkflowLease db reading.nowMs runId (some token) with
  | ok _ =>
    have hfenced : Fenced db reading runId (some token) := hassert
    obtain ⟨row, hfind, -, hheld⟩ := hfenced.exists_attempt
    rw [hdead row hfind] at hheld
    cases hheld
  | error error =>
    unfold assertWorkflowLease at hassert
    split at hassert
    · cases hassert
    · exact ⟨_, congrArg Except.error (Except.error.inj hassert).symm⟩
    · exact ⟨_, congrArg Except.error (Except.error.inj hassert).symm⟩
    · split_ifs at hassert
      exact ⟨_, congrArg Except.error (Except.error.inj hassert).symm⟩

/-- The memory fence refuses a dead token. -/
theorem NotHeld.assertMemoryLease {db : Database} {runId token : String} {nowMs : Int}
    (hdead : NotHeld db runId token nowMs) :
    assertMemoryLease db nowMs runId token =
      .error (.runLeaseLost ("Run lease is no longer current: " ++ runId)) := by
  unfold Store.assertMemoryLease
  rw [hdead.currentAttempt]

/-- A refused commit of a dead token reports the loss and changes nothing. -/
theorem NotHeld.classify {db : Database} {runId token tenantId : String} {nowMs : Int}
    (hdead : NotHeld db runId token nowMs)
    (htenant : (findRunForTenant db runId tenantId).isSome = true) :
    ∃ outcome, classifyCommitOutcome db runId tenantId token nowMs = .ok outcome ∧
      outcome.isLoss := by
  obtain ⟨row, hrow⟩ := Option.isSome_iff_exists.mp htenant
  have hfind := ((findRunForTenant_eq_some_iff db runId tenantId row).mp hrow).1
  unfold classifyCommitOutcome
  rw [hrow]
  simp only [hdead row hfind, Bool.not_false, if_true]
  split_ifs
  · exact ⟨.alreadyTerminal, rfl, trivial⟩
  · exact ⟨.leaseLost, rfl, trivial⟩

theorem NotHeld.refuse {db : Database} {run : RunRecord} {token : String} {nowMs : Int}
    (hdead : NotHeld db run.runId token nowMs)
    (htenant : (findRunForTenant db run.runId run.tenantId).isSome = true) :
    CommitLoss (refuseCommit db run token nowMs) := by
  obtain ⟨outcome, hclassify, hloss⟩ := hdead.classify htenant
  unfold refuseCommit
  rw [hclassify]
  exact ⟨outcome, run, db, rfl, hloss⟩

/-! ### Every call with a dead token -/

section DeadCommits

variable {db : Database} {run : RunRecord} {token : String} {reading : Reading}
  (hdead : NotHeld db run.runId token reading.nowMs)

include hdead

theorem NotHeld.commitCompletedRun :
    commitCompletedRun db reading run token = refuseCommit db run token reading.nowMs := by
  unfold Store.commitCompletedRun
  cases hrow : findRunForTenant db run.runId run.tenantId with
  | none => simp only [refuseCommit, classifyCommitOutcome, hrow]
  | some row =>
    have hfind := ((findRunForTenant_eq_some_iff _ _ _ _).mp hrow).1
    simp only [hdead row hfind, Bool.false_eq_true, not_false_eq_true, or_true, if_true]

theorem NotHeld.commitCheckpointConflict (phase : String) :
    commitCheckpointConflict db reading run token phase =
      refuseCommit db run token reading.nowMs := by
  unfold Store.commitCheckpointConflict
  cases hrow : findRunForTenant db run.runId run.tenantId with
  | none => simp only [refuseCommit, classifyCommitOutcome, hrow]
  | some row =>
    have hfind := ((findRunForTenant_eq_some_iff _ _ _ _).mp hrow).1
    simp only [hdead row hfind, Bool.false_eq_true, not_false_eq_true, or_true, if_true]

theorem NotHeld.quarantineCheckpointConflict (phase : String) :
    quarantineCheckpointConflict db reading run token phase =
      refuseCommit db run token reading.nowMs := by
  unfold Store.quarantineCheckpointConflict
  cases hrow : findRunForTenant db run.runId run.tenantId with
  | none => simp only [refuseCommit, classifyCommitOutcome, hrow]
  | some row =>
    have hfind := ((findRunForTenant_eq_some_iff _ _ _ _).mp hrow).1
    simp only [hdead row hfind, Bool.false_eq_true, not_false_eq_true, or_true, if_true]

theorem NotHeld.commitCancelledRun (reason : String) :
    commitCancelledRun db reading run reason token =
      refuseCommit db run token reading.nowMs := by
  have hnone : ((findRunForTenant db run.runId run.tenantId).filter fun row ↦
      (row.status == .queued || row.status == .running) && row.cancelRequested &&
        row.holdsLease token reading.nowMs) = none := by
    refine Option.filter_eq_none_iff.mpr fun row hrow ↦ ?_
    have hfind := ((findRunForTenant_eq_some_iff _ _ _ _).mp hrow).1
    simp [hdead row hfind]
  simp only [Store.commitCancelledRun, hnone]

theorem NotHeld.commitFailedRun (code error : String) (traceback : Option String) (allow : Bool) :
    commitFailedRun db reading run token code error traceback allow =
      refuseCommit db run token reading.nowMs := by
  simp only [Store.commitFailedRun, hdead.currentAttempt, Option.filter_none]

end DeadCommits

/-- What a call with a dead token does: no table changes, and a loss is reported. -/
def Refused (hasher : Hasher) (db : Database) (reading : Reading) (call : Call) : Prop :=
  (∀ reply after, call.perform hasher db reading = .ok (reply, after) → after = db) ∧
    (call.Accepted db → call.ReportsLoss (call.perform hasher db reading))

theorem refused_of_error {hasher : Hasher} {db : Database} {reading : Reading} {call : Call}
    (message : String)
    (herror : call.perform hasher db reading = .error (.runLeaseLost message))
    (hreport : call.ReportsLoss (.error (.runLeaseLost message))) :
    Refused hasher db reading call := by
  unfold Refused
  rw [herror]
  refine ⟨fun reply after hok ↦ ?_, fun _ ↦ hreport⟩
  cases hok

theorem dead_runCall {hasher : Hasher} {db : Database} {reading : Reading} {call : RunCall}
    {runId token : String} (hcarries : call.carries = some (runId, token))
    (hdead : NotHeld db runId token reading.nowMs) : Refused hasher db reading (.run call) := by
  cases call with
  | renewRunLease other held duration =>
    obtain ⟨rfl, rfl⟩ := Prod.mk.inj (Option.some.inj hcarries)
    simp only [Refused, Call.perform, RunCall.perform, renewRunLease, hdead.currentAttempt]
    refine ⟨fun reply after hok ↦ ?_, fun haccepted ↦ ?_⟩
    · split_ifs at hok
      exact (Prod.mk.inj (Except.ok.inj hok)).2.symm
    · rw [haccepted.1, if_neg Bool.false_ne_true, if_neg (not_le_of_gt haccepted.2)]
      exact ⟨db, rfl⟩
  | appendAttemptEvent other held eventType payload =>
    cases held with
    | none => cases hcarries
    | some held =>
      obtain ⟨rfl, rfl⟩ := Prod.mk.inj (Option.some.inj hcarries)
      refine refused_of_error ("Run lease is no longer current: " ++ other) ?_ ⟨_, rfl⟩
      simp only [Call.perform, RunCall.perform, appendAttemptEvent, assertCurrentRunLease,
        hdead.currentAttempt]
      rfl
  | commitReconciliationPending other tenantId held code error =>
    obtain ⟨rfl, rfl⟩ := Prod.mk.inj (Option.some.inj hcarries)
    simp only [Refused, Call.perform, RunCall.perform, commitReconciliationPending,
      hdead.currentAttempt, Option.filter_none]
    refine ⟨fun reply after hok ↦ ?_, fun haccepted ↦ ?_⟩
    · split at hok
      · cases hok
      · exact (Prod.mk.inj (Except.ok.inj hok)).2.symm
    · obtain ⟨outcome, hclassify, hloss⟩ := hdead.classify haccepted
      rw [hclassify]
      exact ⟨outcome, db, rfl, hloss⟩
  | commitCompletedRun run held | commitCheckpointConflict run held phase
  | quarantineCheckpointConflict run held phase | commitCancelledRun run reason held
  | commitFailedRun run held code error traceback allow =>
    obtain ⟨rfl, rfl⟩ := Prod.mk.inj (Option.some.inj hcarries)
    simp only [Refused, Call.perform, RunCall.perform, hdead.commitCompletedRun,
      hdead.commitCheckpointConflict, hdead.quarantineCheckpointConflict,
      hdead.commitCancelledRun, hdead.commitFailedRun]
    exact ⟨fun reply after hok ↦ (refuseCommit_eq_ok hok).1, fun haccepted ↦
      hdead.refuse haccepted⟩
  | createRun | createRunWithEvent | claimNextRun | expireRunLease | appendControlPlaneEvent
  | finalizeNextQueuedCancellation | requestCancelAtomically | applyQuarantineResolution
  | planQuarantineResolution | verifyQuarantineResolution | getRunInternal | getRunForTenant
  | getRunByClientRequestId | listEvents | listEventsForTenant | loadThreadStateSnapshot =>
    cases hcarries

/-- A workflow call that runs a fenced transaction. -/
theorem refused_of_fenced {hasher : Hasher} {db : Database} {reading : Reading}
    {call : WorkflowCall} {runId token : String} (hdead : NotHeld db runId token reading.nowMs)
    (transaction : Except StoreError (call.Reply × Database))
    (hperform : call.perform db reading = fenced db reading runId (some token) transaction)
    (hreport : ∀ message, (Call.workflow call).ReportsLoss (.error (.runLeaseLost message))) :
    Refused hasher db reading (.workflow call) := by
  obtain ⟨message, hmessage⟩ := hdead.fenced transaction
  exact refused_of_error message (hperform.trans hmessage) (hreport message)

/-- An argument check that fails keeps everything as it was and is not accepted. -/
theorem refused_of_rejected {hasher : Hasher} {db : Database} {reading : Reading} {call : Call}
    {error : StoreError} (hperform : call.perform hasher db reading = .error error)
    (hrejected : ¬ call.Accepted db) : Refused hasher db reading call := by
  refine ⟨fun reply after hok ↦ ?_, fun haccepted ↦ absurd haccepted hrejected⟩
  cases hperform.symm.trans hok

theorem prepareExternalAction_fenced {db : Database} {reading : Reading}
    {runId stepId attempt : String} {arguments : ExternalActionIdentity} {token : Option String}
    {fields : List (String × Json)} (hobject : arguments.argumentsJson = .obj fields)
    (hcomplete : emptyIdentityField runId stepId attempt
      { arguments with argumentsJson := arguments.argumentsJson.sortKeys } = false) :
    prepareExternalAction db reading runId stepId attempt arguments token =
      fenced db reading runId token (prepareFenced db reading runId stepId attempt
        { arguments with argumentsJson := arguments.argumentsJson.sortKeys }) := by
  unfold prepareExternalAction
  simp only [hobject] at hcomplete ⊢
  rw [hcomplete]
  rfl

theorem prepareExternalAction_rejected {db : Database} {reading : Reading}
    {runId stepId attempt : String} {arguments : ExternalActionIdentity} {token : Option String}
    (hrejected : ¬ ∃ fields, arguments.argumentsJson = .obj fields ∧
      emptyIdentityField runId stepId attempt
        { arguments with argumentsJson := arguments.argumentsJson.sortKeys } = false) :
    ∃ error, prepareExternalAction db reading runId stepId attempt arguments token =
      .error error := by
  unfold prepareExternalAction
  split
  · next fields hobject =>
    simp only
    split_ifs with hempty
    · exact ⟨_, rfl⟩
    · exact absurd ⟨fields, hobject, Bool.not_eq_true _ ▸ hempty⟩ hrejected
  · exact ⟨_, rfl⟩

/-- The two finalizers that the current attempt decides check their outcome before the fence. -/
theorem refused_of_finalizeAttempt {hasher : Hasher} {db : Database} {reading : Reading}
    {call : WorkflowCall} (settlement : Settlement) {token : String}
    (hdead : NotHeld db settlement.runId token reading.nowMs)
    (transaction : ExternalActionOutcome → Except StoreError (call.Reply × Database))
    (hperform : call.perform db reading =
      match checkedOutcome settlement.outcome with
      | .error error => .error error
      | .ok checked => fenced db reading settlement.runId (some token) (transaction checked))
    (haccepted : (Call.workflow call).Accepted db →
      ∃ checked, checkedOutcome settlement.outcome = .ok checked)
    (hreport : ∀ message, (Call.workflow call).ReportsLoss (.error (.runLeaseLost message))) :
    Refused hasher db reading (.workflow call) := by
  cases hchecked : checkedOutcome settlement.outcome with
  | error error =>
    rw [hchecked] at hperform haccepted
    refine refused_of_rejected hperform fun hgiven ↦ ?_
    obtain ⟨checked, hok⟩ := haccepted hgiven
    cases hok
  | ok checked =>
    rw [hchecked] at hperform
    exact refused_of_fenced hdead (transaction checked) hperform hreport

theorem dead_workflowCall {hasher : Hasher} {db : Database} {reading : Reading}
    {call : WorkflowCall} {runId token : String} (hcarries : call.carries = some (runId, token))
    (hdead : NotHeld db runId token reading.nowMs) :
    Refused hasher db reading (.workflow call) := by
  have hlease : call.lease = some (runId, some token) := by
    unfold WorkflowCall.carries at hcarries
    split at hcarries
    · next held heq =>
      obtain ⟨rfl, rfl⟩ := Prod.mk.inj (Option.some.inj hcarries)
      exact heq
    · cases hcarries
  cases call with
  | createOrGetExecution | markRunning | finalizeReady | finalizeBlocked | finalizeFailed
  | completeStep | failStep | recoverInterruptedStep | beginExternalActionDispatch
  | retryExternalActionDispatch | appendEvent =>
    obtain ⟨rfl, rfl⟩ := Prod.mk.inj (Option.some.inj hlease)
    exact refused_of_fenced hdead _ rfl fun message ↦ ⟨message, rfl⟩
  | claimStep other stepId toolName inputHash maxAttempts held =>
    obtain ⟨rfl, rfl⟩ := Prod.mk.inj (Option.some.inj hlease)
    by_cases hcount : maxAttempts < 1
    · exact refused_of_rejected (if_pos hcount) (not_le_of_gt hcount)
    · exact refused_of_fenced hdead _ (if_neg hcount) fun message ↦ ⟨message, rfl⟩
  | reuseCompletedStep source target stepId toolName inputHash held =>
    obtain ⟨rfl, rfl⟩ := Prod.mk.inj (Option.some.inj hlease)
    by_cases hself : source = target
    · exact refused_of_rejected (if_pos hself) (not_not_intro hself)
    · exact refused_of_fenced hdead _ (if_neg hself) fun message ↦ ⟨message, rfl⟩
  | prepareExternalAction other stepId attempt identity held =>
    obtain ⟨rfl, rfl⟩ := Prod.mk.inj (Option.some.inj hlease)
    by_cases haccepted : ∃ fields, identity.argumentsJson = .obj fields ∧
        emptyIdentityField other stepId attempt
          { identity with argumentsJson := identity.argumentsJson.sortKeys } = false
    · obtain ⟨fields, hobject, hcomplete⟩ := haccepted
      exact refused_of_fenced hdead _ (prepareExternalAction_fenced hobject hcomplete)
        fun message ↦ ⟨message, rfl⟩
    · obtain ⟨error, herror⟩ := prepareExternalAction_rejected haccepted
      exact refused_of_rejected herror haccepted
  | finalizeExternalActionReconciliationUnknown other stepId dispatch attempt code reference held =>
    obtain ⟨rfl, rfl⟩ := Prod.mk.inj (Option.some.inj hlease)
    exact refused_of_finalizeAttempt
      ⟨other, stepId, dispatch, attempt,
        ⟨.outcomeUnknown, .failed, none, reference, some code⟩⟩
      hdead _ rfl (fun haccepted ↦ haccepted _ rfl) fun message ↦ ⟨message, rfl⟩
  | finalizeUnsafeInterruptedAction other stepId dispatch attempt code held =>
    obtain ⟨rfl, rfl⟩ := Prod.mk.inj (Option.some.inj hlease)
    exact refused_of_finalizeAttempt
      ⟨other, stepId, dispatch, attempt,
        ⟨.outcomeUnknown, .failed, none, none, some code⟩⟩
      hdead _ rfl (fun haccepted ↦ haccepted _ rfl) fun message ↦ ⟨message, rfl⟩
  | getExecution | getStep | listSteps | finalizeExternalActionSucceeded
  | finalizeExternalActionFailed | finalizeExternalActionOutcomeUnknown | getExternalAction
  | listExternalActions | hasExternalActionRequiringReconciliation | listEvents => cases hlease

theorem dead_memoryCall {hasher : Hasher} {db : Database} {reading : Reading} {call : MemoryCall}
    {runId token : String} (hcarries : call.carries = some (runId, token))
    (hdead : NotHeld db runId token reading.nowMs) :
    Refused hasher db reading (.memory call) := by
  cases call with
  | upsertFromRun held scope write other threadId actor =>
    obtain ⟨rfl, rfl⟩ := Prod.mk.inj (Option.some.inj hcarries)
    simp only [Refused, Call.perform, MemoryCall.perform, upsertFromRun, hdead.assertMemoryLease]
    refine ⟨fun reply after hok ↦ ?_, fun haccepted ↦ ?_⟩
    · split_ifs at hok
      split at hok <;> cases hok
    · obtain ⟨hheld, hscope, hidentity⟩ := haccepted
      simp only [hheld, hscope, hidentity, Bool.not_true, Bool.false_eq_true, if_false]
      exact ⟨_, rfl⟩
  | getOrCreateRunSnapshotForRun held other scope keys =>
    obtain ⟨rfl, rfl⟩ := Prod.mk.inj (Option.some.inj hcarries)
    simp only [Refused, Call.perform, MemoryCall.perform, getOrCreateRunSnapshotForRun,
      hdead.assertMemoryLease]
    refine ⟨fun reply after hok ↦ ?_, fun haccepted ↦ ?_⟩
    · split_ifs at hok
      split at hok <;> cases hok
    · obtain ⟨hheld, hscope, hidentity⟩ := haccepted
      simp only [hheld, hscope, hidentity, Bool.not_true, Bool.false_eq_true, if_false]
      exact ⟨_, rfl⟩
  | upsert | forgetMemory | getOrCreateRunSnapshot | listEventsForRun => cases hcarries

/-- Every call that carries a dead token is refused. -/
theorem dead_call {hasher : Hasher} {db : Database} {reading : Reading} {call : Call}
    {runId token : String} (hcarries : call.carries = some (runId, token))
    (hdead : NotHeld db runId token reading.nowMs) : Refused hasher db reading call := by
  cases call with
  | run call => exact dead_runCall hcarries hdead
  | workflow call => exact dead_workflowCall hcarries hdead
  | memory call => exact dead_memoryCall hcarries hdead

theorem Refused.apply_eq {hasher : Hasher} {db : Database} {request : Request}
    (hrefused : Refused hasher db request.reading request.call) :
    request.apply hasher db = db := by
  cases hperform : request.call.perform hasher db request.reading with
  | error error => exact apply_of_error hperform
  | ok result =>
    obtain ⟨reply, after⟩ := result
    rw [apply_of_ok hperform]
    exact hrefused.1 reply after hperform

/-! ### A dead token stays dead -/

theorem NotHeld.later {db : Database} {runId token : String} {clock now : Int}
    (hdead : NotHeld db runId token clock) (hle : clock ≤ now) : NotHeld db runId token now := by
  intro row hfind
  by_contra hheld
  rw [Bool.not_eq_false, holdsLease_iff] at hheld
  obtain ⟨htoken, expiresAt, hexpires, hlt⟩ := hheld
  have hearlier : row.holdsLease token clock = true :=
    (holdsLease_iff row token clock).mpr ⟨htoken, expiresAt, hexpires, lt_of_le_of_lt hle hlt⟩
  rw [hdead row hfind] at hearlier
  cases hearlier

/-- A row that is held after a rewrite was held before it, unless a claim drew the token. -/
theorem RowChange.held_origin {db : Database} {reading : Reading} {call : RunCall}
    {runId : String} {row rewritten : RunRow} {notes : List Note}
    (hchange : RowChange db reading call runId row rewritten notes) {token : String}
    (hheld : rewritten.holdsLease token reading.nowMs = true) :
    row.holdsLease token reading.nowMs = true ∨
      (∃ ownerId duration code, call = .claimNextRun ownerId duration code) ∧
        token = "lease_" ++ reading.uuid 0 := by
  have htoken := ((holdsLease_iff _ _ _).mp hheld).1
  cases hchange with
  | claimQueued ownerId duration code hcall | takeover ownerId duration code _ hcall =>
    exact .inr ⟨⟨ownerId, duration, code, hcall⟩, (Option.some.inj htoken).symm⟩
  | renew current duration hcall hattempt =>
    have hcurrent := ((holdsLease_iff _ _ _).mp hattempt.2).1
    obtain rfl : current = token := Option.some.inj (hcurrent.symm.trans htoken)
    exact .inl hattempt.2
  | expire =>
    -- The new deadline is the clock itself, which no reading precedes strictly.
    obtain ⟨-, expiresAt, hexpires, hlt⟩ := (holdsLease_iff _ _ _).mp hheld
    obtain rfl : reading.nowMs = expiresAt := Option.some.inj hexpires
    exact absurd hlt (lt_irrefl _)
  | marker | attemptEvent | controlEvent | requestCancel => exact .inl hheld
  | cancelQueued | fail | conflict | cancel | quarantine | resolve => cases htoken

theorem notHeld_apply {hasher : Hasher} {db : Database} {request : Request} {runId token : String}
    (hdead : NotHeld db runId token request.reading.nowMs) (hdrawn : token ∉ request.drawn) :
    NotHeld (request.apply hasher db) runId token request.reading.nowMs := by
  intro row hfind
  by_contra hheld
  rw [Bool.not_eq_false] at hheld
  rcases runTables_of_apply hasher db request with hsame | ⟨call, hcall, hchange⟩
  · rw [hsame.1] at hfind
    rw [hdead row hfind] at hheld
    cases hheld
  · cases hchange with
    | same htables =>
      rw [htables.1] at hfind
      rw [hdead row hfind] at hheld
      cases hheld
    | created run notes hcreate hnew hfresh hseed hruns =>
      rw [hruns runId] at hfind
      split_ifs at hfind with heq
      · obtain rfl := Option.some.inj hfind
        have htoken := ((holdsLease_iff _ _ _).mp hheld).1
        rw [createdRow_leaseToken hnew] at htoken
        cases htoken
      · rw [hdead row hfind] at hheld
        cases hheld
    | rewritten other before rewritten notes hother hrow hruns =>
      rw [hruns runId] at hfind
      split_ifs at hfind with heq
      · obtain rfl := Option.some.inj hfind
        rcases hrow.held_origin hheld with hbefore | ⟨⟨ownerId, duration, code, rfl⟩, hnew⟩
        · rw [hdead before (heq ▸ hother)] at hbefore
          cases hbefore
        · refine hdrawn ?_
          simp only [Request.drawn, hcall]
          exact List.mem_singleton.mpr hnew
      · rw [hdead row hfind] at hheld
        cases hheld
    | completed run _ before state _ hcompletion =>
      rw [hcompletion.runs runId] at hfind
      split_ifs at hfind with heq
      · obtain rfl := Option.some.inj hfind
        cases ((holdsLease_iff _ _ _).mp hheld).1
      · rw [hdead row hfind] at hheld
        cases hheld

/-- While the clock does not go backwards, a lapsed lease stays lapsed. -/
theorem lapsed_run {hasher : Hasher} {runId token : String} (more : List Request) {db : Database}
    {clock now : Int} (hdrawn : ∀ request ∈ more, token ∉ request.drawn)
    (hclock : (clock :: (more.map fun request ↦ request.reading.nowMs) ++ [now]).Pairwise (· ≤ ·))
    (hdead : NotHeld db runId token clock) :
    NotHeld ((storeMachine hasher).run db more) runId token now := by
  induction more generalizing db clock with
  | nil =>
    refine hdead.later ?_
    simpa using hclock
  | cons request rest ih =>
    simp only [List.map_cons, List.cons_append] at hclock
    have hle : clock ≤ request.reading.nowMs :=
      (List.pairwise_cons.mp hclock).1 _ List.mem_cons_self
    refine ih (fun other hmem ↦ hdrawn other (List.mem_cons_of_mem _ hmem))
      (List.pairwise_cons.mp hclock).2 ?_
    exact notHeld_apply (hdead.later hle) (hdrawn request List.mem_cons_self)

/-- A Run whose lease is another token, or cleared. -/
def Superseded (db : Database) (runId token : String) : Prop :=
  ∀ row, db.runs.find runId = some row → row.leaseToken ≠ some token

theorem superseded_run {hasher : Hasher} {runId token : String} {more : List Request}
    {db : Database} (hdrawn : ∀ request ∈ more, token ∉ request.drawn)
    (hsuperseded : Superseded db runId token) :
    Superseded ((storeMachine hasher).run db more) runId token := by
  refine (storeMachine hasher).invariant_run (fun db ↦ Superseded db runId token) ?_ hsuperseded
    ((storeMachine hasher).admits_of_forall (fun request hmem _ ↦ hdrawn request hmem) db)
  intro db request hkept hnew row hfind htoken
  rcases lease_of_apply hfind htoken with ⟨before, hbefore, hlease, -⟩ | hdrawn
  · exact hkept before hbefore hlease
  · exact hnew hdrawn

theorem Superseded.notHeld {db : Database} {runId token : String}
    (hsuperseded : Superseded db runId token) (nowMs : Int) : NotHeld db runId token nowMs := by
  intro row hfind
  by_contra hheld
  rw [Bool.not_eq_false, holdsLease_iff] at hheld
  exact hsuperseded row hfind hheld.1

/-- Tokens drawn in the first part of a history are not drawn again. -/
theorem not_drawn_again {history more : List Request} {token : String}
    (hfresh : ((history ++ more).flatMap Request.drawn).Nodup)
    (hdrawn : token ∈ history.flatMap Request.drawn) :
    ∀ request ∈ more, token ∉ request.drawn := by
  intro request hmem hagain
  rw [List.flatMap_append] at hfresh
  exact (List.nodup_append.mp hfresh).2.2 token hdrawn token
    (List.mem_flatMap.mpr ⟨request, hmem, hagain⟩) rfl

/-- Attempt fencing. Lease tokens are drawn once. When a token drawn earlier no longer is the lease
of a Run, because another claim took the Run or a commit or a quarantine cleared its lease, then
after any further requests with any clock readings, every call that carries the token for the Run
leaves every table as it was, and reports the loss if its other arguments are acceptable. If the
clock does not go backwards from some reading on, the same holds from the first reading at which
the lease has lapsed. -/
theorem stale_attempts_are_fenced (hasher : Hasher) (history more : List Request)
    (request : Request) (runId token : String)
    (hfresh : ((history ++ more).flatMap Request.drawn).Nodup)
    (hdrawn : token ∈ history.flatMap Request.drawn)
    (hcarries : request.call.carries = some (runId, token)) :
    let db := (storeMachine hasher).run Database.empty history
    let later := (storeMachine hasher).run db more
    Superseded db runId token ∨
      (∃ clock, NotHeld db runId token clock ∧
        (clock :: (more.map fun other ↦ other.reading.nowMs) ++
          [request.reading.nowMs]).Pairwise (· ≤ ·)) →
    request.apply hasher later = later ∧
      (request.call.Accepted later →
        request.call.ReportsLoss (request.call.perform hasher later request.reading)) := by
  intro db later hlost
  have hagain := not_drawn_again hfresh hdrawn
  have hdead : NotHeld later runId token request.reading.nowMs := by
    rcases hlost with hsuperseded | ⟨clock, hlapsed, hclock⟩
    · exact (superseded_run hagain hsuperseded).notHeld _
    · exact lapsed_run more hagain hclock hlapsed
  have hrefused : Refused hasher later request.reading request.call := dead_call hcarries hdead
  exact ⟨hrefused.apply_eq, hrefused.2⟩

/-- `run_a` is claimed with `lease_1`, taken over with `lease_2` after the lease lapsed. -/
def takenOverHistory : List Request :=
  [submitRequest (sampleRun "run_a" "09:00" none),
    ⟨sampleReading 0 "1", .run (.claimNextRun "worker" 30 none)⟩,
    ⟨sampleReading 40000 "2", .run (.claimNextRun "other" 30 none)⟩]

/-- The first worker comes back with a clock that reads an earlier time. -/
def lateCompletion : Request :=
  ⟨sampleReading 10 "3", .run (.commitCompletedRun
    { claimedSampleRun with state := some sampleState } "lease_1")⟩

theorem late_completion_is_fenced :
    (takenOverHistory.flatMap Request.drawn).Nodup ∧
      let db := (storeMachine sampleHasher).run Database.empty takenOverHistory
      (db.runs.find "run_a").map (fun row ↦ row.leaseToken) = some (some "lease_2") ∧
        lateCompletion.apply sampleHasher db = db := by
  have hfresh : ((takenOverHistory ++ []).flatMap Request.drawn).Nodup := by decide +kernel
  have hleased : (((storeMachine sampleHasher).run Database.empty takenOverHistory).runs.find
      "run_a").map (fun row ↦ row.leaseToken) = some (some "lease_2") := by
    decide +kernel
  refine ⟨by simpa using hfresh, hleased, ?_⟩
  refine (stale_attempts_are_fenced sampleHasher takenOverHistory [] lateCompletion
    "run_a" "lease_1"
    hfresh (by decide +kernel) rfl (.inl fun row hfind htoken ↦ ?_)).1
  rw [hfind, Option.map_some, htoken] at hleased
  exact absurd (Option.some.inj hleased) (by decide)

end AgentRuntime.Store
