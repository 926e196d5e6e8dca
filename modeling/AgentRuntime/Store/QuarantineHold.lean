import AgentRuntime.Store.Fencing
import AgentRuntime.Store.ActionTransitions

/-!
# A quarantined Run stays quarantined

A quarantined Run is RUNNING without a lease, which is also what an abandoned Run looks like. What
keeps it apart is its error code: `claim_next_run` passes it over, and every other write asks for a
lease token that its row does not have (`RowChange.quarantined_cases`). While it is held, its thread
has no other RUNNING Run, so nobody completes one there and the checkpoint moves only by a foreign
writer's hand.

The foreign writer is part of the machine here: `fileMachine` interleaves the requests of the stores
with writes that advance a row of `thread_states` from outside.
-/

set_option autoImplicit false
set_option relaxedAutoImplicit false

namespace AgentRuntime.Store

open Library

/-! ### The file with a foreign writer -/

/-- One step on the shared file: a request of the stores, or a checkpoint from outside. -/
inductive FileStep where
  | request (request : Request)
  | advance (tenantId threadId : String) (checkpoint : ThreadStateRow)

/-- A foreign writer advances the checkpoint of a thread; a checkpoint that is no advance is not
written. -/
def advanceCheckpoint (db : Database) (tenantId threadId : String) (checkpoint : ThreadStateRow) :
    Database :=
  if threadRevision db tenantId threadId < checkpoint.revision then
    { db with
      threadStates := (db.threadStates.insert (tenantId, threadId) checkpoint).modify
        (tenantId, threadId) fun _ ↦ checkpoint }
  else db

/-- The file after one step. -/
def FileStep.apply (hasher : Hasher) (db : Database) : FileStep → Database
  | .request call => call.apply hasher db
  | .advance tenantId threadId checkpoint => advanceCheckpoint db tenantId threadId checkpoint

/-- The stores over one initially empty file that a foreign writer also writes. -/
def fileMachine (hasher : Hasher) : Machine Database FileStep where
  init := Database.empty
  next := FileStep.apply hasher

/-- The foreign writer touches nothing but the checkpoints. -/
theorem advanceCheckpoint_frame (db : Database) (tenantId threadId : String)
    (checkpoint : ThreadStateRow) :
    ∃ states, advanceCheckpoint db tenantId threadId checkpoint =
      { db with threadStates := states } := by
  unfold advanceCheckpoint
  split_ifs
  · exact ⟨_, rfl⟩
  · exact ⟨db.threadStates, rfl⟩

theorem oneRunningPerThread_file (hasher : Hasher) (steps : List FileStep) :
    OneRunningPerThread ((fileMachine hasher).run Database.empty steps) := by
  refine (fileMachine hasher).invariant_run OneRunningPerThread (fun db step hone _ ↦ ?_)
    oneRunningPerThread_empty ((fileMachine hasher).admits_true _ _)
  cases step with
  | request request => exact oneRunningPerThread_apply hone
  | advance tenantId threadId checkpoint =>
    obtain ⟨states, hstates⟩ := advanceCheckpoint_frame db tenantId threadId checkpoint
    change OneRunningPerThread (advanceCheckpoint db tenantId threadId checkpoint)
    rw [hstates]
    exact hone

/-! ### The ledger of one Run -/

/-- The workflow rows of one Run are left as they were. -/
structure SameLedgerOf (runId : String) (db after : Database) : Prop where
  execution : after.executions.find runId = db.executions.find runId
  steps : (after.toolCalls.rows.filter fun entry ↦ entry.1.1 == runId) =
    db.toolCalls.rows.filter fun entry ↦ entry.1.1 == runId
  actions : (after.externalActions.rows.filter fun entry ↦ entry.1.1 == runId) =
    db.externalActions.rows.filter fun entry ↦ entry.1.1 == runId
  events : eventRows after.workflowEvents runId = eventRows db.workflowEvents runId

theorem SameLedgerOf.of_sameLedger {runId : String} {db after : Database}
    (hsame : SameLedger db after) : SameLedgerOf runId db after := by
  obtain ⟨hexecutions, hsteps, hactions, hevents⟩ := hsame
  exact ⟨by rw [hexecutions], by rw [hsteps], by rw [hactions], by rw [hevents]⟩

theorem SameLedgerOf.refl (runId : String) (db : Database) : SameLedgerOf runId db db :=
  .of_sameLedger (.refl db)

theorem SameLedgerOf.trans {runId : String} {db middle after : Database}
    (hfirst : SameLedgerOf runId db middle) (hsecond : SameLedgerOf runId middle after) :
    SameLedgerOf runId db after :=
  ⟨hsecond.execution.trans hfirst.execution, hsecond.steps.trans hfirst.steps,
    hsecond.actions.trans hfirst.actions, hsecond.events.trans hfirst.events⟩

/-- The Run whose rows a call of the workflow store may write. -/
def WorkflowCall.subject (call : WorkflowCall) : Option String :=
  match call.lease, call.settlement with
  | some (runId, _), _ => some runId
  | none, some settlement => some settlement.runId
  | none, none => none

theorem eventRows_append {events more : List EventRow} {runId : String}
    (hother : ∀ event ∈ more, event.runId ≠ runId) :
    eventRows (events ++ more) runId = eventRows events runId := by
  unfold eventRows
  rw [List.zipIdx_append, List.filter_append]
  have hnone : (more.zipIdx (0 + events.length)).filter
      (fun entry ↦ entry.1.runId == runId) = [] := by
    rw [List.filter_eq_nil_iff]
    intro entry hmem hrun
    have hevent : entry.1 ∈ more := by
      rw [← List.zipIdx_map_fst (0 + events.length) more]
      exact List.mem_map_of_mem hmem
    exact hother entry.1 hevent (beq_iff_eq.mp hrun)
  rw [hnone, List.append_nil]

theorem eventRows_newEvent {events log : List EventRow} {runId other eventType createdAt : String}
    {payload : Payload} (hother : other ≠ runId) :
    eventRows (events ++ [newEvent log other eventType payload createdAt]) runId =
      eventRows events runId := by
  refine eventRows_append fun event hmem ↦ ?_
  rw [List.mem_singleton.mp hmem]
  exact hother

/-- The Run of a settlement is the subject of its call. -/
theorem subject_of_settlement {call : WorkflowCall} {settlement : Settlement}
    (hcall : call.settlement = some settlement) : call.subject = some settlement.runId := by
  cases call with
  | finalizeExternalActionSucceeded | finalizeExternalActionFailed
  | finalizeExternalActionOutcomeUnknown | finalizeExternalActionReconciliationUnknown
  | finalizeUnsafeInterruptedAction =>
    rw [← Option.some.inj hcall]
    rfl
  | _ => cases hcall

theorem subject_of_verdict {call : WorkflowCall} {runId eventType : String}
    {status : WorkflowStatus} {result : Option Json} {code : Option String}
    (hcall : call.verdict = some (runId, status, eventType, result, code)) :
    call.subject = some runId := by
  cases call with
  | finalizeReady | finalizeBlocked | finalizeFailed =>
    rw [← (Prod.mk.inj (Option.some.inj hcall)).1]
    rfl
  | _ => cases hcall

section Other

variable {db : Database} {runId other stepId eventType createdAt : String} {payload : Payload}
  (hother : other ≠ runId)

include hother

theorem sameLedgerOf_appendWorkflowEvent :
    SameLedgerOf runId db (appendWorkflowEvent db other eventType payload createdAt) where
  execution := rfl
  steps := rfl
  actions := rfl
  events := eventRows_newEvent hother

theorem sameLedgerOf_updateExecution (change : ExecutionRow → ExecutionRow) :
    SameLedgerOf runId db (updateExecution db other change) where
  execution := by
    change (db.executions.modify other change).find runId = _
    rw [Table.find_modify, if_neg hother.symm]
  steps := rfl
  actions := rfl
  events := rfl

theorem sameLedgerOf_updateStep (change : ToolCallRow → ToolCallRow) :
    SameLedgerOf runId db (updateStep db other stepId change) where
  execution := rfl
  steps := Table.filter_rows_modify _ _ _ (fun key : String × String ↦ key.1 == runId)
    (beq_false_of_ne hother)
  actions := rfl
  events := rfl

theorem sameLedgerOf_updateAction (change : ExternalActionRow → ExternalActionRow) :
    SameLedgerOf runId db (updateAction db other stepId change) where
  execution := rfl
  steps := rfl
  actions := Table.filter_rows_modify _ _ _ (fun key : String × String ↦ key.1 == runId)
    (beq_false_of_ne hother)
  events := rfl

theorem sameLedgerOf_insertStep (step : ToolCallRow) :
    SameLedgerOf runId db
      { db with toolCalls := db.toolCalls.insert (other, stepId) step } where
  execution := rfl
  steps := Table.filter_rows_insert _ _ _
    (fun entry : (String × String) × ToolCallRow ↦ entry.1.1 == runId) (beq_false_of_ne hother)
  actions := rfl
  events := rfl

theorem sameLedgerOf_insertAction (action : ExternalActionRow) :
    SameLedgerOf runId db
      { db with externalActions := db.externalActions.insert (other, stepId) action } where
  execution := rfl
  steps := rfl
  actions := Table.filter_rows_insert _ _ _
    (fun entry : (String × String) × ExternalActionRow ↦ entry.1.1 == runId)
    (beq_false_of_ne hother)
  events := rfl

theorem sameLedgerOf_recordOutcome (reading : Reading) (action : ExternalActionRow)
    (step : ToolCallRow) (outcome : ExternalActionOutcome) :
    SameLedgerOf runId db (recordOutcome db reading other stepId action step outcome) := by
  let settled := updateAction db other stepId
    fun _ ↦ finalizedAction action outcome (reading.utcNow 0)
  have haction : SameLedgerOf runId db settled := sameLedgerOf_updateAction hother _
  have hstep : SameLedgerOf runId settled (updateStep settled other stepId fun _ ↦ finishedStep step
      outcome.toolStatus outcome.resultJson outcome.errorCode (reading.utcNow 0)) :=
    sameLedgerOf_updateStep hother _
  exact ((haction.trans hstep).trans (sameLedgerOf_appendWorkflowEvent hother)).trans
    (sameLedgerOf_appendWorkflowEvent hother)

end Other

/-- A call leaves the rows of every Run but its subject alone. -/
theorem sameLedgerOf_of_workflow {db after : Database} {reading : Reading} {call : WorkflowCall}
    {runId : String} (hchange : WorkflowChange db reading call after)
    (hsubject : call.subject ≠ some runId) : SameLedgerOf runId db after := by
  have hne {other : String} (hcall : call.subject = some other) : other ≠ runId := by
    rintro rfl
    exact hsubject hcall
  cases hchange with
  | same hafter =>
    subst hafter
    exact .refl runId _
  | createExecution other _ _ _ hcall hnone hafter =>
    subst hafter hcall
    refine ⟨?_, rfl, rfl, rfl⟩
    have hother : runId ≠ other := (hne rfl).symm
    exact (Table.find_insert_of_fresh _ _ _ _ hnone).trans (if_neg hother)
  | startExecution other _ _ hcall _ _ hafter =>
    subst hafter hcall
    exact (sameLedgerOf_updateExecution (hne rfl) _).trans
      (sameLedgerOf_appendWorkflowEvent (hne rfl))
  | finalizeExecution other _ _ _ _ _ hcall _ _ hafter =>
    subst hafter
    have hother := hne (subject_of_verdict hcall)
    exact (sameLedgerOf_updateExecution hother _).trans (sameLedgerOf_appendWorkflowEvent hother)
  | reuseStep _ other _ _ _ _ _ _ hcall _ _ _ _ hafter =>
    subst hafter hcall
    exact (sameLedgerOf_insertStep (hne rfl) _).trans (sameLedgerOf_appendWorkflowEvent (hne rfl))
  | claimFresh other _ _ _ _ _ _ hcall _ _ hafter =>
    subst hafter hcall
    exact (sameLedgerOf_insertStep (hne rfl) _).trans (sameLedgerOf_appendWorkflowEvent (hne rfl))
  | claimRetry other _ _ _ _ _ _ hcall _ _ _ hafter =>
    subst hafter hcall
    exact (sameLedgerOf_updateStep (hne rfl) _).trans (sameLedgerOf_appendWorkflowEvent (hne rfl))
  | finishStep other _ _ _ _ _ _ _ _ _ hcall _ _ hafter =>
    subst hafter
    have hother : other ≠ runId := by
      rcases hcall with ⟨_, rfl, -⟩ | ⟨_, rfl, -⟩
      · exact hne rfl
      · exact hne rfl
    exact (sameLedgerOf_updateStep hother _).trans (sameLedgerOf_appendWorkflowEvent hother)
  | recoverStep other _ _ _ hcall _ _ hafter =>
    subst hafter hcall
    exact (sameLedgerOf_updateStep (hne rfl) _).trans (sameLedgerOf_appendWorkflowEvent (hne rfl))
  | prepareAction other _ _ _ _ _ _ _ hcall _ _ _ _ _ _ _ hafter =>
    subst hafter hcall
    exact (sameLedgerOf_insertAction (hne rfl) _).trans
      (sameLedgerOf_appendWorkflowEvent (hne rfl))
  | beginDispatch other _ _ _ _ _ _ hcall _ _ _ _ _ _ _ hafter
  | retryDispatch other _ _ _ _ _ _ hcall _ _ _ _ _ _ hafter =>
    subst hafter hcall
    exact (sameLedgerOf_updateAction (hne rfl) _).trans
      (sameLedgerOf_appendWorkflowEvent (hne rfl))
  | settle settlement _ _ _ hcall _ _ _ _ _ _ hafter =>
    subst hafter
    have hother := hne (subject_of_settlement hcall)
    exact sameLedgerOf_recordOutcome hother _ _ _ _
  | appendEvent other _ _ _ _ hcall _ hafter =>
    subst hafter hcall
    exact sameLedgerOf_appendWorkflowEvent (hne rfl)

/-! ### The row of a quarantined Run -/

theorem quarantined_iff (row : RunRow) :
    row.quarantined = true ↔ row.status = .running ∧
      row.errorCode = some threadCheckpointReconciliationBlockedCode ∧
      row.leaseOwnerId = none ∧ row.leaseToken = none ∧ row.leaseHeartbeatAt = none ∧
      row.leaseExpiresAt = none := by
  simp [RunRow.quarantined, RunRow.leaseCleared, and_assoc]

theorem holdsLease_of_quarantined {row : RunRow} (hheld : row.quarantined = true) (token : String)
    (nowMs : Int) : row.holdsLease token nowMs = false := by
  obtain ⟨-, -, -, htoken, -⟩ := (quarantined_iff row).mp hheld
  simp [RunRow.holdsLease, htoken]

theorem holdsAttempt_of_quarantined {row : RunRow} (hheld : row.quarantined = true)
    (token : String) (reading : Reading) : ¬ HoldsAttempt row token reading := by
  rintro ⟨-, hholds⟩
  rw [holdsLease_of_quarantined hheld] at hholds
  cases hholds

/-- What a rewrite does to a quarantined row: nothing, a cancel request, or the resolution. -/
theorem RowChange.quarantined_cases {db : Database} {reading : Reading} {call : RunCall}
    {runId : String} {row rewritten : RunRow} {notes : List Note}
    (hchange : RowChange db reading call runId row rewritten notes)
    (hheld : row.quarantined = true) :
    rewritten = row ∨
      (call = .requestCancelAtomically runId row.tenantId ∧ row.cancelRequested = false ∧
        rewritten = { row with cancelRequested := true, updatedAt := reading.utcNow 0 }) ∨
      (∃ target resolution planId subject credential, call = .applyQuarantineResolution runId
          row.tenantId target resolution planId subject credential) ∧
        rewritten = failedRow row threadCheckpointConflictCode resolutionError
          (reading.utcNow 0) := by
  have hlease := holdsLease_of_quarantined hheld
  obtain ⟨hrunning, hcode, -, htoken, -⟩ := (quarantined_iff row).mp hheld
  cases hchange with
  | controlEvent => exact .inl rfl
  | attemptEvent => exact .inl rfl
  | requestCancel hcall _ hflag => exact .inr (.inl ⟨hcall, hflag, rfl⟩)
  | resolve target resolution planId subject credential _ _ hcall =>
    exact .inr (.inr ⟨⟨target, resolution, planId, subject, credential, hcall⟩, rfl⟩)
  | claimQueued _ _ _ _ hcandidate =>
    rw [((queuedCandidate_iff db row).mp hcandidate).1] at hrunning
    cases hrunning
  | takeover _ _ _ _ _ hcandidate => simp [expiredCandidate, hcode] at hcandidate
  | renew _ _ _ hattempt | marker _ _ _ _ hattempt | fail _ _ _ _ _ _ _ _ hattempt
  | conflict _ _ _ _ _ hattempt | quarantine _ _ _ _ _ hattempt =>
    have hholds := hattempt.2
    rw [hlease] at hholds
    cases hholds
  | cancel _ _ _ _ _ _ _ hholds =>
    rw [hlease] at hholds
    cases hholds
  | expire _ _ _ htoken' =>
    rw [htoken] at htoken'
    cases htoken'
  | cancelQueued _ hqueued =>
    rw [hrunning] at hqueued
    cases hqueued

/-- The row as it is held, whatever was asked of it since. -/
def RunRow.HeldAs (row later : RunRow) : Prop :=
  ∃ flag time, later = { row with cancelRequested := flag, updatedAt := time }

theorem RunRow.HeldAs.refl (row : RunRow) : row.HeldAs row :=
  ⟨row.cancelRequested, row.updatedAt, rfl⟩

theorem RunRow.HeldAs.quarantined {row later : RunRow} (hheld : row.HeldAs later)
    (hrow : row.quarantined = true) : later.quarantined = true := by
  obtain ⟨flag, time, rfl⟩ := hheld
  exact hrow

/-- The step resolves the quarantine of the Run. -/
def FileStep.resolves (hasher : Hasher) (db : Database) (runId : String) : FileStep → Bool
  | .request ⟨reading, .run (.applyQuarantineResolution other tenantId target resolution planId
      subject credential)⟩ =>
    other == runId &&
      match applyQuarantineResolution hasher db reading other tenantId target resolution planId
          subject credential with
      | .ok (commit, _) => !commit.reused
      | .error _ => false
  | _ => false

/-- A resolution that leaves the database another one is a commit of its own. -/
theorem reused_of_applyQuarantineResolution {hasher : Hasher} {db after : Database}
    {reading : Reading} {runId tenantId : String} {target : QuarantineResolutionTarget}
    {resolution : QuarantineResolutionKind} {planId subject credential : String}
    {reply : QuarantineResolutionCommit}
    (hok : applyQuarantineResolution hasher db reading runId tenantId target resolution planId
      subject credential = .ok (reply, after)) (hreused : reply.reused = true) : after = db := by
  unfold applyQuarantineResolution at hok
  split at hok
  · cases hok
  · split at hok
    · cases hok
    · simp only at hok
      split at hok
      · split_ifs at hok
        exact (Prod.mk.inj (Except.ok.inj hok)).2.symm
      · split_ifs at hok
        split at hok
        · cases hok
        · obtain ⟨rfl, -⟩ := Prod.mk.inj (Except.ok.inj hok)
          cases hreused

/-- What one step does to the row of a quarantined Run. -/
inductive HeldStep (hasher : Hasher) (db : Database) (runId : String) (row : RunRow)
    (step : FileStep) : Prop
  | kept (hrow : (step.apply hasher db).runs.find runId = some row)
  | cancelRequested (reading : Reading)
    (hstep : step = .request ⟨reading, .run (.requestCancelAtomically runId row.tenantId)⟩)
    (hrow : (step.apply hasher db).runs.find runId =
      some { row with cancelRequested := true, updatedAt := reading.utcNow 0 })
  | resolved (completedAt : String) (hresolves : step.resolves hasher db runId = true)
    (hrow : (step.apply hasher db).runs.find runId =
      some (failedRow row threadCheckpointConflictCode resolutionError completedAt))

theorem heldStep_of_runChange {hasher : Hasher} {db after : Database} {reading : Reading}
    {call : RunCall} {reply : call.Reply} {runId : String} {row : RunRow}
    (hfind : db.runs.find runId = some row) (hheld : row.quarantined = true)
    (hperform : call.perform hasher db reading = .ok (reply, after)) :
    HeldStep hasher db runId row (.request ⟨reading, .run call⟩) := by
  have hafter : FileStep.apply hasher db (.request ⟨reading, .run call⟩) = after :=
    by
    change Request.apply hasher db ⟨reading, .run call⟩ = after
    exact apply_of_ok hperform
  cases change_of_perform hperform with
  | same htables => exact .kept (by rw [hafter, htables.1, hfind])
  | created run notes hcall hnew hfresh hseed hruns =>
    have hne : runId ≠ run.runId := fun heq ↦ by simp [heq, hfresh] at hfind
    exact .kept (by rw [hafter, hruns runId, if_neg hne, hfind])
  | completed run token other state hcall hcompletion =>
    have hne : runId ≠ run.runId := by
      rintro rfl
      obtain rfl := Option.some.inj (hfind.symm.trans hcompletion.find)
      have hholds := hcompletion.attempt.2
      rw [holdsLease_of_quarantined hheld] at hholds
      cases hholds
    exact .kept (by rw [hafter, hcompletion.runs runId, if_neg hne, hfind])
  | rewritten other otherRow rewritten notes hother hrow hruns =>
    by_cases heq : runId = other
    · subst heq
      obtain rfl := Option.some.inj (hfind.symm.trans hother)
      have hnow : (FileStep.apply hasher db (.request ⟨reading, .run call⟩)).runs.find runId =
          some rewritten := by rw [hafter, hruns runId, if_pos rfl]
      rcases hrow.quarantined_cases hheld with rfl | ⟨rfl, -, rfl⟩ | ⟨⟨_, _, _, _, _, rfl⟩, rfl⟩
      · exact .kept hnow
      · exact .cancelRequested reading rfl hnow
      · refine .resolved _ ?_ hnow
        -- a replayed resolution would have left the row RUNNING
        have hfirst : QuarantineResolutionCommit.reused reply = false := by
          by_contra hreused
          have hsame := reused_of_applyQuarantineResolution hperform
            (Bool.not_eq_false _ ▸ hreused)
          rw [hafter, hsame, hfind] at hnow
          have hstatus := congrArg RunRow.status (Option.some.inj hnow)
          rw [((quarantined_iff row).mp hheld).1] at hstatus
          cases hstatus
        have hcall : applyQuarantineResolution hasher db reading runId row.tenantId _ _ _ _ _ =
          .ok (reply, after) := hperform
        simp only [FileStep.resolves, hcall, hfirst, BEq.rfl, Bool.not_false, Bool.and_self]
    · exact .kept (by rw [hafter, hruns runId, if_neg heq, hfind])

theorem heldStep_apply {hasher : Hasher} {db : Database} {runId : String} {row : RunRow}
    (hfind : db.runs.find runId = some row) (hheld : row.quarantined = true) (step : FileStep) :
    HeldStep hasher db runId row step := by
  cases step with
  | advance tenantId threadId checkpoint =>
    obtain ⟨states, hstates⟩ := advanceCheckpoint_frame db tenantId threadId checkpoint
    refine .kept ?_
    change (advanceCheckpoint db tenantId threadId checkpoint).runs.find runId = some row
    rw [hstates]
    exact hfind
  | request request =>
    obtain ⟨reading, call⟩ := request
    cases hperform : call.perform hasher db reading with
    | error error =>
      refine .kept ?_
      change (Request.apply hasher db ⟨reading, call⟩).runs.find runId = some row
      rw [apply_of_error hperform, hfind]
    | ok result =>
      obtain ⟨reply, after⟩ := result
      cases call with
      | run call => exact heldStep_of_runChange hfind hheld hperform
      | workflow call =>
        have htables := sameRunTables_of_workflow (workflowChange_of_perform hperform)
        refine .kept ?_
        change (Request.apply hasher db ⟨reading, .workflow call⟩).runs.find runId = some row
        rw [apply_of_ok hperform, htables.1, hfind]
      | memory call =>
        have htables := (onlyMemory_of_memory hperform).1
        refine .kept ?_
        change (Request.apply hasher db ⟨reading, .memory call⟩).runs.find runId = some row
        rw [apply_of_ok hperform, htables.1, hfind]

/-! ### Its thread and its ledger -/

section Held

variable {hasher : Hasher} {db : Database} {runId : String} {row : RunRow}
  (hone : OneRunningPerThread db) (hfind : db.runs.find runId = some row)
  (hheld : row.quarantined = true)

include hone hfind hheld

/-- No claim takes a Run of the thread. -/
theorem claim_of_held {reading : Reading} {ownerId : String} {duration : Int}
    {code : Option String} {claim : RunLeaseClaim} {after : Database}
    (hok : claimNextRun db reading ownerId duration code = .ok (some claim, after)) :
    ¬ (claim.run.tenantId = row.tenantId ∧ claim.run.threadId = row.threadId) := by
  rintro ⟨htenant, hthread⟩
  obtain ⟨hrunning, hcode, -⟩ := (quarantined_iff row).mp hheld
  obtain ⟨claimed, hclaimed, hclaimable, -, hrecord, -⟩ := claimNextRun_eq_some hok
  rw [hrecord] at htenant hthread
  have hsame : row.sameThread claimed = true :=
    (sameThread_iff row claimed).mpr ⟨htenant.symm, hthread.symm⟩
  rcases Bool.or_eq_true_iff.mp hclaimable with hqueued | hexpired
  · exact ((queuedCandidate_iff db claimed).mp hqueued).2.2 runId row hfind hsame hrunning
  · simp only [expiredCandidate, Bool.and_eq_true, beq_iff_eq, bne_iff_ne] at hexpired
    have heq := hone runId row claim.run.runId claimed hfind hclaimed hrunning
      hexpired.1.1.1.1 hsame
    rw [← heq, hfind] at hclaimed
    exact hexpired.1.1.2 (Option.some.inj hclaimed ▸ hcode)

/-- No request advances the checkpoint of the thread. -/
theorem checkpoint_of_held (request : Request) :
    (request.apply hasher db).threadStates.find (row.tenantId, row.threadId) =
      db.threadStates.find (row.tenantId, row.threadId) := by
  obtain ⟨hrunning, -⟩ := (quarantined_iff row).mp hheld
  rcases runTables_of_apply hasher db request with hsame | ⟨call, -, hchange⟩
  · rw [hsame.2.2]
  · cases hchange with
    | same htables => rw [htables.2.2]
    | created _ _ _ _ _ _ _ _ hthreads | rewritten _ _ _ _ _ _ _ _ hthreads => rw [hthreads]
    | completed run token other state hcall hcompletion =>
      rw [hcompletion.threads, if_neg]
      intro hkey
      obtain ⟨htenant, hthread⟩ := Prod.mk.inj hkey
      have heq := hone runId row run.runId other hfind hcompletion.find hrunning
        hcompletion.attempt.1 ((sameThread_iff row other).mpr ⟨htenant, hthread⟩)
      have hsame := hcompletion.find
      rw [← heq, hfind] at hsame
      have hholds := hcompletion.attempt.2
      rw [← Option.some.inj hsame, holdsLease_of_quarantined hheld] at hholds
      cases hholds

end Held

section Unheld

variable {hasher : Hasher} {db : Database} {runId : String} {row : RunRow}
  (hfind : db.runs.find runId = some row)
  (hunheld : ∀ token reading, ¬ HoldsAttempt row token reading)

include hfind hunheld

/-- No lease-fenced call of the workflow store returns. -/
theorem workflow_of_unheld {reading : Reading} {call : WorkflowCall} {token : Option String}
    (hlease : call.lease = some (runId, token)) (result : call.Reply × Database) :
    call.perform db reading ≠ .ok result := by
  obtain ⟨reply, after⟩ := result
  intro hok
  have hfenced := passedFence_of_perform hok runId token hlease
  obtain ⟨current, -, hattempt⟩ := hfenced.holdsAttempt hfind
  exact hunheld current reading hattempt

/-- No lease-fenced call of the memory store returns. -/
theorem memory_of_unheld {reading : Reading} {call : MemoryCall} {token : String}
    (hcarries : call.carries = some (runId, token)) (result : call.Reply × Database) :
    call.perform db reading ≠ .ok result := by
  intro hok
  have hnone : currentAttempt db runId token reading.nowMs = none := by
    by_contra hne
    obtain ⟨other, hother⟩ := Option.ne_none_iff_exists'.mp hne
    obtain ⟨hfound, hattempt⟩ := (currentAttempt_eq_some_iff _ _ _ _ _).mp hother
    obtain rfl := Option.some.inj (hfind.symm.trans hfound)
    exact hunheld token reading hattempt
  have hlost : assertMemoryLease db reading.nowMs runId token =
      .error (.runLeaseLost ("Run lease is no longer current: " ++ runId)) := by
    unfold assertMemoryLease
    rw [hnone]
  cases call with
  | upsertFromRun | getOrCreateRunSnapshotForRun =>
    obtain ⟨rfl, rfl⟩ := Prod.mk.inj (Option.some.inj hcarries)
    simp only [MemoryCall.perform, upsertFromRun, getOrCreateRunSnapshotForRun, hlost] at hok
    split_ifs at hok
    split at hok
    · cases hok
    · cases hok
  | upsert | forgetMemory | getOrCreateRunSnapshot | listEventsForRun => cases hcarries

/-- A provider's outcome for an action of the Run that is DISPATCHING under the given token. -/
def ReportsOutcome (db : Database) (runId : String) (request : Request) (after : Database) : Prop :=
  ∃ call settlement action step outcome, request.call = .workflow call ∧ call.lease = none ∧
    call.settlement = some settlement ∧ settlement.runId = runId ∧
    db.externalActions.find (runId, settlement.stepId) = some action ∧
    action.status = .dispatching ∧ action.dispatchToken = some settlement.dispatchToken ∧
    after = recordOutcome db request.reading runId settlement.stepId action step outcome

omit hfind hunheld in
/-- A call without a lease writes nothing but the outcome of a dispatched action. -/
theorem settled_of_unleased {after : Database} {reading : Reading} {call : WorkflowCall}
    (hchange : WorkflowChange db reading call after) (hlease : call.lease = none) :
    after = db ∨ ∃ settlement action step outcome, call.settlement = some settlement ∧
      db.externalActions.find (settlement.runId, settlement.stepId) = some action ∧
      action.status = .dispatching ∧ action.dispatchToken = some settlement.dispatchToken ∧
      after = recordOutcome db reading settlement.runId settlement.stepId action step outcome := by
  cases hchange with
  | same hafter => exact .inl hafter
  | settle settlement outcome action step hcall _ haction hdispatching htoken _ _ hafter =>
    exact .inr ⟨settlement, action, step, outcome, hcall, haction, hdispatching, htoken, hafter⟩
  | createExecution _ _ _ _ hcall | startExecution _ _ _ hcall | reuseStep _ _ _ _ _ _ _ _ hcall
  | claimFresh _ _ _ _ _ _ _ hcall | claimRetry _ _ _ _ _ _ _ hcall | recoverStep _ _ _ _ hcall
  | prepareAction _ _ _ _ _ _ _ _ hcall | beginDispatch _ _ _ _ _ _ _ hcall
  | retryDispatch _ _ _ _ _ _ _ hcall | appendEvent _ _ _ _ _ hcall =>
    subst hcall
    cases hlease
  | finishStep _ _ _ _ _ _ _ _ _ _ hcall =>
    rcases hcall with ⟨_, rfl, -⟩ | ⟨_, rfl, -⟩
    · cases hlease
    · cases hlease
  | finalizeExecution _ _ _ _ _ _ hcall =>
    cases call with
    | finalizeReady | finalizeBlocked | finalizeFailed => cases hlease
    | _ => cases hcall

/-- The ledger of the Run changes only by the outcome of a dispatched action. -/
theorem ledger_of_unheld (request : Request) :
    SameLedgerOf runId db (request.apply hasher db) ∨
      ReportsOutcome db runId request (request.apply hasher db) := by
  obtain ⟨reading, call⟩ := request
  cases hperform : call.perform hasher db reading with
  | error error =>
    rw [apply_of_error hperform]
    exact .inl (.refl runId db)
  | ok result =>
    obtain ⟨reply, after⟩ := result
    rw [apply_of_ok hperform]
    cases call with
    | run call => exact .inl (.of_sameLedger (onlyRunTables_of_run hperform).1)
    | memory call => exact .inl (.of_sameLedger (onlyMemory_of_memory hperform).2)
    | workflow call =>
      have hchange := workflowChange_of_perform hperform
      by_cases hsubject : call.subject = some runId
      · cases hlease : call.lease with
        | some held =>
          obtain ⟨other, token⟩ := held
          have hother : other = runId := by
            simpa [WorkflowCall.subject, hlease] using hsubject
          rw [hother] at hlease
          exact (workflow_of_unheld hfind hunheld hlease (reply, after) hperform).elim
        | none =>
          rcases settled_of_unleased hchange hlease with
            rfl | ⟨settlement, action, step, outcome, hcall, haction, hdispatching, htoken, hafter⟩
          · exact .inl (.refl runId _)
          · have hrun : settlement.runId = runId :=
              Option.some.inj ((subject_of_settlement hcall).symm.trans hsubject)
            rw [hrun] at haction hafter
            exact .inr ⟨call, settlement, action, step, outcome, rfl, hlease, hcall, hrun, haction,
              hdispatching, htoken, hafter⟩
      · exact .inl (sameLedgerOf_of_workflow hchange hsubject)

end Unheld

/-! ### Runs of the file -/

/-- What holds in every state between the quarantine of a Run and its resolution. -/
structure Withheld (hasher : Hasher) (db : Database) (runId : String) (row : RunRow) : Prop where
  rows : ∀ step, HeldStep hasher db runId row step
  claims : ∀ reading ownerId duration code claim after,
    claimNextRun db reading ownerId duration code = .ok (some claim, after) →
      ¬ (claim.run.tenantId = row.tenantId ∧ claim.run.threadId = row.threadId)
  checkpoint : ∀ request : Request,
    (request.apply hasher db).threadStates.find (row.tenantId, row.threadId) =
      db.threadStates.find (row.tenantId, row.threadId)
  workflow : ∀ reading (call : WorkflowCall) token result, call.lease = some (runId, token) →
    call.perform db reading ≠ .ok result
  memory : ∀ reading (call : MemoryCall) token result, call.carries = some (runId, token) →
    call.perform db reading ≠ .ok result
  ledger : ∀ request : Request, SameLedgerOf runId db (request.apply hasher db) ∨
    ReportsOutcome db runId request (request.apply hasher db)

theorem withheld_of_held {hasher : Hasher} {db : Database} {runId : String} {row : RunRow}
    (hone : OneRunningPerThread db) (hfind : db.runs.find runId = some row)
    (hheld : row.quarantined = true) : Withheld hasher db runId row where
  rows step := heldStep_apply hfind hheld step
  claims _ _ _ _ _ _ hok := claim_of_held hone hfind hheld hok
  checkpoint request := checkpoint_of_held hone hfind hheld request
  workflow _ _ _ result hlease :=
    workflow_of_unheld hfind (holdsAttempt_of_quarantined hheld) hlease result
  memory _ _ _ result hcarries :=
    memory_of_unheld hfind (holdsAttempt_of_quarantined hheld) hcarries result
  ledger request := ledger_of_unheld hfind (holdsAttempt_of_quarantined hheld) request

/-- A step that does not resolve the quarantine keeps the row held. -/
theorem heldAs_apply {hasher : Hasher} {db : Database} {runId : String} {row : RunRow}
    {step : FileStep} (hrow : row.quarantined = true)
    (hheld : ∃ now, db.runs.find runId = some now ∧ row.HeldAs now)
    (hunresolved : step.resolves hasher db runId = false) :
    ∃ now, (step.apply hasher db).runs.find runId = some now ∧ row.HeldAs now := by
  obtain ⟨now, hfind, hnow⟩ := hheld
  cases heldStep_apply hfind (hnow.quarantined hrow) step with
  | kept hkept => exact ⟨now, hkept, hnow⟩
  | cancelRequested reading _ hasked =>
    obtain ⟨flag, time, rfl⟩ := hnow
    exact ⟨_, hasked, true, reading.utcNow 0, rfl⟩
  | resolved _ hresolves =>
    rw [hunresolved] at hresolves
    cases hresolves

/-- The row that a committed quarantine leaves. -/
theorem quarantined_of_commit {db after : Database} {reading : Reading} {run record : RunRecord}
    {token phase : String}
    (hok : quarantineCheckpointConflict db reading run token phase =
      .ok ((.committed, record), after)) :
    ∃ row, after.runs.find run.runId = some row ∧ row.quarantined = true := by
  unfold quarantineCheckpointConflict at hok
  split at hok
  · cases hok
  · next persisted hpersisted =>
    split_ifs at hok with hrefused
    · exact ((refuseCommit_eq_ok hok).2 rfl).elim
    · simp only at hok
      split_ifs at hok
      obtain ⟨-, rfl⟩ := Prod.mk.inj (Except.ok.inj hok)
      have hfind := ((findRunForTenant_eq_some_iff _ _ _ _).mp hpersisted).1
      rw [not_or, not_not] at hrefused
      refine ⟨_, (rewritesRun_updateRun _ hfind run.runId).trans (if_pos rfl), ?_⟩
      rw [quarantined_iff]
      exact ⟨hrefused.1, rfl, rfl, rfl, rfl, rfl⟩

/-- Quarantine is absorbing. Once `quarantine_checkpoint_conflict_for_reconciliation` has committed,
then after any further steps of any workers, operators and foreign writers, none of which resolves
the quarantine, the row is the one the quarantine left up to a cancel request; and in that state
every next step keeps the row, asks it to cancel or resolves it, no claim takes a Run of its thread,
no request moves the checkpoint of its thread, no lease-fenced write for it returns, and its ledger
changes only by the outcome of a dispatched action under the token of that dispatch. -/
theorem quarantine_is_absorbing (hasher : Hasher) (history : List FileStep) (reading : Reading)
    (run record : RunRecord) (token phase : String) (after : Database)
    (hcommit : quarantineCheckpointConflict ((fileMachine hasher).run Database.empty history)
      reading run token phase = .ok ((.committed, record), after))
    (more : List FileStep)
    (hunresolved : (fileMachine hasher).Admits
      (fun db step ↦ step.resolves hasher db run.runId = false) after more) :
    let db := (fileMachine hasher).run after more
    ∃ row now, after.runs.find run.runId = some row ∧ row.quarantined = true ∧
      db.runs.find run.runId = some now ∧ row.HeldAs now ∧ Withheld hasher db run.runId now := by
  intro db
  obtain ⟨row, hrow, hheld⟩ := quarantined_of_commit hcommit
  obtain ⟨now, hnow, hheldAs⟩ := (fileMachine hasher).invariant_run
    (fun state ↦ ∃ now, state.runs.find run.runId = some now ∧ row.HeldAs now)
    (fun _ _ hstate hstep ↦ heldAs_apply hheld hstate hstep) ⟨row, hrow, .refl row⟩ hunresolved
  -- the quarantine is itself a request, so the states after it are reachable
  have happly : (fileMachine hasher).next ((fileMachine hasher).run Database.empty history)
      (.request ⟨reading, .run (.quarantineCheckpointConflict run token phase)⟩) = after := by
    have hok : (Call.run (.quarantineCheckpointConflict run token phase)).perform hasher
      ((fileMachine hasher).run Database.empty history) reading =
        .ok ((.committed, record), after) := hcommit
    exact apply_of_ok hok
  have hone : OneRunningPerThread db := by
    have hreachable := oneRunningPerThread_file hasher
      (history ++ .request ⟨reading, .run (.quarantineCheckpointConflict run token phase)⟩ :: more)
    rw [Machine.run_append, Machine.run_cons, happly] at hreachable
    exact hreachable
  exact ⟨row, now, hrow, hheld, hnow, hheldAs,
    withheld_of_held hone hnow (hheldAs.quarantined hheld)⟩

/-- A Run is claimed, and a foreign writer advances the checkpoint it stands on. -/
def driftedHistory : List FileStep :=
  [.request (submitRequest (sampleRun "run_a" "09:00" none)),
    .request ⟨sampleReading 0 "1", .run (.claimNextRun "worker" 30 none)⟩,
    .advance "acme" "trip" ⟨"travel", "1", sampleState.toStateJson, "09:01", 1⟩]

/-- The owner asks to cancel, and another worker looks for work much later. -/
def afterQuarantine : List FileStep :=
  [.request ⟨sampleReading 10 "2", .run (.requestCancelAtomically "run_a" "acme")⟩,
    .request ⟨sampleReading 900000 "3", .run (.claimNextRun "other" 30 none)⟩]

/-- The file after the quarantine of that Run. -/
def quarantinedFile : Database :=
  (fileMachine sampleHasher).run Database.empty
    (driftedHistory ++ [.request ⟨sampleReading 5 "q", .run (.quarantineCheckpointConflict
      claimedSampleRun "lease_1" "load")⟩])

set_option maxRecDepth 10000 in
theorem cancelled_quarantine_is_held :
    ∃ row now, quarantinedFile.runs.find "run_a" = some row ∧ row.quarantined = true ∧
      ((fileMachine sampleHasher).run quarantinedFile afterQuarantine).runs.find "run_a" =
        some now ∧ row.HeldAs now ∧ now.cancelRequested = true := by
  obtain ⟨row, now, hrow, hheld, hnow, hheldAs, -⟩ := quarantine_is_absorbing sampleHasher
    driftedHistory (sampleReading 5 "q") claimedSampleRun _ "lease_1" "load" quarantinedFile rfl
    afterQuarantine (by decide +kernel)
  have hasked : (((fileMachine sampleHasher).run quarantinedFile afterQuarantine).runs.find
      "run_a").map (fun row ↦ row.cancelRequested) = some true := by decide +kernel
  have hfind : ((fileMachine sampleHasher).run quarantinedFile afterQuarantine).runs.find "run_a" =
    some now := hnow
  rw [hfind, Option.map_some, Option.some.injEq] at hasked
  exact ⟨row, now, hrow, hheld, hfind, hheldAs, hasked⟩

end AgentRuntime.Store
