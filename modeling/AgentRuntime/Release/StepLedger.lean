import AgentRuntime.Store.QuarantineHold

/-!
# The ledger of one Run, operation by operation

What each operation that a workflow performs on its own ledger returns and does to it: the row of
the execution and the rows of the steps. `SameRows` is the frame of an operation on one step;
`SameLedgerOf` is that of every call that is about another Run.
-/

set_option autoImplicit false
set_option relaxedAutoImplicit false

namespace AgentRuntime.Release

open Library Store

/-- The execution of the Run and its steps, but for the given one, are as before. -/
structure SameRows (runId : String) (except : Option String) (db after : Database) : Prop where
  execution : after.executions.find runId = db.executions.find runId
  steps : ∀ stepId, except ≠ some stepId →
    after.toolCalls.find (runId, stepId) = db.toolCalls.find (runId, stepId)

theorem SameRows.refl (runId : String) (except : Option String) (db : Database) :
    SameRows runId except db db := ⟨rfl, fun _ _ ↦ rfl⟩

theorem SameRows.trans {runId : String} {except : Option String} {db middle after : Database}
    (hfirst : SameRows runId except db middle) (hsecond : SameRows runId except middle after) :
    SameRows runId except db after :=
  ⟨hsecond.execution.trans hfirst.execution, fun stepId hother ↦
    (hsecond.steps stepId hother).trans (hfirst.steps stepId hother)⟩

variable {db after : Database} {reading : Reading} {runId stepId toolName inputHash : String}
  {token : Option String}

/-! ### Executions -/

/-- `create_or_get_execution` returns the row that the ledger then holds. -/
theorem createOrGetExecution_spec {workflowType : String} {reply : ExecutionClaimResult}
    (hok : createOrGetExecution db reading runId workflowType inputHash token =
      .ok (reply, after)) :
    after.toolCalls = db.toolCalls ∧ after.executions.find runId = some reply.execution ∧
      ((db.executions.find runId = some reply.execution ∧ after = db ∧
          reply = resolveExecutionConflict reply.execution workflowType inputHash) ∨
        (db.executions.find runId = none ∧ reply.outcome = .created ∧
          reply.execution = pendingExecution workflowType inputHash (reading.utcNow 0))) := by
  unfold createOrGetExecution at hok
  obtain ⟨-, hok⟩ := fenced_eq_ok hok
  split at hok
  · next row hfind =>
    obtain ⟨rfl, rfl⟩ := Prod.mk.inj (Except.ok.inj hok)
    have hrow : (resolveExecutionConflict row workflowType inputHash).execution = row := by
      unfold resolveExecutionConflict
      split_ifs <;> rfl
    rw [hrow]
    exact ⟨rfl, hfind, .inl ⟨hfind, rfl, rfl⟩⟩
  · next hnone =>
    obtain ⟨rfl, rfl⟩ := Prod.mk.inj (Except.ok.inj hok)
    refine ⟨rfl, ?_, .inr ⟨hnone, rfl, rfl⟩⟩
    exact (Table.find_insert_of_fresh _ _ _ _ hnone).trans (if_pos rfl)

/-- `mark_running` starts a pending execution and returns the row that the ledger then holds. -/
theorem markRunning_spec {reply : ExecutionRow}
    (hok : markRunning db reading runId token = .ok (reply, after)) :
    after.toolCalls = db.toolCalls ∧ after.executions.find runId = some reply ∧
      ∃ row, db.executions.find runId = some row ∧
        ((row.status = .pending ∧ reply = startedExecution row (reading.utcNow 0)) ∨
          (row.status ≠ .pending ∧ reply = row ∧ after = db)) := by
  unfold markRunning at hok
  obtain ⟨-, hok⟩ := fenced_eq_ok hok
  split at hok
  · cases hok
  · next row hfind =>
    dsimp only at hok
    split_ifs at hok with hpending
    · obtain ⟨rfl, rfl⟩ := Prod.mk.inj (Except.ok.inj hok)
      refine ⟨rfl, ?_, row, hfind, .inl ⟨hpending, rfl⟩⟩
      change (db.executions.modify runId _).find runId = _
      rw [Table.find_modify, if_pos rfl, hfind]
      rfl
    · obtain ⟨rfl, rfl⟩ := Prod.mk.inj (Except.ok.inj hok)
      exact ⟨rfl, hfind, row, hfind, .inr ⟨hpending, rfl, rfl⟩⟩

/-- `_finalize_execution` decides a running execution and returns the row that the ledger then
holds. -/
theorem finalizeExecution_spec {status : WorkflowStatus} {result : Option Json}
    {code : Option String} {eventType : String} {reply : ExecutionRow}
    (hok : finalizeExecution db reading runId status result code eventType token =
      .ok (reply, after)) :
    after.toolCalls = db.toolCalls ∧ after.executions.find runId = some reply ∧
      ∃ row, db.executions.find runId = some row ∧
        ((row.status = .running ∧
            reply = finalizedExecution row status result code (reading.utcNow 0)) ∨
          (row.status ≠ .running ∧ reply = row ∧ after = db)) := by
  unfold finalizeExecution at hok
  obtain ⟨-, hok⟩ := fenced_eq_ok hok
  split at hok
  · cases hok
  · next row hfind =>
    dsimp only at hok
    split_ifs at hok with hrunning
    · obtain ⟨rfl, rfl⟩ := Prod.mk.inj (Except.ok.inj hok)
      refine ⟨rfl, ?_, row, hfind, .inl ⟨hrunning, rfl⟩⟩
      change (db.executions.modify runId _).find runId = _
      rw [Table.find_modify, if_pos rfl, hfind]
      rfl
    · obtain ⟨rfl, rfl⟩ := Prod.mk.inj (Except.ok.inj hok)
      exact ⟨rfl, hfind, row, hfind, .inr ⟨hrunning, rfl, rfl⟩⟩

/-! ### Steps -/

theorem sameRows_insert {row : ToolCallRow} (hnone : db.toolCalls.find (runId, stepId) = none) :
    SameRows runId (some stepId) db
      { db with toolCalls := db.toolCalls.insert (runId, stepId) row } := by
  refine ⟨rfl, fun other hother ↦ ?_⟩
  have hne : (runId, stepId) ≠ (runId, other) := fun heq ↦ hother (by rw [(Prod.mk.inj heq).2])
  exact (Table.find_insert_of_fresh _ _ _ _ hnone).trans (if_neg hne.symm)

theorem sameRows_updateStep (change : ToolCallRow → ToolCallRow) :
    SameRows runId (some stepId) db (updateStep db runId stepId change) := by
  refine ⟨rfl, fun other hother ↦ ?_⟩
  have hne : (runId, stepId) ≠ (runId, other) := fun heq ↦ hother (by rw [(Prod.mk.inj heq).2])
  exact (Table.find_modify _ _ _ _).trans (if_neg hne.symm)

theorem find_updateStep {row : ToolCallRow} (change : ToolCallRow → ToolCallRow)
    (hfind : db.toolCalls.find (runId, stepId) = some row) :
    (updateStep db runId stepId change).toolCalls.find (runId, stepId) = some (change row) := by
  refine (Table.find_modify _ _ _ _).trans ?_
  rw [if_pos rfl, hfind]
  rfl

theorem SameRows.logged {other : Database} {except : Option String}
    (hsame : SameRows runId except db other) (eventType : String) (payload : Payload)
    (createdAt : String) :
    SameRows runId except db (appendWorkflowEvent other runId eventType payload createdAt) :=
  ⟨hsame.execution, hsame.steps⟩

/-- What `claim_step` can return: an attempt of the step, or the reason why there is none, in which
case nothing changed. -/
theorem claimStep_spec {most : Nat} {reply : ClaimResult}
    (hok : claimStep db reading runId stepId toolName inputHash most token = .ok (reply, after)) :
    SameRows runId (some stepId) db after ∧
      after.toolCalls.find (runId, stepId) = some reply.step ∧
      ((reply.outcome = .claimed ∧ reply.step.status = .running ∧ reply.step.toolName = toolName ∧
          reply.step.inputHash = inputHash ∧ reply.attemptToken = reply.step.attemptToken ∧
          reply.attemptToken = some ("attempt_" ++ reading.uuid 0) ∧
          ((db.toolCalls.find (runId, stepId) = none ∧ reply.step.attemptCount = 1) ∨
            ∃ previous, db.toolCalls.find (runId, stepId) = some previous ∧
              previous.status = .failed ∧ previous.attemptCount < most ∧
              reply.step.attemptCount = previous.attemptCount + 1)) ∨
        (after = db ∧ reply.attemptToken = none ∧
          ((reply.outcome = .definitionMismatch ∧ reply.step.toolName ≠ toolName) ∨
            (reply.outcome = .inputMismatch ∧ reply.step.inputHash ≠ inputHash) ∨
            (reply.step.toolName = toolName ∧ reply.step.inputHash = inputHash ∧
              ((reply.outcome = .cached ∧ reply.step.status = .completed) ∨
                (reply.outcome = .alreadyRunning ∧ reply.step.status ≠ .completed ∧
                  reply.step.status ≠ .failed) ∨
                (reply.outcome = .attemptsExhausted ∧ reply.step.status ≠ .completed ∧
                  reply.step.status ≠ .running ∧ most ≤ reply.step.attemptCount)))))) := by
  unfold claimStep at hok
  split_ifs at hok with hmost
  obtain ⟨-, hok⟩ := fenced_eq_ok hok
  split at hok
  · cases hok
  · split at hok
    · next hnone =>
      unfold claimFresh at hok
      dsimp only at hok
      split_ifs at hok
      obtain ⟨rfl, rfl⟩ := Prod.mk.inj (Except.ok.inj hok)
      refine ⟨(sameRows_insert hnone).logged _ _ _, ?_,
        .inl ⟨rfl, rfl, rfl, rfl, rfl, rfl, .inl ⟨hnone, rfl⟩⟩⟩
      exact (Table.find_insert_of_fresh _ _ _ _ hnone).trans (if_pos rfl)
    · next record hfind =>
      split_ifs at hok with htool hinput hcompleted hrunning hbudget
      · obtain ⟨rfl, rfl⟩ := Prod.mk.inj (Except.ok.inj hok)
        exact ⟨.refl _ _ _, hfind, .inr ⟨rfl, rfl, .inl ⟨rfl, htool⟩⟩⟩
      · obtain ⟨rfl, rfl⟩ := Prod.mk.inj (Except.ok.inj hok)
        exact ⟨.refl _ _ _, hfind, .inr ⟨rfl, rfl, .inr (.inl ⟨rfl, hinput⟩)⟩⟩
      · obtain ⟨rfl, rfl⟩ := Prod.mk.inj (Except.ok.inj hok)
        exact ⟨.refl _ _ _, hfind, .inr ⟨rfl, rfl, .inr (.inr ⟨not_not.mp htool,
          not_not.mp hinput, .inl ⟨rfl, hcompleted⟩⟩)⟩⟩
      · obtain ⟨rfl, rfl⟩ := Prod.mk.inj (Except.ok.inj hok)
        exact ⟨.refl _ _ _, hfind, .inr ⟨rfl, rfl, .inr (.inr ⟨not_not.mp htool,
          not_not.mp hinput, .inr (.inl ⟨rfl, hcompleted, by rw [hrunning]; decide⟩)⟩)⟩⟩
      · obtain ⟨rfl, rfl⟩ := Prod.mk.inj (Except.ok.inj hok)
        exact ⟨.refl _ _ _, hfind, .inr ⟨rfl, rfl, .inr (.inr ⟨not_not.mp htool,
          not_not.mp hinput, .inr (.inr ⟨rfl, hcompleted, hrunning, hbudget⟩)⟩)⟩⟩
      · unfold claimRetry at hok
        dsimp only at hok
        split_ifs at hok with hfailed
        · obtain ⟨rfl, rfl⟩ := Prod.mk.inj (Except.ok.inj hok)
          exact ⟨.refl _ _ _, hfind, .inr ⟨rfl, rfl, .inr (.inr ⟨not_not.mp htool,
            not_not.mp hinput, .inr (.inl ⟨rfl, hcompleted, hfailed⟩)⟩)⟩⟩
        · obtain ⟨rfl, rfl⟩ := Prod.mk.inj (Except.ok.inj hok)
          refine ⟨(sameRows_updateStep _).logged _ _ _, find_updateStep _ hfind,
            .inl ⟨rfl, rfl, rfl,
            not_not.mp hinput, rfl, rfl, .inr ⟨record, hfind, not_not.mp hfailed,
              not_le.mp hbudget, rfl⟩⟩⟩

/-- `_finalize_step` ends the attempt that holds the step. -/
theorem finalizeStep_spec {attempt eventType outcome : String} {status : ToolCallStatus}
    {result : Option Json} {code : Option String} {reply : ToolCallRow}
    (hok : finalizeStep db reading runId stepId attempt status result code eventType outcome token =
      .ok (reply, after)) :
    SameRows runId (some stepId) db after ∧ ∃ row,
      db.toolCalls.find (runId, stepId) = some row ∧ row.heldBy attempt = true ∧
      after.toolCalls.find (runId, stepId) =
        some (finishedStep row status result code (reading.utcNow 0)) := by
  obtain ⟨row, hfind, hheld, rfl⟩ := finalizeStep_eq_ok hok
  exact ⟨(sameRows_updateStep _).logged _ _ _, row, hfind, hheld, find_updateStep _ hfind⟩

/-- `recover_interrupted_step` fails a running step and leaves any other alone. -/
theorem recoverInterruptedStep_spec {reply : ToolCallRow}
    (hok : recoverInterruptedStep db reading runId stepId token = .ok (reply, after)) :
    SameRows runId (some stepId) db after ∧ ∃ row,
      db.toolCalls.find (runId, stepId) = some row ∧
        ((row.status = .running ∧ after.toolCalls.find (runId, stepId) =
            some (interruptedStep row (reading.utcNow 0))) ∨
          (row.status ≠ .running ∧ after = db)) := by
  unfold recoverInterruptedStep at hok
  obtain ⟨-, hok⟩ := fenced_eq_ok hok
  split at hok
  · cases hok
  · next row hfind =>
    dsimp only at hok
    split_ifs at hok with hrunning
    · obtain ⟨-, rfl⟩ := Prod.mk.inj (Except.ok.inj hok)
      exact ⟨(sameRows_updateStep _).logged _ _ _, row, hfind,
        .inl ⟨hrunning, find_updateStep _ hfind⟩⟩
    · obtain ⟨-, rfl⟩ := Prod.mk.inj (Except.ok.inj hok)
      exact ⟨.refl _ _ _, row, hfind, .inr ⟨hrunning, rfl⟩⟩

/-- `append_event` writes no row. -/
theorem appendEvent_spec {eventType : String} {payload : Payload} {reply : EventRow}
    (hok : Store.appendEvent db reading runId eventType payload token = .ok (reply, after)) :
    after.executions = db.executions ∧ after.toolCalls = db.toolCalls := by
  unfold Store.appendEvent at hok
  obtain ⟨-, hok⟩ := fenced_eq_ok hok
  split at hok
  · cases hok
  · obtain ⟨-, rfl⟩ := Prod.mk.inj (Except.ok.inj hok)
    exact ⟨rfl, rfl⟩

/-- The source of a replay holds the result of exactly this tool on this input, and no side effect
stands behind it. -/
structure SourceReusable (db : Database) (source stepId toolName inputHash : String)
    (row : ToolCallRow) : Prop where
  found : db.toolCalls.find (source, stepId) = some row
  reusable : row.reusable toolName inputHash = true
  pure : db.externalActions.find (source, stepId) = none

/-- What `reuse_completed_step` can return: a copy of the source's result, the copy that is already
there, or that the step has to be executed, because of the source or because of what the target
holds. -/
theorem reuseCompletedStep_spec {source : String} {reply : StepReuseResult}
    (hok : reuseCompletedStep db reading source runId stepId toolName inputHash token =
      .ok (reply, after)) :
    SameRows runId (some stepId) db after ∧
      ((after = db ∧ reply.outcome = .notReusable ∧
          (∀ row, ¬ SourceReusable db source stepId toolName inputHash row)) ∨
        ∃ sourceRow, SourceReusable db source stepId toolName inputHash sourceRow ∧
          ((after = db ∧ ∃ row, db.toolCalls.find (runId, stepId) = some row ∧
              ((reply.outcome = .notReusable ∧ row.reusable toolName inputHash = false) ∨
                (reply.outcome = .existing ∧ reply.step = some row ∧
                  row.reusable toolName inputHash = true))) ∨
            (reply.outcome = .copied ∧ db.toolCalls.find (runId, stepId) = none ∧
              ∃ row, reply.step = some row ∧
                after.toolCalls.find (runId, stepId) = some row ∧
                row = copiedStep ("call_" ++ reading.uuid 0) toolName inputHash
                  sourceRow.resultJson (reading.utcNow 0)))) := by
  unfold reuseCompletedStep at hok
  split_ifs at hok
  obtain ⟨-, hok⟩ := fenced_eq_ok hok
  unfold reuseFenced at hok
  split at hok
  · cases hok
  · cases hok
  · split_ifs at hok
    split at hok
    · next hnone =>
      obtain ⟨rfl, rfl⟩ := Prod.mk.inj (Except.ok.inj hok)
      refine ⟨.refl _ _ _, .inl ⟨rfl, rfl, fun row hreusable ↦ ?_⟩⟩
      cases hnone.symm.trans hreusable.found
    · next sourceRow hfound =>
      unfold copyStep at hok
      split_ifs at hok with hblocked
      · obtain ⟨rfl, rfl⟩ := Prod.mk.inj (Except.ok.inj hok)
        refine ⟨.refl _ _ _, .inl ⟨rfl, rfl, fun row hreusable ↦ ?_⟩⟩
        obtain rfl := Option.some.inj (hfound.symm.trans hreusable.found)
        simp [hreusable.reusable, hreusable.pure] at hblocked
      · have hreusable : SourceReusable db source stepId toolName inputHash sourceRow := by
          simp only [Bool.or_eq_true, Bool.not_eq_true', not_or, Bool.not_eq_false,
            Option.isSome_iff_ne_none, not_not] at hblocked
          exact ⟨hfound, hblocked.1, hblocked.2⟩
        split at hok
        · next row hrow =>
          split_ifs at hok with hkept
          · obtain ⟨rfl, rfl⟩ := Prod.mk.inj (Except.ok.inj hok)
            exact ⟨.refl _ _ _, .inr ⟨sourceRow, hreusable, .inl ⟨rfl, row, hrow,
              .inr ⟨rfl, rfl, hkept⟩⟩⟩⟩
          · obtain ⟨rfl, rfl⟩ := Prod.mk.inj (Except.ok.inj hok)
            exact ⟨.refl _ _ _, .inr ⟨sourceRow, hreusable, .inl ⟨rfl, row, hrow,
              .inl ⟨rfl, Bool.eq_false_iff.mpr hkept⟩⟩⟩⟩
        · next hnone =>
          dsimp only at hok
          split_ifs at hok
          obtain ⟨rfl, rfl⟩ := Prod.mk.inj (Except.ok.inj hok)
          refine ⟨(sameRows_insert hnone).logged _ _ _, .inr ⟨sourceRow, hreusable,
            .inr ⟨rfl, hnone, _, rfl, ?_, rfl⟩⟩⟩
          exact (Table.find_insert_of_fresh _ _ _ _ hnone).trans (if_pos rfl)

/-! ### Other Runs -/

/-- A table whose rows for a Run are the same finds the same. -/
theorem find_of_filter_rows {ρ : Type} {table other : Table (String × String) ρ}
    (hrows : (other.rows.filter fun entry ↦ entry.1.1 == runId) =
      table.rows.filter fun entry ↦ entry.1.1 == runId) (stepId : String) :
    other.find (runId, stepId) = table.find (runId, stepId) := by
  have hmem (row : ρ) :
      ((runId, stepId), row) ∈ other.rows ↔ ((runId, stepId), row) ∈ table.rows := by
    have hfilter : ((runId, stepId), row) ∈ other.rows.filter (fun entry ↦ entry.1.1 == runId) ↔
        ((runId, stepId), row) ∈ table.rows.filter fun entry ↦ entry.1.1 == runId := by
      rw [hrows]
    simpa using hfilter
  ext row
  rw [← Table.mem_rows_iff, ← Table.mem_rows_iff]
  exact hmem row

theorem sameRows_of_sameLedgerOf (hsame : SameLedgerOf runId db after) (except : Option String) :
    SameRows runId except db after :=
  ⟨hsame.execution, fun stepId _ ↦ find_of_filter_rows hsame.steps stepId⟩

/-- A request about another Run leaves this one alone. -/
theorem sameLedgerOf_apply (hasher : Hasher) (request : Request)
    (hforeign : ∀ call, request.call = .workflow call → call.subject ≠ some runId) :
    SameLedgerOf runId db (request.apply hasher db) := by
  rcases ledger_of_apply hasher db request with hsame | ⟨call, hcall, hchange⟩
  · exact .of_sameLedger hsame
  · exact sameLedgerOf_of_workflow hchange (hforeign call hcall)

end AgentRuntime.Release
