import AgentRuntime.Store.RunTransitions

/-!
# What one workflow-store call can do

`WorkflowChange db reading call after` lists what a call of the workflow store can do to the ledger:
nothing, or one of its twelve committed transitions, each with the guards it passed and the exact
database it leaves. `workflowChange_of_perform` says that the list is exhaustive. Since each
transition is written as an update of the ledger tables, `sameRunTables_of_workflow` is immediate;
`onlyMemory_of_memory` is its counterpart for the memory store.
-/

set_option autoImplicit false
set_option relaxedAutoImplicit false

namespace AgentRuntime.Store

open Library

/-- The lease assertion of the workflow store passed. -/
def Fenced (db : Database) (reading : Reading) (runId : String) (token : Option String) : Prop :=
  assertWorkflowLease db reading.nowMs runId token = .ok ()

/-- Passing the fence of an existing Run takes its current token. -/
theorem Fenced.holdsAttempt {db : Database} {reading : Reading} {runId : String}
    {token : Option String} (hfenced : Fenced db reading runId token) {row : RunRow}
    (hfind : db.runs.find runId = some row) :
    ∃ current, token = some current ∧ HoldsAttempt row current reading := by
  unfold Fenced assertWorkflowLease at hfenced
  rw [hfind] at hfenced
  cases token with
  | none => simp at hfenced
  | some current =>
    simp only at hfenced
    split_ifs at hfenced with hcurrent
    rw [Bool.and_eq_true, beq_iff_eq] at hcurrent
    exact ⟨current, rfl, hcurrent⟩

/-- Passing the fence with a token takes an existing Run that holds it. -/
theorem Fenced.exists_attempt {db : Database} {reading : Reading} {runId token : String}
    (hfenced : Fenced db reading runId (some token)) :
    ∃ row, db.runs.find runId = some row ∧ HoldsAttempt row token reading := by
  cases hfind : db.runs.find runId with
  | none =>
    unfold Fenced assertWorkflowLease at hfenced
    rw [hfind] at hfenced
    simp at hfenced
  | some row =>
    obtain ⟨current, hcurrent, hattempt⟩ := hfenced.holdsAttempt hfind
    exact ⟨row, rfl, Option.some.inj hcurrent ▸ hattempt⟩

theorem fenced_eq_ok {α : Type} {db : Database} {reading : Reading} {runId : String}
    {token : Option String} {transaction : Except StoreError (α × Database)}
    {reply : α × Database} (hok : fenced db reading runId token transaction = .ok reply) :
    Fenced db reading runId token ∧ transaction = .ok reply := by
  unfold fenced at hok
  split at hok
  · cases hok
  · next hassert => exact ⟨hassert, hok⟩

/-- The outcome a finalizing call asks for, with the tokens that bind it. -/
structure Settlement where
  runId : String
  stepId : String
  dispatchToken : String
  toolAttemptToken : String
  outcome : ExternalActionOutcome

/-- The settlement of each of the five finalizing calls. -/
def WorkflowCall.settlement : WorkflowCall → Option Settlement
  | finalizeExternalActionSucceeded runId stepId dispatch attempt result reference code =>
    some ⟨runId, stepId, dispatch, attempt,
      ⟨.succeeded, .completed, some result, some reference, code⟩⟩
  | finalizeExternalActionFailed runId stepId dispatch attempt code reference =>
    some ⟨runId, stepId, dispatch, attempt, ⟨.failed, .failed, none, reference, some code⟩⟩
  | finalizeExternalActionOutcomeUnknown runId stepId dispatch attempt code reference =>
    some ⟨runId, stepId, dispatch, attempt,
      ⟨.outcomeUnknown, .failed, none, reference, some code⟩⟩
  | finalizeExternalActionReconciliationUnknown runId stepId dispatch attempt code reference _ =>
    some ⟨runId, stepId, dispatch, attempt,
      ⟨.outcomeUnknown, .failed, none, reference, some code⟩⟩
  | finalizeUnsafeInterruptedAction runId stepId dispatch attempt code _ =>
    some ⟨runId, stepId, dispatch, attempt, ⟨.outcomeUnknown, .failed, none, none, some code⟩⟩
  | _ => none

/-- The lease token a call of the workflow store carries for a Run. -/
def WorkflowCall.lease : WorkflowCall → Option (String × Option String)
  | createOrGetExecution runId _ _ token | markRunning runId token | finalizeReady runId _ token
  | finalizeBlocked runId _ _ token | finalizeFailed runId _ token
  | reuseCompletedStep _ runId _ _ _ token | claimStep runId _ _ _ _ token
  | completeStep runId _ _ _ token | failStep runId _ _ _ token
  | recoverInterruptedStep runId _ token | prepareExternalAction runId _ _ _ token
  | beginExternalActionDispatch runId _ _ token | retryExternalActionDispatch runId _ _ _ token
  | finalizeExternalActionReconciliationUnknown runId _ _ _ _ _ token
  | finalizeUnsafeInterruptedAction runId _ _ _ _ token | appendEvent runId _ _ token =>
    some (runId, token)
  | _ => none

/-- A call that carries a lease passed the fence with it. -/
def WorkflowCall.PassedFence (db : Database) (reading : Reading) (call : WorkflowCall) : Prop :=
  ∀ runId token, call.lease = some (runId, token) → Fenced db reading runId token

/-- The terminal status, event type, result and error of each of the three finalizers of an
execution. -/
def WorkflowCall.verdict : WorkflowCall →
    Option (String × WorkflowStatus × String × Option Json × Option String)
  | finalizeReady runId result _ => some (runId, .ready, "workflow.ready", some result, none)
  | finalizeBlocked runId result code _ =>
    some (runId, .blocked, "workflow.blocked", some result, some code)
  | finalizeFailed runId code _ => some (runId, .failed, "workflow.failed", none, some code)
  | _ => none

/-- Everything a call can do to the workflow ledger. -/
inductive WorkflowChange (db : Database) (reading : Reading) (call : WorkflowCall)
    (after : Database) : Prop
  | same (hafter : after = db)
  | createExecution (runId workflowType inputHash : String) (token : Option String)
    (hcall : call = .createOrGetExecution runId workflowType inputHash token)
    (hnone : db.executions.find runId = none)
    (hafter : after = { db with
      executions := db.executions.insert runId
        (pendingExecution workflowType inputHash (reading.utcNow 0)) })
  | startExecution (runId : String) (token : Option String) (row : ExecutionRow)
    (hcall : call = .markRunning runId token) (hfind : db.executions.find runId = some row)
    (hpending : row.status = .pending)
    (hafter : after = appendWorkflowEvent
      (updateExecution db runId fun _ ↦ startedExecution row (reading.utcNow 0)) runId
      "workflow.started" [] (reading.utcNow 1))
  | finalizeExecution (runId : String) (status : WorkflowStatus) (eventType : String)
    (result : Option Json) (code : Option String) (row : ExecutionRow)
    (hcall : call.verdict = some (runId, status, eventType, result, code))
    (hfind : db.executions.find runId = some row) (hrunning : row.status = .running)
    (hafter : after = appendWorkflowEvent
      (updateExecution db runId
        fun _ ↦ finalizedExecution row status result code (reading.utcNow 0)) runId eventType
      [("error_code", textColumn code)] (reading.utcNow 1))
  | reuseStep (source target stepId toolName inputHash : String) (token : Option String)
    (step : ToolCallRow) (execution : ExecutionRow)
    (hcall : call = .reuseCompletedStep source target stepId toolName inputHash token)
    (hexecution : db.executions.find target = some execution)
    (hrunning : execution.status = .running)
    (hnone : db.toolCalls.find (target, stepId) = none)
    (hcopied : step = copiedStep ("call_" ++ reading.uuid 0) toolName inputHash step.resultJson
      (reading.utcNow 0))
    (hafter : after = appendWorkflowEvent
      { db with toolCalls := db.toolCalls.insert (target, stepId) step } target
      "step.replay_reused"
      [("step_id", .str stepId), ("tool_name", .str toolName), ("source_run_id", .str source),
        ("attempt_count", .int 0), ("outcome", .str "reused")] (reading.utcNow 1))
  | claimFresh (runId stepId toolName inputHash : String) (maxAttempts : Nat)
    (token : Option String) (execution : ExecutionRow)
    (hcall : call = .claimStep runId stepId toolName inputHash maxAttempts token)
    (hexecution : db.executions.find runId = some execution)
    (hnone : db.toolCalls.find (runId, stepId) = none)
    (hafter : after = appendWorkflowEvent
      { db with
        toolCalls := db.toolCalls.insert (runId, stepId)
          (freshStep ("call_" ++ reading.uuid 1) ("attempt_" ++ reading.uuid 0) toolName inputHash
            (reading.utcNow 0)) } runId
      "step.claimed" (stepClaimedPayload stepId toolName 1) (reading.utcNow 1))
  | claimRetry (runId stepId toolName inputHash : String) (maxAttempts : Nat)
    (token : Option String) (previous : ToolCallRow)
    (hcall : call = .claimStep runId stepId toolName inputHash maxAttempts token)
    (hfind : db.toolCalls.find (runId, stepId) = some previous)
    (hfailed : previous.status = .failed) (hbudget : previous.attemptCount < maxAttempts)
    (hafter : after = appendWorkflowEvent
      (updateStep db runId stepId
        fun _ ↦ retriedStep previous ("attempt_" ++ reading.uuid 0) toolName (reading.utcNow 0))
      runId "step.claimed" (stepClaimedPayload stepId toolName (previous.attemptCount + 1))
      (reading.utcNow 1))
  | finishStep (runId stepId attempt : String) (token : Option String) (row : ToolCallRow)
    (status : ToolCallStatus) (result : Option Json) (code : Option String)
    (eventType outcome : String)
    (hcall : (∃ json, call = .completeStep runId stepId attempt json token ∧
        status = .completed ∧ result = some json ∧ code = none ∧
        eventType = "step.completed" ∧ outcome = "completed") ∨
      ∃ error, call = .failStep runId stepId attempt error token ∧
        status = .failed ∧ result = none ∧ code = some error ∧
        eventType = "step.failed" ∧ outcome = "failed")
    (hfind : db.toolCalls.find (runId, stepId) = some row) (hheld : row.heldBy attempt = true)
    (hafter : after = appendWorkflowEvent
      (updateStep db runId stepId fun _ ↦ finishedStep row status result code (reading.utcNow 0))
      runId eventType
      (stepFinishedPayload stepId (finishedStep row status result code (reading.utcNow 0))
        outcome) (reading.utcNow 1))
  | recoverStep (runId stepId : String) (token : Option String) (row : ToolCallRow)
    (hcall : call = .recoverInterruptedStep runId stepId token)
    (hfind : db.toolCalls.find (runId, stepId) = some row) (hrunning : row.status = .running)
    (hafter : after = appendWorkflowEvent
      (updateStep db runId stepId fun _ ↦ interruptedStep row (reading.utcNow 0)) runId
      "step.interrupted_recovery" [("step_id", .str stepId)] (reading.utcNow 1))
  | prepareAction (runId stepId attempt : String) (arguments : ExternalActionIdentity)
    (token : Option String) (step : ToolCallRow) (run : RunRow) (action : ExternalActionRow)
    (hcall : call = .prepareExternalAction runId stepId attempt arguments token)
    (hrun : db.runs.find runId = some run)
    (hstep : db.toolCalls.find (runId, stepId) = some step) (hheld : step.heldBy attempt = true)
    (hnone : db.externalActions.find (runId, stepId) = none)
    (hfreshKey : ∀ key row, db.externalActions.find key = some row →
      row.idempotencyKey ≠ arguments.idempotencyKey)
    (hfreshId : ∀ key row, db.externalActions.find key = some row →
      row.actionId ≠ "action_" ++ reading.uuid 0)
    (haction : action = preparedAction
      { arguments with argumentsJson := arguments.argumentsJson.sortKeys }
      ("action_" ++ reading.uuid 0) (reading.utcNow 0))
    (hafter : after = appendWorkflowEvent
      { db with externalActions := db.externalActions.insert (runId, stepId) action } runId
      "external_action.prepared" (preparedPayload stepId action) (reading.utcNow 1))
  | beginDispatch (runId stepId attempt : String) (token : Option String)
    (action : ExternalActionRow) (step : ToolCallRow) (run : RunRow)
    (hcall : call = .beginExternalActionDispatch runId stepId attempt token)
    (hfind : db.externalActions.find (runId, stepId) = some action)
    (hprepared : action.status = .prepared)
    (hrun : db.runs.find runId = some run) (hrunning : run.status = .running)
    (hflag : run.cancelRequested = false)
    (hstep : db.toolCalls.find (runId, stepId) = some step) (hheld : step.heldBy attempt = true)
    (hafter : after = recordDispatch db reading runId stepId action false)
  | retryDispatch (runId stepId previous attempt : String) (token : Option String)
    (action : ExternalActionRow) (step : ToolCallRow)
    (hcall : call = .retryExternalActionDispatch runId stepId previous attempt token)
    (hfind : db.externalActions.find (runId, stepId) = some action)
    (hdispatching : action.status = .dispatching) (hmode : action.retryMode ≠ .unsafeRetry)
    (hprevious : action.dispatchToken = some previous)
    (hstep : db.toolCalls.find (runId, stepId) = some step) (hheld : step.heldBy attempt = true)
    (hafter : after = recordDispatch db reading runId stepId action true)
  | settle (settlement : Settlement) (outcome : ExternalActionOutcome)
    (action : ExternalActionRow) (step : ToolCallRow)
    (hcall : call.settlement = some settlement)
    (hchecked : checkedOutcome settlement.outcome = .ok outcome)
    (hfind : db.externalActions.find (settlement.runId, settlement.stepId) = some action)
    (hdispatching : action.status = .dispatching)
    (htoken : action.dispatchToken = some settlement.dispatchToken)
    (hstep : db.toolCalls.find (settlement.runId, settlement.stepId) = some step)
    (hheld : step.heldBy settlement.toolAttemptToken = true)
    (hafter : after = recordOutcome db reading settlement.runId settlement.stepId action step
      outcome)
  | appendEvent (runId eventType : String) (payload : Payload) (token : Option String)
    (execution : ExecutionRow)
    (hcall : call = .appendEvent runId eventType payload token)
    (hexecution : db.executions.find runId = some execution)
    (hafter : after = appendWorkflowEvent db runId eventType payload (reading.utcNow 0))

/-! ### One lemma for each operation -/

theorem change_of_createOrGetExecution {db after : Database} {reading : Reading}
    {runId workflowType inputHash : String} {token : Option String} {reply : ExecutionClaimResult}
    (hok : createOrGetExecution db reading runId workflowType inputHash token =
      .ok (reply, after)) :
    WorkflowChange db reading (.createOrGetExecution runId workflowType inputHash token)
      after := by
  unfold createOrGetExecution at hok
  obtain ⟨-, hok⟩ := fenced_eq_ok hok
  split at hok
  · obtain ⟨-, rfl⟩ := Prod.mk.inj (Except.ok.inj hok)
    exact .same rfl
  · next hnone =>
    obtain ⟨-, rfl⟩ := Prod.mk.inj (Except.ok.inj hok)
    exact .createExecution runId workflowType inputHash token rfl hnone rfl

theorem change_of_markRunning {db after : Database} {reading : Reading} {runId : String}
    {token : Option String} {reply : ExecutionRow}
    (hok : markRunning db reading runId token = .ok (reply, after)) :
    WorkflowChange db reading (.markRunning runId token) after := by
  unfold markRunning at hok
  obtain ⟨-, hok⟩ := fenced_eq_ok hok
  split at hok
  · cases hok
  · next row hfind =>
    simp only at hok
    split_ifs at hok with hpending
    · obtain ⟨-, rfl⟩ := Prod.mk.inj (Except.ok.inj hok)
      exact .startExecution runId token row rfl hfind hpending rfl
    · obtain ⟨-, rfl⟩ := Prod.mk.inj (Except.ok.inj hok)
      exact .same rfl

theorem change_of_finalizeExecution {db after : Database} {reading : Reading}
    {call : WorkflowCall} {runId eventType : String} {status : WorkflowStatus}
    {result : Option Json} {code token : Option String} {reply : ExecutionRow}
    (hcall : call.verdict = some (runId, status, eventType, result, code))
    (hok : finalizeExecution db reading runId status result code eventType token =
      .ok (reply, after)) :
    WorkflowChange db reading call after := by
  unfold finalizeExecution at hok
  obtain ⟨-, hok⟩ := fenced_eq_ok hok
  split at hok
  · cases hok
  · next row hfind =>
    simp only at hok
    split_ifs at hok with hrunning
    · obtain ⟨-, rfl⟩ := Prod.mk.inj (Except.ok.inj hok)
      exact .finalizeExecution runId status eventType result code row hcall hfind hrunning rfl
    · obtain ⟨-, rfl⟩ := Prod.mk.inj (Except.ok.inj hok)
      exact .same rfl

theorem change_of_copyStep {db after : Database} {reading : Reading}
    {source target stepId toolName inputHash : String} {token : Option String}
    {sourceStep : ToolCallRow} {execution : ExecutionRow} {reply : StepReuseResult}
    (hexecution : db.executions.find target = some execution)
    (hrunning : execution.status = .running)
    (hok : copyStep db reading source target stepId toolName inputHash sourceStep =
      .ok (reply, after)) :
    WorkflowChange db reading (.reuseCompletedStep source target stepId toolName inputHash token)
      after := by
  unfold copyStep at hok
  split_ifs at hok
  · obtain ⟨-, rfl⟩ := Prod.mk.inj (Except.ok.inj hok)
    exact .same rfl
  · split at hok
    · split_ifs at hok
      · obtain ⟨-, rfl⟩ := Prod.mk.inj (Except.ok.inj hok)
        exact .same rfl
      · obtain ⟨-, rfl⟩ := Prod.mk.inj (Except.ok.inj hok)
        exact .same rfl
    · next hnone =>
      simp only at hok
      split_ifs at hok
      obtain ⟨-, rfl⟩ := Prod.mk.inj (Except.ok.inj hok)
      exact .reuseStep source target stepId toolName inputHash token _ execution rfl hexecution
        hrunning hnone rfl rfl

theorem change_of_reuseCompletedStep {db after : Database} {reading : Reading}
    {source target stepId toolName inputHash : String} {token : Option String}
    {reply : StepReuseResult}
    (hok : reuseCompletedStep db reading source target stepId toolName inputHash token =
      .ok (reply, after)) :
    WorkflowChange db reading (.reuseCompletedStep source target stepId toolName inputHash token)
      after := by
  unfold reuseCompletedStep at hok
  split_ifs at hok
  obtain ⟨-, hok⟩ := fenced_eq_ok hok
  unfold reuseFenced at hok
  split at hok
  · cases hok
  · cases hok
  · next sourceExecution execution hsource hexecution =>
    split_ifs at hok with htypes hreplayable hrunning
    split at hok
    · obtain ⟨-, rfl⟩ := Prod.mk.inj (Except.ok.inj hok)
      exact .same rfl
    · exact change_of_copyStep hexecution (not_not.mp hrunning) hok

theorem change_of_claimStep {db after : Database} {reading : Reading}
    {runId stepId toolName inputHash : String} {maxAttempts : Nat} {token : Option String}
    {reply : ClaimResult}
    (hok : claimStep db reading runId stepId toolName inputHash maxAttempts token =
      .ok (reply, after)) :
    WorkflowChange db reading (.claimStep runId stepId toolName inputHash maxAttempts token)
      after := by
  unfold claimStep at hok
  split_ifs at hok
  obtain ⟨-, hok⟩ := fenced_eq_ok hok
  split at hok
  · cases hok
  · next execution hexecution =>
    split at hok
    · next hnone =>
      simp only [Store.claimFresh] at hok
      split_ifs at hok
      obtain ⟨-, rfl⟩ := Prod.mk.inj (Except.ok.inj hok)
      exact .claimFresh runId stepId toolName inputHash maxAttempts token _ rfl hexecution hnone
        rfl
    · next previous hfind =>
      split_ifs at hok with htool hinput hcompleted hrunning hbudget
      · obtain ⟨-, rfl⟩ := Prod.mk.inj (Except.ok.inj hok)
        exact .same rfl
      · obtain ⟨-, rfl⟩ := Prod.mk.inj (Except.ok.inj hok)
        exact .same rfl
      · obtain ⟨-, rfl⟩ := Prod.mk.inj (Except.ok.inj hok)
        exact .same rfl
      · obtain ⟨-, rfl⟩ := Prod.mk.inj (Except.ok.inj hok)
        exact .same rfl
      · obtain ⟨-, rfl⟩ := Prod.mk.inj (Except.ok.inj hok)
        exact .same rfl
      · simp only [Store.claimRetry] at hok
        split_ifs at hok with hfailed
        · obtain ⟨-, rfl⟩ := Prod.mk.inj (Except.ok.inj hok)
          exact .same rfl
        · obtain ⟨-, rfl⟩ := Prod.mk.inj (Except.ok.inj hok)
          exact .claimRetry runId stepId toolName inputHash maxAttempts token previous rfl hfind
            (not_not.mp hfailed) (not_le.mp hbudget) rfl

theorem finalizeStep_eq_ok {db after : Database} {reading : Reading}
    {runId stepId attempt : String} {status : ToolCallStatus} {result : Option Json}
    {code token : Option String} {eventType outcome : String} {reply : ToolCallRow}
    (hok : finalizeStep db reading runId stepId attempt status result code eventType outcome token =
      .ok (reply, after)) :
    ∃ row, db.toolCalls.find (runId, stepId) = some row ∧ row.heldBy attempt = true ∧
      after = appendWorkflowEvent
        (updateStep db runId stepId fun _ ↦ finishedStep row status result code (reading.utcNow 0))
        runId eventType
        (stepFinishedPayload stepId (finishedStep row status result code (reading.utcNow 0))
          outcome) (reading.utcNow 1) := by
  unfold finalizeStep at hok
  obtain ⟨-, hok⟩ := fenced_eq_ok hok
  split at hok
  · cases hok
  · next row hrow =>
    obtain ⟨-, rfl⟩ := Prod.mk.inj (Except.ok.inj hok)
    rw [Option.filter_eq_some_iff] at hrow
    exact ⟨row, hrow.1, hrow.2, rfl⟩

theorem change_of_completeStep {db after : Database} {reading : Reading}
    {runId stepId attempt : String} {result : Json} {token : Option String} {reply : ToolCallRow}
    (hok : completeStep db reading runId stepId attempt result token = .ok (reply, after)) :
    WorkflowChange db reading (.completeStep runId stepId attempt result token) after := by
  obtain ⟨row, hfind, hheld, hafter⟩ := finalizeStep_eq_ok hok
  exact .finishStep runId stepId attempt token row _ _ _ _ _
    (.inl ⟨result, rfl, rfl, rfl, rfl, rfl, rfl⟩) hfind hheld hafter

theorem change_of_failStep {db after : Database} {reading : Reading}
    {runId stepId attempt code : String} {token : Option String} {reply : ToolCallRow}
    (hok : failStep db reading runId stepId attempt code token = .ok (reply, after)) :
    WorkflowChange db reading (.failStep runId stepId attempt code token) after := by
  obtain ⟨row, hfind, hheld, hafter⟩ := finalizeStep_eq_ok hok
  exact .finishStep runId stepId attempt token row _ _ _ _ _
    (.inr ⟨code, rfl, rfl, rfl, rfl, rfl, rfl⟩) hfind hheld hafter

theorem change_of_recoverInterruptedStep {db after : Database} {reading : Reading}
    {runId stepId : String} {token : Option String} {reply : ToolCallRow}
    (hok : recoverInterruptedStep db reading runId stepId token = .ok (reply, after)) :
    WorkflowChange db reading (.recoverInterruptedStep runId stepId token) after := by
  unfold recoverInterruptedStep at hok
  obtain ⟨-, hok⟩ := fenced_eq_ok hok
  split at hok
  · cases hok
  · next row hfind =>
    simp only at hok
    split_ifs at hok with hrunning
    · obtain ⟨-, rfl⟩ := Prod.mk.inj (Except.ok.inj hok)
      exact .recoverStep runId stepId token row rfl hfind hrunning rfl
    · obtain ⟨-, rfl⟩ := Prod.mk.inj (Except.ok.inj hok)
      exact .same rfl

theorem change_of_insertPrepared {db after : Database} {reading : Reading}
    {runId stepId attempt : String} {arguments : ExternalActionIdentity} {token : Option String}
    {run : RunRow} {step : ToolCallRow} {reply : ExternalActionPrepareResult}
    (hrun : db.runs.find runId = some run)
    (hstep : db.toolCalls.find (runId, stepId) = some step) (hheld : step.heldBy attempt = true)
    (hnone : db.externalActions.find (runId, stepId) = none)
    (hok : insertPrepared db reading runId stepId
      { arguments with argumentsJson := arguments.argumentsJson.sortKeys } =
        .ok (reply, after)) :
    WorkflowChange db reading (.prepareExternalAction runId stepId attempt arguments token)
      after := by
  unfold insertPrepared at hok
  simp only at hok
  split_ifs at hok with hkey hid
  · obtain ⟨-, rfl⟩ := Prod.mk.inj (Except.ok.inj hok)
    exact .same rfl
  · obtain ⟨-, rfl⟩ := Prod.mk.inj (Except.ok.inj hok)
    simp only [List.any_eq_true, not_exists, not_and, Prod.forall, Table.mem_rows_iff,
      beq_iff_eq] at hkey hid
    refine .prepareAction runId stepId attempt arguments token step run _ rfl hrun hstep hheld
      hnone ?_ ?_ rfl rfl
    · intro key row hfind
      exact hkey key.1 key.2 row hfind
    · intro key row hfind
      exact hid key.1 key.2 row hfind

theorem change_of_prepareExternalAction {db after : Database} {reading : Reading}
    {runId stepId attempt : String} {arguments : ExternalActionIdentity} {token : Option String}
    {reply : ExternalActionPrepareResult}
    (hok : prepareExternalAction db reading runId stepId attempt arguments token =
      .ok (reply, after)) :
    WorkflowChange db reading (.prepareExternalAction runId stepId attempt arguments token)
      after := by
  unfold prepareExternalAction at hok
  split at hok
  · simp only at hok
    split_ifs at hok
    obtain ⟨-, hok⟩ := fenced_eq_ok hok
    unfold prepareFenced at hok
    split at hok
    · cases hok
    · next run hrun =>
      split_ifs at hok
      · obtain ⟨-, rfl⟩ := Prod.mk.inj (Except.ok.inj hok)
        exact .same rfl
      · split at hok
        · cases hok
        · cases hok
        · next execution step hexecution hstep =>
          split_ifs at hok with hmismatch hheld
          · obtain ⟨-, rfl⟩ := Prod.mk.inj (Except.ok.inj hok)
            exact .same rfl
          · obtain ⟨-, rfl⟩ := Prod.mk.inj (Except.ok.inj hok)
            exact .same rfl
          · split at hok
            · split_ifs at hok
              · obtain ⟨-, rfl⟩ := Prod.mk.inj (Except.ok.inj hok)
                exact .same rfl
              · obtain ⟨-, rfl⟩ := Prod.mk.inj (Except.ok.inj hok)
                exact .same rfl
            · next hnone =>
              exact change_of_insertPrepared hrun hstep (by simpa using hheld) hnone hok
  · cases hok

theorem assertCurrentToolAttempt_eq_ok {db : Database} {runId stepId attempt : String}
    {step : ToolCallRow} (hok : assertCurrentToolAttempt db runId stepId attempt = .ok step) :
    db.toolCalls.find (runId, stepId) = some step ∧ step.heldBy attempt = true := by
  unfold assertCurrentToolAttempt at hok
  split at hok
  · cases hok
  · next found hfind =>
    split_ifs at hok with hheld
    obtain rfl := Except.ok.inj hok
    exact ⟨hfind, hheld⟩

theorem change_of_beginExternalActionDispatch {db after : Database} {reading : Reading}
    {runId stepId attempt : String} {token : Option String} {reply : ExternalActionDispatchResult}
    (hok : beginExternalActionDispatch db reading runId stepId attempt token =
      .ok (reply, after)) :
    WorkflowChange db reading (.beginExternalActionDispatch runId stepId attempt token) after := by
  unfold beginExternalActionDispatch at hok
  obtain ⟨-, hok⟩ := fenced_eq_ok hok
  split at hok
  · cases hok
  · next action hfind =>
    split_ifs at hok with hterminal hdispatching
    · obtain ⟨-, rfl⟩ := Prod.mk.inj (Except.ok.inj hok)
      exact .same rfl
    · obtain ⟨-, rfl⟩ := Prod.mk.inj (Except.ok.inj hok)
      exact .same rfl
    · split at hok
      · cases hok
      · next run hrun =>
        split_ifs at hok with hcancelled
        · obtain ⟨-, rfl⟩ := Prod.mk.inj (Except.ok.inj hok)
          exact .same rfl
        · split at hok
          · cases hok
          · next step hattempt =>
            obtain ⟨-, rfl⟩ := Prod.mk.inj (Except.ok.inj hok)
            obtain ⟨hstep, hheld⟩ := assertCurrentToolAttempt_eq_ok hattempt
            rw [not_or, not_not, Bool.not_eq_true] at hcancelled
            have hprepared : action.status = .prepared := by
              cases hstatus : action.status <;> simp_all [ExternalActionStatus.isTerminal]
            exact .beginDispatch runId stepId attempt token action step run rfl hfind hprepared
              hrun hcancelled.1 hcancelled.2 hstep hheld rfl

theorem change_of_retryExternalActionDispatch {db after : Database} {reading : Reading}
    {runId stepId previous attempt : String} {token : Option String}
    {reply : ExternalActionDispatchResult}
    (hok : retryExternalActionDispatch db reading runId stepId previous attempt token =
      .ok (reply, after)) :
    WorkflowChange db reading (.retryExternalActionDispatch runId stepId previous attempt token)
      after := by
  unfold retryExternalActionDispatch at hok
  obtain ⟨-, hok⟩ := fenced_eq_ok hok
  split at hok
  · cases hok
  · next action hfind =>
    split_ifs at hok with hterminal hdispatching hmode htoken
    · obtain ⟨-, rfl⟩ := Prod.mk.inj (Except.ok.inj hok)
      exact .same rfl
    · obtain ⟨-, rfl⟩ := Prod.mk.inj (Except.ok.inj hok)
      exact .same rfl
    · obtain ⟨-, rfl⟩ := Prod.mk.inj (Except.ok.inj hok)
      exact .same rfl
    · split at hok
      · cases hok
      · next step hattempt =>
        obtain ⟨-, rfl⟩ := Prod.mk.inj (Except.ok.inj hok)
        obtain ⟨hstep, hheld⟩ := assertCurrentToolAttempt_eq_ok hattempt
        exact .retryDispatch runId stepId previous attempt token action step rfl hfind
          (not_not.mp hdispatching) hmode (not_not.mp htoken) hstep hheld rfl

theorem change_of_finalizeDispatched {db after : Database} {reading : Reading}
    {call : WorkflowCall} {settlement : Settlement} {outcome : ExternalActionOutcome}
    {mode : Option ExternalActionRetryMode} {reply : ExternalActionRow}
    (hcall : call.settlement = some settlement)
    (hchecked : checkedOutcome settlement.outcome = .ok outcome)
    (hok : finalizeDispatched db reading settlement.runId settlement.stepId
      settlement.dispatchToken settlement.toolAttemptToken outcome mode = .ok (reply, after)) :
    WorkflowChange db reading call after := by
  unfold finalizeDispatched at hok
  split at hok
  · cases hok
  · next action hfind =>
    split_ifs at hok with hmode hterminal hstale
    · split at hok
      · cases hok
      · split_ifs at hok
        obtain ⟨-, rfl⟩ := Prod.mk.inj (Except.ok.inj hok)
        exact .same rfl
    · split at hok
      · cases hok
      · next step hattempt =>
        obtain ⟨-, rfl⟩ := Prod.mk.inj (Except.ok.inj hok)
        obtain ⟨hstep, hheld⟩ := assertCurrentToolAttempt_eq_ok hattempt
        rw [not_or, not_not, not_not] at hstale
        exact .settle settlement outcome action step hcall hchecked hfind hstale.1 hstale.2 hstep
          hheld rfl

theorem change_of_finalizeProviderOutcome {db after : Database} {reading : Reading}
    {call : WorkflowCall} {settlement : Settlement} {reply : ExternalActionRow}
    (hcall : call.settlement = some settlement)
    (hok : finalizeProviderOutcome db reading settlement.runId settlement.stepId
      settlement.dispatchToken settlement.toolAttemptToken settlement.outcome =
        .ok (reply, after)) :
    WorkflowChange db reading call after := by
  unfold finalizeProviderOutcome at hok
  split at hok
  · cases hok
  · next outcome hchecked => exact change_of_finalizeDispatched hcall hchecked hok

theorem change_of_finalizeAttemptOutcome {db after : Database} {reading : Reading}
    {call : WorkflowCall} {settlement : Settlement} {mode : Option ExternalActionRetryMode}
    {token : Option String} {reply : ExternalActionRow}
    (hcall : call.settlement = some settlement)
    (hok : finalizeAttemptOutcome db reading settlement.runId settlement.stepId
      settlement.dispatchToken settlement.toolAttemptToken settlement.outcome mode token =
        .ok (reply, after)) :
    WorkflowChange db reading call after := by
  unfold finalizeAttemptOutcome at hok
  split at hok
  · cases hok
  · next outcome hchecked =>
    exact change_of_finalizeDispatched hcall hchecked (fenced_eq_ok hok).2

theorem change_of_appendEvent {db after : Database} {reading : Reading}
    {runId eventType : String} {payload : Payload} {token : Option String} {reply : EventRow}
    (hok : appendEvent db reading runId eventType payload token = .ok (reply, after)) :
    WorkflowChange db reading (.appendEvent runId eventType payload token) after := by
  unfold appendEvent at hok
  obtain ⟨-, hok⟩ := fenced_eq_ok hok
  split at hok
  · cases hok
  · next execution hexecution =>
    obtain ⟨-, rfl⟩ := Prod.mk.inj (Except.ok.inj hok)
    exact .appendEvent runId eventType payload token execution rfl hexecution rfl

/-- The list of changes is exhaustive. -/
theorem workflowChange_of_perform {db after : Database} {reading : Reading} {call : WorkflowCall}
    {reply : call.Reply} (hok : call.perform db reading = .ok (reply, after)) :
    WorkflowChange db reading call after := by
  cases call with
  | createOrGetExecution => exact change_of_createOrGetExecution hok
  | markRunning => exact change_of_markRunning hok
  | finalizeReady | finalizeBlocked | finalizeFailed => exact change_of_finalizeExecution rfl hok
  | reuseCompletedStep => exact change_of_reuseCompletedStep hok
  | claimStep => exact change_of_claimStep hok
  | completeStep => exact change_of_completeStep hok
  | failStep => exact change_of_failStep hok
  | recoverInterruptedStep => exact change_of_recoverInterruptedStep hok
  | prepareExternalAction => exact change_of_prepareExternalAction hok
  | beginExternalActionDispatch => exact change_of_beginExternalActionDispatch hok
  | retryExternalActionDispatch => exact change_of_retryExternalActionDispatch hok
  | finalizeExternalActionSucceeded | finalizeExternalActionFailed
  | finalizeExternalActionOutcomeUnknown => exact change_of_finalizeProviderOutcome rfl hok
  | finalizeExternalActionReconciliationUnknown | finalizeUnsafeInterruptedAction =>
    exact change_of_finalizeAttemptOutcome rfl hok
  | appendEvent => exact change_of_appendEvent hok
  | getExecution | getStep | listSteps | getExternalAction | listExternalActions
  | hasExternalActionRequiringReconciliation | listEvents =>
    simp only [WorkflowCall.perform] at hok
    exact .same (reads_eq_ok hok).2

/-- A call that returns passed the fence of the lease it carries. -/
theorem passedFence_of_perform {db after : Database} {reading : Reading} {call : WorkflowCall}
    {reply : call.Reply} (hok : call.perform db reading = .ok (reply, after)) :
    call.PassedFence db reading := by
  intro runId token hlease
  cases call with
  | createOrGetExecution | markRunning | finalizeReady | finalizeBlocked | finalizeFailed
  | completeStep | failStep | recoverInterruptedStep | beginExternalActionDispatch
  | retryExternalActionDispatch | appendEvent =>
    obtain ⟨rfl, rfl⟩ := Prod.mk.inj (Option.some.inj hlease)
    exact (fenced_eq_ok hok).1
  | reuseCompletedStep | claimStep =>
    obtain ⟨rfl, rfl⟩ := Prod.mk.inj (Option.some.inj hlease)
    simp only [WorkflowCall.perform, Store.reuseCompletedStep, Store.claimStep] at hok
    split_ifs at hok
    exact (fenced_eq_ok hok).1
  | prepareExternalAction =>
    obtain ⟨rfl, rfl⟩ := Prod.mk.inj (Option.some.inj hlease)
    simp only [WorkflowCall.perform, Store.prepareExternalAction] at hok
    split at hok
    · split_ifs at hok
      exact (fenced_eq_ok hok).1
    · cases hok
  | finalizeExternalActionReconciliationUnknown | finalizeUnsafeInterruptedAction =>
    obtain ⟨rfl, rfl⟩ := Prod.mk.inj (Option.some.inj hlease)
    simp only [WorkflowCall.perform, Store.finalizeExternalActionReconciliationUnknown,
      Store.finalizeUnsafeInterruptedAction, finalizeAttemptOutcome] at hok
    split at hok
    · cases hok
    · exact (fenced_eq_ok hok).1
  | getExecution | getStep | listSteps | finalizeExternalActionSucceeded
  | finalizeExternalActionFailed | finalizeExternalActionOutcomeUnknown | getExternalAction
  | listExternalActions | hasExternalActionRequiringReconciliation | listEvents => cases hlease

/-- The workflow store leaves the Run tables alone. -/
theorem sameRunTables_of_workflow {db after : Database} {reading : Reading} {call : WorkflowCall}
    (hchange : WorkflowChange db reading call after) : SameRunTables db after := by
  cases hchange <;> subst_vars <;> exact ⟨rfl, rfl, rfl⟩

/-! ### The memory store -/

/-- The tables of the other two stores are left as they were. -/
def OnlyMemory (db after : Database) : Prop := SameRunTables db after ∧ SameLedger db after

theorem OnlyMemory.refl (db : Database) : OnlyMemory db db := ⟨⟨rfl, rfl, rfl⟩, .refl db⟩

theorem onlyMemory_of_upsertMemory {db after : Database} {reading : Reading}
    {scope : MemoryScope} {write : MemoryWrite} {runId threadId actor : String}
    {reply : MemoryMutationResult}
    (hok : upsertMemory db reading scope write runId threadId actor = .ok (reply, after)) :
    OnlyMemory db after := by
  unfold upsertMemory at hok
  simp only at hok
  split at hok
  all_goals
    split_ifs at hok
    all_goals
      obtain ⟨-, rfl⟩ := Prod.mk.inj (Except.ok.inj hok)
      exact .refl db

theorem onlyMemory_of_sealSnapshot {db after : Database} {reading : Reading} {runId : String}
    {scope : MemoryScope} {keys : Option (List String)} {reply : MemorySnapshot}
    (hok : sealSnapshot db reading runId scope keys = .ok (reply, after)) :
    OnlyMemory db after := by
  unfold sealSnapshot at hok
  split at hok
  · split at hok
    · cases hok
    obtain ⟨-, rfl⟩ := Prod.mk.inj (Except.ok.inj hok)
    exact .refl db
  · obtain ⟨-, rfl⟩ := Prod.mk.inj (Except.ok.inj hok)
    exact .refl db

/-- The memory store leaves the tables of the others alone. -/
theorem onlyMemory_of_memory {db after : Database} {reading : Reading} {call : MemoryCall}
    {reply : call.Reply} (hok : call.perform db reading = .ok (reply, after)) :
    OnlyMemory db after := by
  cases call with
  | upsert =>
    simp only [MemoryCall.perform, Store.upsert] at hok
    split_ifs at hok
    exact onlyMemory_of_upsertMemory hok
  | upsertFromRun =>
    simp only [MemoryCall.perform, Store.upsertFromRun] at hok
    split_ifs at hok
    split at hok
    · cases hok
    · split at hok
      · cases hok
      · exact onlyMemory_of_upsertMemory hok
  | forgetMemory =>
    simp only [MemoryCall.perform, Store.forgetMemory] at hok
    split at hok
    · cases hok
    · split_ifs at hok
      · obtain ⟨-, rfl⟩ := Prod.mk.inj (Except.ok.inj hok)
        exact .refl db
      · obtain ⟨-, rfl⟩ := Prod.mk.inj (Except.ok.inj hok)
        exact .refl db
  | getOrCreateRunSnapshot =>
    simp only [MemoryCall.perform, Store.getOrCreateRunSnapshot] at hok
    split_ifs at hok
    split at hok
    · cases hok
    · exact onlyMemory_of_sealSnapshot hok
  | getOrCreateRunSnapshotForRun =>
    simp only [MemoryCall.perform, Store.getOrCreateRunSnapshotForRun] at hok
    split_ifs at hok
    split at hok
    · cases hok
    · split at hok
      · cases hok
      · exact onlyMemory_of_sealSnapshot hok
  | listEventsForRun =>
    simp only [MemoryCall.perform] at hok
    rw [(reads_eq_ok hok).2]
    exact .refl db

/-! ### One request -/

theorem apply_of_error {hasher : Hasher} {db : Database} {request : Request} {error : StoreError}
    (herror : request.call.perform hasher db request.reading = .error error) :
    request.apply hasher db = db := by
  unfold Request.apply
  rw [herror]

theorem apply_of_ok {hasher : Hasher} {db after : Database} {request : Request}
    {reply : request.call.Reply}
    (hok : request.call.perform hasher db request.reading = .ok (reply, after)) :
    request.apply hasher db = after := by
  unfold Request.apply
  rw [hok]

/-- A request changes the Run tables only through a call of the Run store. -/
theorem runTables_of_apply (hasher : Hasher) (db : Database) (request : Request) :
    SameRunTables db (request.apply hasher db) ∨
      ∃ call, request.call = .run call ∧
        RunChange db request.reading call (request.apply hasher db) := by
  obtain ⟨reading, call⟩ := request
  cases hperform : call.perform hasher db reading with
  | error error =>
    left
    rw [apply_of_error hperform]
    exact ⟨rfl, rfl, rfl⟩
  | ok result =>
    obtain ⟨reply, after⟩ := result
    rw [apply_of_ok hperform]
    cases call with
    | run call => exact .inr ⟨call, rfl, change_of_perform hperform⟩
    | workflow call =>
      exact .inl (sameRunTables_of_workflow (workflowChange_of_perform hperform))
    | memory call => exact .inl (onlyMemory_of_memory hperform).1

end AgentRuntime.Store
