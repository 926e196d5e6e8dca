import AgentRuntime.Store.LedgerIdentity

/-!
# What the replies of the workflow store show

A reply carries the row that the transaction left behind. The lemmas say so for each operation whose
row a caller goes on to use: the row is stored, in the status that the outcome names.
-/

set_option autoImplicit false
set_option relaxedAutoImplicit false

namespace AgentRuntime.Store

open Library

variable {db after : Database} {reading : Reading} {runId stepId : String}

/-! ### Executions and steps -/

theorem stored_of_createOrGetExecution {workflowType inputHash : String} {token : Option String}
    {reply : ExecutionClaimResult}
    (hok : createOrGetExecution db reading runId workflowType inputHash token =
      .ok (reply, after)) : after.executions.find runId = some reply.execution := by
  unfold createOrGetExecution at hok
  obtain ⟨-, hok⟩ := fenced_eq_ok hok
  split at hok
  · next existing hfind =>
    obtain ⟨rfl, rfl⟩ := Prod.mk.inj (Except.ok.inj hok)
    have hrow : (resolveExecutionConflict existing workflowType inputHash).execution =
        existing := by
      unfold resolveExecutionConflict
      split_ifs <;> rfl
    rw [hrow, hfind]
  · next hnone =>
    obtain ⟨rfl, rfl⟩ := Prod.mk.inj (Except.ok.inj hok)
    exact (Table.find_insert_of_fresh _ _ _ _ hnone).trans (if_pos rfl)

/-- An update of a stored step is stored. -/
theorem find_updateStep {row next : ToolCallRow}
    (hfind : db.toolCalls.find (runId, stepId) = some row) :
    (updateStep db runId stepId fun _ ↦ next).toolCalls.find (runId, stepId) = some next := by
  refine (Table.find_modify _ _ _ _).trans ?_
  rw [if_pos rfl, hfind]
  rfl

theorem stored_of_claimStep {toolName inputHash : String} {maxAttempts : Nat}
    {token : Option String} {reply : ClaimResult}
    (hok : claimStep db reading runId stepId toolName inputHash maxAttempts token =
      .ok (reply, after)) :
    after.toolCalls.find (runId, stepId) = some reply.step ∧
      (reply.outcome = .cached → reply.step.status = .completed) := by
  unfold claimStep at hok
  split_ifs at hok
  obtain ⟨-, hok⟩ := fenced_eq_ok hok
  split at hok
  · cases hok
  split at hok
  · next hnone =>
    unfold claimFresh at hok
    dsimp only at hok
    split_ifs at hok
    obtain ⟨rfl, rfl⟩ := Prod.mk.inj (Except.ok.inj hok)
    exact ⟨(Table.find_insert_of_fresh _ _ _ _ hnone).trans (if_pos rfl),
      fun hcached ↦ by cases hcached⟩
  · next record hfind =>
    split_ifs at hok with _ _ hcompleted
    · obtain ⟨rfl, rfl⟩ := Prod.mk.inj (Except.ok.inj hok)
      exact ⟨hfind, fun hcached ↦ by cases hcached⟩
    · obtain ⟨rfl, rfl⟩ := Prod.mk.inj (Except.ok.inj hok)
      exact ⟨hfind, fun hcached ↦ by cases hcached⟩
    · obtain ⟨rfl, rfl⟩ := Prod.mk.inj (Except.ok.inj hok)
      exact ⟨hfind, fun _ ↦ hcompleted⟩
    · obtain ⟨rfl, rfl⟩ := Prod.mk.inj (Except.ok.inj hok)
      exact ⟨hfind, fun hcached ↦ by cases hcached⟩
    · obtain ⟨rfl, rfl⟩ := Prod.mk.inj (Except.ok.inj hok)
      exact ⟨hfind, fun hcached ↦ by cases hcached⟩
    · unfold claimRetry at hok
      dsimp only at hok
      split_ifs at hok
      · obtain ⟨rfl, rfl⟩ := Prod.mk.inj (Except.ok.inj hok)
        exact ⟨hfind, fun hcached ↦ by cases hcached⟩
      · obtain ⟨rfl, rfl⟩ := Prod.mk.inj (Except.ok.inj hok)
        exact ⟨find_updateStep hfind, fun hcached ↦ by cases hcached⟩

theorem stored_of_completeStep {attempt : String} {result : Json} {token : Option String}
    {reply : ToolCallRow}
    (hok : completeStep db reading runId stepId attempt result token = .ok (reply, after)) :
    ∃ row, after.toolCalls.find (runId, stepId) = some row ∧ row.status = .completed := by
  obtain ⟨row, hfind, -, rfl⟩ := finalizeStep_eq_ok hok
  exact ⟨_, find_updateStep hfind, rfl⟩

theorem mem_listSteps (db : Database) (runId stepId : String) (row : ToolCallRow) :
    (stepId, row) ∈ listSteps db runId ↔ db.toolCalls.find (runId, stepId) = some row :=
  mem_sortedRows db.toolCalls runId stepId row _

theorem mem_listExternalActions (db : Database) (runId stepId : String)
    (row : ExternalActionRow) : (stepId, row) ∈ listExternalActions db runId ↔
      db.externalActions.find (runId, stepId) = some row :=
  mem_sortedRows db.externalActions runId stepId row _

/-- A listing names each step once. -/
theorem nodup_listSteps (db : Database) (runId : String) :
    ((listSteps db runId).map Prod.fst).Nodup := by
  unfold listSteps
  refine (((List.perm_insertionSort _ _).map Prod.fst).nodup_iff).mpr ?_
  rw [List.map_map]
  have hkeys := db.toolCalls.nodup
  refine List.Nodup.of_map (fun stepId ↦ (runId, stepId)) ?_
  rw [List.map_map]
  have hfilter : (db.toolCalls.rows.filter fun entry ↦ entry.1.1 == runId).map
      ((fun stepId ↦ (runId, stepId)) ∘ Prod.fst ∘ fun entry ↦ (entry.1.2, entry.2)) =
        (db.toolCalls.rows.filter fun entry ↦ entry.1.1 == runId).map Prod.fst := by
    refine List.map_congr_left fun entry hmem ↦ ?_
    rw [List.mem_filter, beq_iff_eq] at hmem
    exact Prod.ext hmem.2.symm rfl
  rw [hfilter]
  exact hkeys.sublist (List.filter_sublist.map _)

/-! ### Events -/

theorem after_of_appendEvent {eventType : String} {payload : Payload} {token : Option String}
    {reply : EventRow}
    (hok : appendEvent db reading runId eventType payload token = .ok (reply, after)) :
    after = appendWorkflowEvent db runId eventType payload (reading.utcNow 0) := by
  unfold appendEvent at hok
  obtain ⟨-, hok⟩ := fenced_eq_ok hok
  split at hok
  · cases hok
  · exact (Prod.mk.inj (Except.ok.inj hok)).2.symm

/-! ### External actions -/

theorem stored_of_prepareExternalAction {attempt : String} {arguments : ExternalActionIdentity}
    {token : Option String} {reply : ExternalActionPrepareResult} {action : ExternalActionRow}
    (hok : prepareExternalAction db reading runId stepId attempt arguments token =
      .ok (reply, after)) (haction : reply.action = some action) :
    after.externalActions.find (runId, stepId) = some action := by
  unfold prepareExternalAction at hok
  split at hok
  · dsimp only at hok
    split_ifs at hok
    obtain ⟨-, hok⟩ := fenced_eq_ok hok
    unfold prepareFenced at hok
    split at hok
    · cases hok
    split_ifs at hok
    · obtain ⟨rfl, rfl⟩ := Prod.mk.inj (Except.ok.inj hok)
      cases haction
    split at hok
    · cases hok
    · cases hok
    split_ifs at hok
    · obtain ⟨rfl, rfl⟩ := Prod.mk.inj (Except.ok.inj hok)
      cases haction
    · obtain ⟨rfl, rfl⟩ := Prod.mk.inj (Except.ok.inj hok)
      cases haction
    split at hok
    · next existing hfind =>
      split_ifs at hok
      · obtain ⟨rfl, rfl⟩ := Prod.mk.inj (Except.ok.inj hok)
        exact hfind.trans haction
      · obtain ⟨rfl, rfl⟩ := Prod.mk.inj (Except.ok.inj hok)
        exact hfind.trans haction
    · next hnone =>
      unfold insertPrepared at hok
      dsimp only at hok
      split_ifs at hok
      · obtain ⟨rfl, rfl⟩ := Prod.mk.inj (Except.ok.inj hok)
        cases haction
      · obtain ⟨rfl, rfl⟩ := Prod.mk.inj (Except.ok.inj hok)
        obtain rfl := Option.some.inj haction
        exact (Table.find_insert_of_fresh _ _ _ _ hnone).trans (if_pos rfl)
  · cases hok

/-- A recorded dispatch is stored. -/
theorem find_recordDispatch {action : ExternalActionRow} (retry : Bool)
    (hfind : db.externalActions.find (runId, stepId) = some action) :
    (recordDispatch db reading runId stepId action retry).externalActions.find (runId, stepId) =
      some (dispatchedAction action ("dispatch_" ++ reading.uuid 0) (reading.utcNow 0)) := by
  rw [recordDispatch_find, if_pos rfl, hfind]
  rfl

theorem stored_of_beginExternalActionDispatch {attempt : String} {token : Option String}
    {reply : ExternalActionDispatchResult}
    (hok : beginExternalActionDispatch db reading runId stepId attempt token =
      .ok (reply, after)) : after.externalActions.find (runId, stepId) = some reply.action := by
  unfold beginExternalActionDispatch at hok
  obtain ⟨-, hok⟩ := fenced_eq_ok hok
  split at hok
  · cases hok
  · next action hfind =>
    split_ifs at hok
    · obtain ⟨rfl, rfl⟩ := Prod.mk.inj (Except.ok.inj hok)
      exact hfind
    · obtain ⟨rfl, rfl⟩ := Prod.mk.inj (Except.ok.inj hok)
      exact hfind
    split at hok
    · cases hok
    split_ifs at hok
    · obtain ⟨rfl, rfl⟩ := Prod.mk.inj (Except.ok.inj hok)
      exact hfind
    split at hok
    · cases hok
    · obtain ⟨rfl, rfl⟩ := Prod.mk.inj (Except.ok.inj hok)
      exact find_recordDispatch false hfind

theorem stored_of_retryExternalActionDispatch {previous attempt : String} {token : Option String}
    {reply : ExternalActionDispatchResult}
    (hok : retryExternalActionDispatch db reading runId stepId previous attempt token =
      .ok (reply, after)) : after.externalActions.find (runId, stepId) = some reply.action := by
  unfold retryExternalActionDispatch at hok
  obtain ⟨-, hok⟩ := fenced_eq_ok hok
  split at hok
  · cases hok
  · next action hfind =>
    split_ifs at hok
    · obtain ⟨rfl, rfl⟩ := Prod.mk.inj (Except.ok.inj hok)
      exact hfind
    · obtain ⟨rfl, rfl⟩ := Prod.mk.inj (Except.ok.inj hok)
      exact hfind
    · obtain ⟨rfl, rfl⟩ := Prod.mk.inj (Except.ok.inj hok)
      exact hfind
    split at hok
    · cases hok
    · obtain ⟨rfl, rfl⟩ := Prod.mk.inj (Except.ok.inj hok)
      exact find_recordDispatch true hfind

/-- The action of a step is in the status of an outcome, and so is the step. -/
def OutcomeStored (db : Database) (key : String × String) (outcome : ExternalActionOutcome) :
    Prop :=
  ∃ action step, db.externalActions.find key = some action ∧
    action.status = outcome.actionStatus ∧ db.toolCalls.find key = some step ∧
    step.status = outcome.toolStatus

/-- A finalizing call that returns left the action in the status it was asked for. -/
theorem stored_of_finalizeDispatched {dispatch attempt : String} {outcome : ExternalActionOutcome}
    {mode : Option ExternalActionRetryMode} {reply : ExternalActionRow}
    (hok : finalizeDispatched db reading runId stepId dispatch attempt outcome mode =
      .ok (reply, after)) : OutcomeStored after (runId, stepId) outcome := by
  unfold finalizeDispatched at hok
  split at hok
  · cases hok
  · next action hfind =>
    split_ifs at hok
    · split at hok
      · cases hok
      · next step hstep =>
        split_ifs at hok with hduplicate
        obtain ⟨-, rfl⟩ := Prod.mk.inj (Except.ok.inj hok)
        simp only [exactDuplicate, Bool.and_eq_true, beq_iff_eq] at hduplicate
        obtain ⟨⟨⟨⟨⟨⟨⟨⟨hstatus, -⟩, -⟩, -⟩, -⟩, htool⟩, -⟩, -⟩, -⟩ := hduplicate
        exact ⟨action, step, hfind, hstatus, hstep, htool⟩
    · split at hok
      · cases hok
      · next step hattempt =>
        obtain ⟨-, rfl⟩ := Prod.mk.inj (Except.ok.inj hok)
        obtain ⟨hstep, -⟩ := assertCurrentToolAttempt_eq_ok hattempt
        have haction := recordOutcome_find db reading runId stepId action step outcome
          (runId, stepId)
        have hsettled := recordOutcome_step db reading runId stepId action step outcome
          (runId, stepId)
        rw [if_pos rfl, hfind] at haction
        rw [if_pos rfl, hstep] at hsettled
        exact ⟨_, _, haction, rfl, hsettled, rfl⟩

/-- The checks change no status. -/
theorem outcomeStored_of_checked {key : String × String} {outcome checked : ExternalActionOutcome}
    (hchecked : checkedOutcome outcome = .ok checked) (hstored : OutcomeStored db key checked) :
    OutcomeStored db key outcome := by
  have htool : checked.toolStatus = outcome.toolStatus := by
    unfold checkedOutcome at hchecked
    split_ifs at hchecked
    · split at hchecked
      · rw [← Except.ok.inj hchecked]
      · cases hchecked
    · rw [← Except.ok.inj hchecked]
  obtain ⟨action, step, haction, hstatus, hstep, hfinished⟩ := hstored
  exact ⟨action, step, haction, hstatus.trans (checkedOutcome_status hchecked).1, hstep,
    hfinished.trans htool⟩

theorem stored_of_finalizeProviderOutcome {dispatch attempt : String}
    {outcome : ExternalActionOutcome} {reply : ExternalActionRow}
    (hok : finalizeProviderOutcome db reading runId stepId dispatch attempt outcome =
      .ok (reply, after)) : OutcomeStored after (runId, stepId) outcome := by
  unfold finalizeProviderOutcome at hok
  split at hok
  · cases hok
  · next checked hchecked =>
    exact outcomeStored_of_checked hchecked (stored_of_finalizeDispatched hok)

theorem stored_of_finalizeAttemptOutcome {dispatch attempt : String}
    {outcome : ExternalActionOutcome} {mode : Option ExternalActionRetryMode}
    {token : Option String} {reply : ExternalActionRow}
    (hok : finalizeAttemptOutcome db reading runId stepId dispatch attempt outcome mode token =
      .ok (reply, after)) : OutcomeStored after (runId, stepId) outcome := by
  unfold finalizeAttemptOutcome at hok
  split at hok
  · cases hok
  · next checked hchecked =>
    exact outcomeStored_of_checked hchecked (stored_of_finalizeDispatched (fenced_eq_ok hok).2)

/-- The five finalizing calls. -/
theorem stored_of_settlement {call : WorkflowCall} {settlement : Settlement} {reply : call.Reply}
    (hsettlement : call.settlement = some settlement)
    (hok : call.perform db reading = .ok (reply, after)) :
    OutcomeStored after (settlement.runId, settlement.stepId) settlement.outcome := by
  cases call with
  | finalizeExternalActionSucceeded | finalizeExternalActionFailed
  | finalizeExternalActionOutcomeUnknown =>
    obtain rfl := Option.some.inj hsettlement
    exact stored_of_finalizeProviderOutcome hok
  | finalizeExternalActionReconciliationUnknown | finalizeUnsafeInterruptedAction =>
    obtain rfl := Option.some.inj hsettlement
    exact stored_of_finalizeAttemptOutcome hok
  | _ => cases hsettlement

end AgentRuntime.Store
