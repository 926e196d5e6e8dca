import AgentRuntime.Store.ActionLedger

/-!
# What the workflow ledger never rewrites

Whoever calls the stores: an action keeps the identity it was prepared with, a step keeps its tool
and its input, a COMPLETED step and a terminal action are final, and an action that left PREPARED
carries the token of a dispatch. Unlike `LedgerInOrder` this asks nothing of the callers.
-/

set_option autoImplicit false
set_option relaxedAutoImplicit false

namespace AgentRuntime.Store

open Library

/-! ### Actions -/

/-- The row is of the same action. -/
structure SameAction (row next : ExternalActionRow) : Prop where
  actionId : next.actionId = row.actionId
  identity : externalActionIdentity next = externalActionIdentity row

theorem SameAction.refl (row : ExternalActionRow) : SameAction row row := ⟨rfl, rfl⟩

theorem SameAction.trans {row middle next : ExternalActionRow} (hfirst : SameAction row middle)
    (hsecond : SameAction middle next) : SameAction row next :=
  ⟨hsecond.actionId.trans hfirst.actionId, hsecond.identity.trans hfirst.identity⟩

/-- Every transition of the workflow store keeps an action and its identity. -/
theorem sameAction_of_workflow {db after : Database} {reading : Reading} {call : WorkflowCall}
    {key : String × String} {row : ExternalActionRow}
    (hchange : WorkflowChange db reading call after)
    (hfind : db.externalActions.find key = some row) :
    ∃ next, after.externalActions.find key = some next ∧ SameAction row next := by
  cases hchange with
  | same hafter => exact ⟨row, hafter ▸ hfind, .refl row⟩
  | createExecution _ _ _ _ _ _ hafter | startExecution _ _ _ _ _ _ hafter
  | finalizeExecution _ _ _ _ _ _ _ _ _ hafter | reuseStep _ _ _ _ _ _ _ _ _ _ _ _ _ hafter
  | claimFresh _ _ _ _ _ _ _ _ _ _ hafter | claimRetry _ _ _ _ _ _ _ _ _ _ _ hafter
  | finishStep _ _ _ _ _ _ _ _ _ _ _ _ _ hafter | recoverStep _ _ _ _ _ _ _ hafter
  | appendEvent _ _ _ _ _ _ _ hafter => exact ⟨row, hafter ▸ hfind, .refl row⟩
  | prepareAction runId stepId _ _ _ _ _ _ _ _ _ _ hnone _ _ _ hafter =>
    have hkey : key ≠ (runId, stepId) := by
      intro heq
      rw [heq, hnone] at hfind
      cases hfind
    subst hafter
    exact ⟨row, (Table.find_insert_of_fresh _ _ _ _ hnone).trans ((if_neg hkey).trans hfind),
      .refl row⟩
  | beginDispatch runId stepId _ _ action _ _ _ hrow _ _ _ _ _ _ hafter
  | retryDispatch runId stepId _ _ _ action _ _ hrow _ _ _ _ _ hafter =>
    subst hafter
    by_cases hkey : key = (runId, stepId)
    · subst hkey
      obtain rfl := Option.some.inj (hfind.symm.trans hrow)
      refine ⟨dispatchedAction row ("dispatch_" ++ reading.uuid 0) (reading.utcNow 0), ?_, rfl, rfl⟩
      rw [recordDispatch_find, if_pos rfl, hfind]
      rfl
    · exact ⟨row, by rw [recordDispatch_find, if_neg hkey, hfind], .refl row⟩
  | settle settlement outcome action _ _ _ hrow _ _ _ _ hafter =>
    subst hafter
    by_cases hkey : key = (settlement.runId, settlement.stepId)
    · subst hkey
      obtain rfl := Option.some.inj (hfind.symm.trans hrow)
      refine ⟨finalizedAction row outcome (reading.utcNow 0), ?_, rfl, rfl⟩
      rw [recordOutcome_find, if_pos rfl, hfind]
      rfl
    · exact ⟨row, by rw [recordOutcome_find, if_neg hkey, hfind], .refl row⟩

/-- An action that left PREPARED was dispatched. -/
def DispatchedOnce (db : Database) : Prop :=
  ∀ key row, db.externalActions.find key = some row → row.status ≠ .prepared →
    1 ≤ row.dispatchCount ∧ row.dispatchToken.isSome = true

theorem dispatchedOnce_of_workflow {db after : Database} {reading : Reading} {call : WorkflowCall}
    (hdispatched : DispatchedOnce db) (hchange : WorkflowChange db reading call after) :
    DispatchedOnce after := by
  intro key row hfind hstatus
  cases hchange with
  | same hafter => exact hdispatched key row (hafter ▸ hfind) hstatus
  | createExecution _ _ _ _ _ _ hafter | startExecution _ _ _ _ _ _ hafter
  | finalizeExecution _ _ _ _ _ _ _ _ _ hafter | reuseStep _ _ _ _ _ _ _ _ _ _ _ _ _ hafter
  | claimFresh _ _ _ _ _ _ _ _ _ _ hafter | claimRetry _ _ _ _ _ _ _ _ _ _ _ hafter
  | finishStep _ _ _ _ _ _ _ _ _ _ _ _ _ hafter | recoverStep _ _ _ _ _ _ _ hafter
  | appendEvent _ _ _ _ _ _ _ hafter =>
    subst hafter
    exact hdispatched key row hfind hstatus
  | prepareAction runId stepId _ _ _ _ _ action _ _ _ _ hnone _ _ haction hafter =>
    subst hafter
    have hinserted := (db.externalActions.find_insert_of_fresh (runId, stepId) key action
      hnone).symm.trans hfind
    split_ifs at hinserted with hkey
    · obtain rfl := Option.some.inj hinserted
      rw [haction] at hstatus
      exact absurd rfl hstatus
    · exact hdispatched key row hinserted hstatus
  | beginDispatch runId stepId _ _ action _ _ _ hrow _ _ _ _ _ _ hafter
  | retryDispatch runId stepId _ _ _ action _ _ hrow _ _ _ _ _ hafter =>
    subst hafter
    rw [recordDispatch_find] at hfind
    split_ifs at hfind with hkey
    · subst hkey
      rw [hrow] at hfind
      obtain rfl := Option.some.inj hfind
      exact ⟨Nat.succ_pos _, rfl⟩
    · exact hdispatched key row hfind hstatus
  | settle settlement outcome action _ _ _ hrow hdispatching _ _ _ hafter =>
    subst hafter
    rw [recordOutcome_find] at hfind
    split_ifs at hfind with hkey
    · subst hkey
      have hbefore := hdispatched _ action hrow (by rw [hdispatching]; simp)
      rw [hrow] at hfind
      obtain rfl := Option.some.inj hfind
      exact hbefore
    · exact hdispatched key row hfind hstatus

/-! ### Steps -/

/-- The row is of the same step. -/
structure SameStep (row next : ToolCallRow) : Prop where
  toolName : next.toolName = row.toolName
  inputHash : next.inputHash = row.inputHash

theorem SameStep.refl (row : ToolCallRow) : SameStep row row := ⟨rfl, rfl⟩

theorem SameStep.trans {row middle next : ToolCallRow} (hfirst : SameStep row middle)
    (hsecond : SameStep middle next) : SameStep row next :=
  ⟨hsecond.toolName.trans hfirst.toolName, hsecond.inputHash.trans hfirst.inputHash⟩

/-- A step is claimed again for its own tool only. -/
theorem toolName_of_claimStep {db after : Database} {reading : Reading}
    {runId stepId toolName inputHash : String} {maxAttempts : Nat} {token : Option String}
    {reply : ClaimResult} {row : ToolCallRow}
    (hok : claimStep db reading runId stepId toolName inputHash maxAttempts token =
      .ok (reply, after)) (hfind : db.toolCalls.find (runId, stepId) = some row) :
    after = db ∨ row.toolName = toolName := by
  unfold claimStep at hok
  split_ifs at hok
  obtain ⟨-, hok⟩ := fenced_eq_ok hok
  rw [hfind] at hok
  split at hok
  · cases hok
  · dsimp only at hok
    by_cases htool : row.toolName = toolName
    · exact .inr htool
    · rw [if_pos htool] at hok
      exact .inl (Prod.mk.inj (Except.ok.inj hok)).2.symm

/-- What rewriting one step leaves of a step. -/
theorem sameStep_of_update {db : Database} {runId stepId : String} {key : String × String}
    {row old new : ToolCallRow} (hfind : db.toolCalls.find key = some row)
    (hold : db.toolCalls.find (runId, stepId) = some old) (hsame : SameStep old new) :
    ∃ next, (updateStep db runId stepId fun _ ↦ new).toolCalls.find key = some next ∧
      SameStep row next := by
  have hupdated := db.toolCalls.find_modify (runId, stepId) key fun _ ↦ new
  by_cases hkey : key = (runId, stepId)
  · subst hkey
    obtain rfl := Option.some.inj (hfind.symm.trans hold)
    refine ⟨new, ?_, hsame⟩
    exact hupdated.trans (by rw [if_pos rfl, hfind]; rfl)
  · exact ⟨row, hupdated.trans ((if_neg hkey).trans hfind), .refl row⟩

/-- Every operation of the workflow store keeps a step, its tool and its input. -/
theorem sameStep_of_perform {db after : Database} {reading : Reading} {call : WorkflowCall}
    {reply : call.Reply} {key : String × String} {row : ToolCallRow}
    (hok : call.perform db reading = .ok (reply, after))
    (hfind : db.toolCalls.find key = some row) :
    ∃ next, after.toolCalls.find key = some next ∧ SameStep row next := by
  cases workflowChange_of_perform hok with
  | same hafter => exact ⟨row, hafter ▸ hfind, .refl row⟩
  | createExecution _ _ _ _ _ _ hafter | startExecution _ _ _ _ _ _ hafter
  | finalizeExecution _ _ _ _ _ _ _ _ _ hafter | appendEvent _ _ _ _ _ _ _ hafter
  | prepareAction _ _ _ _ _ _ _ _ _ _ _ _ _ _ _ _ hafter
  | beginDispatch _ _ _ _ _ _ _ _ _ _ _ _ _ _ _ hafter
  | retryDispatch _ _ _ _ _ _ _ _ _ _ _ _ _ _ hafter => exact ⟨row, hafter ▸ hfind, .refl row⟩
  | reuseStep _ target stepId _ _ _ step _ _ _ _ hnone _ hafter
  | claimFresh target stepId _ _ _ _ _ _ _ hnone hafter =>
    have hkey : key ≠ (target, stepId) := by
      intro heq
      rw [heq, hnone] at hfind
      cases hfind
    subst hafter
    exact ⟨row, (Table.find_insert_of_fresh _ _ _ _ hnone).trans ((if_neg hkey).trans hfind),
      .refl row⟩
  | claimRetry runId stepId toolName _ _ _ previous hcall hprevious _ _ hafter =>
    subst hcall
    rcases toolName_of_claimStep hok hprevious with hsame | htool
    · exact ⟨row, hsame ▸ hfind, .refl row⟩
    · subst hafter
      exact sameStep_of_update hfind hprevious ⟨htool.symm, rfl⟩
  | finishStep runId stepId _ _ old _ _ _ _ _ _ hold _ hafter =>
    subst hafter
    exact sameStep_of_update hfind hold ⟨rfl, rfl⟩
  | recoverStep runId stepId _ old _ hold _ hafter =>
    subst hafter
    exact sameStep_of_update hfind hold ⟨rfl, rfl⟩
  | settle settlement outcome action old _ _ _ _ _ hold _ hafter =>
    subst hafter
    exact sameStep_of_update hfind hold ⟨rfl, rfl⟩

/-- A step other than a COMPLETED one is rewritten. -/
theorem completedStep_of_update {db : Database} {runId stepId : String} {key : String × String}
    {row old new : ToolCallRow} (hfind : db.toolCalls.find key = some row)
    (hcompleted : row.status = .completed)
    (hold : db.toolCalls.find (runId, stepId) = some old) (hopen : old.status ≠ .completed) :
    (updateStep db runId stepId fun _ ↦ new).toolCalls.find key = some row := by
  have hkey : key ≠ (runId, stepId) := by
    rintro rfl
    obtain rfl := Option.some.inj (hfind.symm.trans hold)
    exact hopen hcompleted
  exact (db.toolCalls.find_modify (runId, stepId) key fun _ ↦ new).trans
    ((if_neg hkey).trans hfind)

theorem not_completed_of_heldBy {row : ToolCallRow} {attempt : String}
    (hheld : row.heldBy attempt = true) : row.status ≠ .completed := by
  simp only [ToolCallRow.heldBy, Bool.and_eq_true, beq_iff_eq] at hheld
  rw [hheld.1]
  simp

/-- Every transition of the workflow store leaves a COMPLETED step as it is. -/
theorem completedStep_of_workflow {db after : Database} {reading : Reading} {call : WorkflowCall}
    {key : String × String} {row : ToolCallRow}
    (hchange : WorkflowChange db reading call after)
    (hfind : db.toolCalls.find key = some row) (hcompleted : row.status = .completed) :
    after.toolCalls.find key = some row := by
  cases hchange with
  | same hafter => exact hafter ▸ hfind
  | createExecution _ _ _ _ _ _ hafter | startExecution _ _ _ _ _ _ hafter
  | finalizeExecution _ _ _ _ _ _ _ _ _ hafter | appendEvent _ _ _ _ _ _ _ hafter
  | prepareAction _ _ _ _ _ _ _ _ _ _ _ _ _ _ _ _ hafter
  | beginDispatch _ _ _ _ _ _ _ _ _ _ _ _ _ _ _ hafter
  | retryDispatch _ _ _ _ _ _ _ _ _ _ _ _ _ _ hafter => exact hafter ▸ hfind
  | reuseStep _ target stepId _ _ _ step _ _ _ _ hnone _ hafter
  | claimFresh target stepId _ _ _ _ _ _ _ hnone hafter =>
    have hkey : key ≠ (target, stepId) := by
      intro heq
      rw [heq, hnone] at hfind
      cases hfind
    subst hafter
    exact (Table.find_insert_of_fresh _ _ _ _ hnone).trans ((if_neg hkey).trans hfind)
  | claimRetry runId stepId _ _ _ _ previous _ hprevious hfailed _ hafter =>
    subst hafter
    exact completedStep_of_update hfind hcompleted hprevious (by rw [hfailed]; simp)
  | finishStep runId stepId _ _ old _ _ _ _ _ _ hold hheld hafter =>
    subst hafter
    exact completedStep_of_update hfind hcompleted hold (not_completed_of_heldBy hheld)
  | recoverStep runId stepId _ old _ hold hrunning hafter =>
    subst hafter
    exact completedStep_of_update hfind hcompleted hold (by rw [hrunning]; simp)
  | settle settlement outcome action old _ _ _ _ _ hold hheld hafter =>
    subst hafter
    exact completedStep_of_update hfind hcompleted hold (not_completed_of_heldBy hheld)

/-! ### A recorded success -/

/-- The ledger holds the success of an action: its row and its step carry the result. -/
structure RecordedSuccess (db : Database) (key : String × String) (reference : String)
    (result : Json) (action : ExternalActionRow) (step : ToolCallRow) : Prop where
  findAction : db.externalActions.find key = some action
  findStep : db.toolCalls.find key = some step
  status : action.status = .succeeded
  providerReference : action.providerReference = some reference
  named : reference.isEmpty = false
  resultJson : action.resultJson = some result
  errorCode : action.errorCode = none
  completed : step.status = .completed
  stepResult : step.resultJson = some result

theorem checkedOutcome_succeeded {fields : Payload} {reference : String} {code : Option String}
    {checked : ExternalActionOutcome}
    (hchecked : checkedOutcome
      { actionStatus := .succeeded
        toolStatus := .completed
        resultJson := some (.obj fields)
        providerReference := some reference
        errorCode := code } = .ok checked) :
    reference.isEmpty = false ∧ checked =
      { actionStatus := .succeeded
        toolStatus := .completed
        resultJson := some (Json.obj fields).sortKeys
        providerReference := some reference
        errorCode := none } := by
  unfold checkedOutcome at hchecked
  split_ifs at hchecked with _ _ _ hreference hcode
  · obtain rfl := Except.ok.inj hchecked
    have hnone : code = none := by simpa using hcode
    subst hnone
    exact ⟨by simpa using hreference, rfl⟩
  · exact absurd (rfl : ExternalActionStatus.succeeded = .succeeded) ‹_›

/-- `finalize_external_action_succeeded` returns only when the success is in the ledger. -/
theorem recordedSuccess_of_finalize {db after : Database} {reading : Reading}
    {runId stepId dispatchToken attemptToken reference : String} {fields : Payload}
    {code : Option String} {reply : ExternalActionRow}
    (hok : finalizeExternalActionSucceeded db reading runId stepId dispatchToken attemptToken
      (.obj fields) reference code = .ok (reply, after)) :
    ∃ action step, RecordedSuccess after (runId, stepId) reference (Json.obj fields).sortKeys
      action step := by
  unfold finalizeExternalActionSucceeded finalizeProviderOutcome at hok
  split at hok
  · cases hok
  · next checked hchecked =>
    obtain ⟨hnamed, rfl⟩ := checkedOutcome_succeeded hchecked
    unfold finalizeDispatched at hok
    split at hok
    · cases hok
    · next action hfind =>
      split_ifs at hok with _ hterminal hstale
      · split at hok
        · cases hok
        · next step hstep =>
          split_ifs at hok with hduplicate
          obtain ⟨-, rfl⟩ := Prod.mk.inj (Except.ok.inj hok)
          simp only [exactDuplicate, Bool.and_eq_true, beq_iff_eq] at hduplicate
          obtain ⟨⟨⟨⟨⟨⟨⟨⟨hstatus, -⟩, hreference⟩, hresult⟩, hcode⟩, hcompleted⟩, -⟩, hstepResult⟩,
            -⟩ := hduplicate
          exact ⟨action, step, hfind, hstep, hstatus, hreference, hnamed, hresult, hcode,
            hcompleted, hstepResult⟩
      · split at hok
        · cases hok
        · next step hattempt =>
          obtain ⟨-, rfl⟩ := Prod.mk.inj (Except.ok.inj hok)
          obtain ⟨hstep, -⟩ := assertCurrentToolAttempt_eq_ok hattempt
          have haction := recordOutcome_find db reading runId stepId action step
            { actionStatus := .succeeded
              toolStatus := .completed
              resultJson := some (Json.obj fields).sortKeys
              providerReference := some reference
              errorCode := none } (runId, stepId)
          have hsettled := recordOutcome_step db reading runId stepId action step
            { actionStatus := .succeeded
              toolStatus := .completed
              resultJson := some (Json.obj fields).sortKeys
              providerReference := some reference
              errorCode := none } (runId, stepId)
          rw [if_pos rfl, hfind] at haction
          rw [if_pos rfl, hstep] at hsettled
          exact ⟨_, _, haction, hsettled, rfl, rfl, hnamed, rfl, rfl, rfl, rfl⟩

/-! ### Whole requests -/

theorem sameAction_apply (hasher : Hasher) {db : Database} (request : Request)
    {key : String × String} {row : ExternalActionRow}
    (hfind : db.externalActions.find key = some row) :
    ∃ next, (request.apply hasher db).externalActions.find key = some next ∧
      SameAction row next := by
  rcases ledger_of_apply hasher db request with hsame | ⟨call, -, hchange⟩
  · exact ⟨row, by rw [hsame.2.2.1, hfind], .refl row⟩
  · exact sameAction_of_workflow hchange hfind

theorem sameStep_apply (hasher : Hasher) {db : Database} (request : Request)
    {key : String × String} {row : ToolCallRow} (hfind : db.toolCalls.find key = some row) :
    ∃ next, (request.apply hasher db).toolCalls.find key = some next ∧ SameStep row next := by
  obtain ⟨reading, call⟩ := request
  cases hperform : call.perform hasher db reading with
  | error error => exact ⟨row, by rw [apply_of_error hperform, hfind], .refl row⟩
  | ok result =>
    obtain ⟨reply, after⟩ := result
    rw [apply_of_ok hperform]
    cases call with
    | run call => exact ⟨row, by rw [(onlyRunTables_of_run hperform).1.2.1, hfind], .refl row⟩
    | workflow call => exact sameStep_of_perform hperform hfind
    | memory call => exact ⟨row, by rw [(onlyMemory_of_memory hperform).2.2.1, hfind], .refl row⟩

theorem completedStep_apply (hasher : Hasher) {db : Database} (request : Request)
    {key : String × String} {row : ToolCallRow} (hfind : db.toolCalls.find key = some row)
    (hcompleted : row.status = .completed) :
    (request.apply hasher db).toolCalls.find key = some row := by
  rcases ledger_of_apply hasher db request with hsame | ⟨call, -, hchange⟩
  · rw [hsame.2.1, hfind]
  · exact completedStep_of_workflow hchange hfind hcompleted

theorem dispatchedOnce_apply (hasher : Hasher) {db : Database} (request : Request)
    (hdispatched : DispatchedOnce db) : DispatchedOnce (request.apply hasher db) := by
  rcases ledger_of_apply hasher db request with hsame | ⟨call, -, hchange⟩
  · unfold DispatchedOnce
    rw [hsame.2.2.1]
    exact hdispatched
  · exact dispatchedOnce_of_workflow hdispatched hchange

/-- An execution is never deleted. -/
theorem execution_of_workflow {db after : Database} {reading : Reading} {call : WorkflowCall}
    {runId : String} (hchange : WorkflowChange db reading call after)
    (hexists : (db.executions.find runId).isSome = true) :
    (after.executions.find runId).isSome = true := by
  have hupdated {other : String} {change : ExecutionRow → ExecutionRow} :
      ((updateExecution db other change).executions.find runId).isSome = true := by
    have hmodified := db.executions.find_modify other runId change
    unfold updateExecution
    rw [hmodified]
    split_ifs
    · rwa [Option.isSome_map]
    · exact hexists
  cases hchange with
  | same hafter => exact hafter ▸ hexists
  | createExecution other workflowType inputHash _ _ hnone hafter =>
    subst hafter
    have hinserted := db.executions.find_insert_of_fresh other runId
      (pendingExecution workflowType inputHash (reading.utcNow 0)) hnone
    rw [hinserted]
    split_ifs
    · rfl
    · exact hexists
  | startExecution _ _ _ _ _ _ hafter | finalizeExecution _ _ _ _ _ _ _ _ _ hafter =>
    subst hafter
    exact hupdated
  | reuseStep _ _ _ _ _ _ _ _ _ _ _ _ _ hafter | claimFresh _ _ _ _ _ _ _ _ _ _ hafter
  | claimRetry _ _ _ _ _ _ _ _ _ _ _ hafter | finishStep _ _ _ _ _ _ _ _ _ _ _ _ _ hafter
  | recoverStep _ _ _ _ _ _ _ hafter | prepareAction _ _ _ _ _ _ _ _ _ _ _ _ _ _ _ _ hafter
  | beginDispatch _ _ _ _ _ _ _ _ _ _ _ _ _ _ _ hafter
  | retryDispatch _ _ _ _ _ _ _ _ _ _ _ _ _ _ hafter
  | settle _ _ _ _ _ _ _ _ _ _ _ hafter | appendEvent _ _ _ _ _ _ _ hafter =>
    subst hafter
    exact hexists

theorem execution_apply (hasher : Hasher) {db : Database} (request : Request) {runId : String}
    (hexists : (db.executions.find runId).isSome = true) :
    ((request.apply hasher db).executions.find runId).isSome = true := by
  rcases ledger_of_apply hasher db request with hsame | ⟨call, -, hchange⟩
  · rwa [hsame.1]
  · exact execution_of_workflow hchange hexists

theorem dispatchedOnce_empty : DispatchedOnce Database.empty := by
  intro key row hfind
  cases hfind

/-! ### Runs -/

section Runs

variable (hasher : Hasher) {db : Database} (requests : List Request) {key : String × String}

theorem dispatchedOnce_run (hdispatched : DispatchedOnce db) :
    DispatchedOnce ((storeMachine hasher).run db requests) :=
  (storeMachine hasher).invariant_run DispatchedOnce
    (fun _ request hbefore _ ↦ dispatchedOnce_apply hasher request hbefore) hdispatched
    ((storeMachine hasher).admits_true _ _)

theorem sameAction_run {row : ExternalActionRow} (hfind : db.externalActions.find key = some row) :
    ∃ next, ((storeMachine hasher).run db requests).externalActions.find key = some next ∧
      SameAction row next := by
  refine (storeMachine hasher).invariant_run
    (fun db ↦ ∃ next, db.externalActions.find key = some next ∧ SameAction row next)
    (fun db request hbefore _ ↦ ?_) ⟨row, hfind, .refl row⟩ ((storeMachine hasher).admits_true _ _)
  obtain ⟨middle, hmiddle, hsame⟩ := hbefore
  obtain ⟨next, hnext, hlater⟩ := sameAction_apply hasher request hmiddle
  exact ⟨next, hnext, hsame.trans hlater⟩

theorem sameStep_run {row : ToolCallRow} (hfind : db.toolCalls.find key = some row) :
    ∃ next, ((storeMachine hasher).run db requests).toolCalls.find key = some next ∧
      SameStep row next := by
  refine (storeMachine hasher).invariant_run
    (fun db ↦ ∃ next, db.toolCalls.find key = some next ∧ SameStep row next)
    (fun db request hbefore _ ↦ ?_) ⟨row, hfind, .refl row⟩ ((storeMachine hasher).admits_true _ _)
  obtain ⟨middle, hmiddle, hsame⟩ := hbefore
  obtain ⟨next, hnext, hlater⟩ := sameStep_apply hasher request hmiddle
  exact ⟨next, hnext, hsame.trans hlater⟩

/-- A recorded success stays as it was recorded. -/
theorem recordedSuccess_run {reference : String} {result : Json} {action : ExternalActionRow}
    {step : ToolCallRow} (hrecorded : RecordedSuccess db key reference result action step) :
    RecordedSuccess ((storeMachine hasher).run db requests) key reference result action step := by
  refine (storeMachine hasher).invariant_run
    (fun db ↦ RecordedSuccess db key reference result action step)
    (fun db request hbefore _ ↦ ?_) hrecorded ((storeMachine hasher).admits_true _ _)
  exact
    { hbefore with
      findAction := terminal_apply hasher request hbefore.findAction (by rw [hbefore.status]; rfl)
      findStep := completedStep_apply hasher request hbefore.findStep hbefore.completed }

end Runs

end AgentRuntime.Store
