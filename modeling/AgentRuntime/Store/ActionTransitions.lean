import AgentRuntime.Store.LedgerFrame

/-!
# What a store call does to the external actions

Two calls dispatch an action and five finalize it. Every call but the two is `Calm`: it keeps each
action with its identity, its dispatch count and its token, adds at most PREPARED actions, and only
appends to the workflow log; `calm_of_workflow` also says which action a call may fail, and that the
call names its current dispatch. `dispatch_of_begin` and `dispatch_of_retry` say what a dispatching
call replies and commits.
-/

set_option autoImplicit false
set_option relaxedAutoImplicit false

namespace AgentRuntime.Store

open Library

/-- The two rows are one action with one history of dispatches. -/
structure SameDispatches (row next : ExternalActionRow) : Prop where
  actionId : next.actionId = row.actionId
  identity : externalActionIdentity next = externalActionIdentity row
  count : next.dispatchCount = row.dispatchCount
  token : next.dispatchToken = row.dispatchToken
  prepared : next.status = .prepared → row.status = .prepared

theorem SameDispatches.refl (row : ExternalActionRow) : SameDispatches row row :=
  ⟨rfl, rfl, rfl, rfl, id⟩

/-- An action that was never dispatched. -/
structure NeverDispatched (row : ExternalActionRow) : Prop where
  status : row.status = .prepared
  count : row.dispatchCount = 0
  token : row.dispatchToken = none

theorem neverDispatched_preparedAction (identity : ExternalActionIdentity)
    (actionId now : String) : NeverDispatched (preparedAction identity actionId now) :=
  ⟨rfl, rfl, rfl⟩

/-- No action is dispatched, and only the actions named by `failing` may be failed. -/
structure Calm (failing : String × String → ExternalActionRow → Prop) (db after : Database) :
    Prop where
  kept : ∀ key row, db.externalActions.find key = some row →
    ∃ next, after.externalActions.find key = some next ∧ SameDispatches row next ∧
      (next.status = .failed → row.status = .failed ∨ failing key row)
  fresh : ∀ key next, db.externalActions.find key = none →
    after.externalActions.find key = some next → NeverDispatched next
  log : db.workflowEvents <+: after.workflowEvents

section Calm

variable {db after : Database} {failing : String × String → ExternalActionRow → Prop}

theorem calm_of_actions (hactions : after.externalActions = db.externalActions)
    (hlog : db.workflowEvents <+: after.workflowEvents) : Calm failing db after where
  kept key row hfind := ⟨row, by rw [hactions, hfind], .refl row, .inl⟩
  fresh key next hnone hfind := by
    rw [hactions, hnone] at hfind
    cases hfind
  log := hlog

theorem calm_of_sameLedger (hsame : SameLedger db after) : Calm failing db after :=
  calm_of_actions hsame.2.2.1 (hsame.2.2.2 ▸ List.prefix_rfl)

theorem Calm.refl (db : Database) : Calm failing db db := calm_of_sameLedger (.refl db)

end Calm

/-! ### The log -/

theorem log_prefix_appendWorkflowEvent (db : Database) (runId eventType : String)
    (payload : Payload) (createdAt : String) :
    db.workflowEvents <+:
      (appendWorkflowEvent db runId eventType payload createdAt).workflowEvents :=
  List.prefix_append _ _

theorem log_prefix_recordOutcome (db : Database) (reading : Reading) (runId stepId : String)
    (action : ExternalActionRow) (step : ToolCallRow) (outcome : ExternalActionOutcome) :
    db.workflowEvents <+:
      (recordOutcome db reading runId stepId action step outcome).workflowEvents :=
  (List.prefix_append _ _).trans (List.prefix_append _ _)

/-! ### Outcomes -/

/-- The checks keep the status an outcome asks for, and it is terminal. -/
theorem checkedOutcome_status {outcome checked : ExternalActionOutcome}
    (hchecked : checkedOutcome outcome = .ok checked) :
    checked.actionStatus = outcome.actionStatus ∧ outcome.actionStatus.isTerminal = true := by
  unfold checkedOutcome at hchecked
  split at hchecked
  · cases hchecked
  · next hterminal =>
    have hterminal : outcome.actionStatus.isTerminal = true := by simpa using hterminal
    refine ⟨?_, hterminal⟩
    split_ifs at hchecked
    · split at hchecked
      · rw [← Except.ok.inj hchecked]
      · cases hchecked
    · rw [← Except.ok.inj hchecked]

theorem recordOutcome_find (db : Database) (reading : Reading) (runId stepId : String)
    (action : ExternalActionRow) (step : ToolCallRow) (outcome : ExternalActionOutcome)
    (key : String × String) :
    (recordOutcome db reading runId stepId action step outcome).externalActions.find key =
      if key = (runId, stepId) then
        (db.externalActions.find key).map
          fun _ ↦ finalizedAction action outcome (reading.utcNow 0)
      else db.externalActions.find key :=
  Table.find_modify _ _ _ _

theorem sameDispatches_finalizedAction {action : ExternalActionRow}
    {outcome : ExternalActionOutcome} (now : String)
    (hterminal : outcome.actionStatus.isTerminal = true) :
    SameDispatches action (finalizedAction action outcome now) where
  actionId := rfl
  identity := rfl
  count := rfl
  token := rfl
  prepared := by
    intro hprepared
    have hstatus : outcome.actionStatus = .prepared := hprepared
    rw [hstatus] at hterminal
    cases hterminal

theorem calm_recordOutcome {db : Database} {reading : Reading} {runId stepId : String}
    {action : ExternalActionRow} {step : ToolCallRow} {outcome : ExternalActionOutcome}
    {failing : String × String → ExternalActionRow → Prop}
    (hfind : db.externalActions.find (runId, stepId) = some action)
    (hterminal : outcome.actionStatus.isTerminal = true)
    (hfailed : outcome.actionStatus = .failed → failing (runId, stepId) action) :
    Calm failing db (recordOutcome db reading runId stepId action step outcome) where
  kept key row hrow := by
    rw [recordOutcome_find]
    by_cases hkey : key = (runId, stepId)
    · subst hkey
      rw [hfind] at hrow
      obtain rfl := Option.some.inj hrow
      rw [if_pos rfl, hfind]
      exact ⟨_, rfl, sameDispatches_finalizedAction _ hterminal, fun hstatus ↦
        .inr (hfailed hstatus)⟩
    · rw [if_neg hkey]
      exact ⟨row, hrow, .refl row, .inl⟩
  fresh key next hnone hnext := by
    rw [recordOutcome_find, hnone, Option.map_none, ite_self] at hnext
    cases hnext
  log := log_prefix_recordOutcome _ _ _ _ _ _ _

theorem calm_of_prepare {db : Database} {runId stepId : String} {action : ExternalActionRow}
    {failing : String × String → ExternalActionRow → Prop}
    (hnone : db.externalActions.find (runId, stepId) = none) (hfresh : NeverDispatched action)
    (eventType : String) (payload : Payload) (createdAt : String) :
    Calm failing db (appendWorkflowEvent
      { db with externalActions := db.externalActions.insert (runId, stepId) action } runId
      eventType payload createdAt) where
  kept key row hrow := by
    have hkey : key ≠ (runId, stepId) := by
      intro heq
      rw [heq, hnone] at hrow
      cases hrow
    refine ⟨row, ?_, .refl row, .inl⟩
    exact (Table.find_insert_of_fresh _ _ _ _ hnone).trans ((if_neg hkey).trans hrow)
  fresh key next hrow hnext := by
    have hfind :=
      (Table.find_insert_of_fresh db.externalActions _ key action hnone).symm.trans hnext
    split_ifs at hfind with hkey
    · exact Option.some.inj hfind ▸ hfresh
    · rw [hrow] at hfind
      cases hfind
  log := log_prefix_appendWorkflowEvent _ _ _ _ _

/-- The calls that do not dispatch an action. -/
def WorkflowCall.isCalm : WorkflowCall → Bool
  | beginExternalActionDispatch .. | retryExternalActionDispatch .. => false
  | _ => true

/-- The action that a call may fail, whose current dispatch it names. -/
def WorkflowCall.failing : WorkflowCall → String × String → ExternalActionRow → Prop
  | finalizeExternalActionFailed runId stepId dispatchToken .. => fun key row ↦
    key = (runId, stepId) ∧ row.dispatchToken = some dispatchToken
  | _ => fun _ _ ↦ False

theorem failing_of_settlement {call : WorkflowCall} {settlement : Settlement}
    {action : ExternalActionRow} (hcall : call.settlement = some settlement)
    (htoken : action.dispatchToken = some settlement.dispatchToken)
    (hfailed : settlement.outcome.actionStatus = .failed) :
    call.failing (settlement.runId, settlement.stepId) action := by
  cases call with
  | finalizeExternalActionFailed =>
    obtain rfl := Option.some.inj hcall
    exact ⟨rfl, htoken⟩
  | finalizeExternalActionSucceeded | finalizeExternalActionOutcomeUnknown
  | finalizeExternalActionReconciliationUnknown | finalizeUnsafeInterruptedAction =>
    rw [← Option.some.inj hcall] at hfailed
    cases hfailed
  | _ => cases hcall

theorem calm_of_workflow {db after : Database} {reading : Reading} {call : WorkflowCall}
    (hchange : WorkflowChange db reading call after) (hcalm : call.isCalm = true) :
    Calm call.failing db after := by
  cases hchange with
  | same hafter =>
    subst hafter
    exact .refl _
  | createExecution _ _ _ _ _ _ hafter =>
    subst hafter
    exact calm_of_actions rfl List.prefix_rfl
  | startExecution _ _ _ _ _ _ hafter | finalizeExecution _ _ _ _ _ _ _ _ _ hafter
  | reuseStep _ _ _ _ _ _ _ _ _ _ _ _ _ hafter | claimFresh _ _ _ _ _ _ _ _ _ _ hafter
  | claimRetry _ _ _ _ _ _ _ _ _ _ _ hafter | finishStep _ _ _ _ _ _ _ _ _ _ _ _ _ hafter
  | recoverStep _ _ _ _ _ _ _ hafter | appendEvent _ _ _ _ _ _ _ hafter =>
    subst hafter
    exact calm_of_actions rfl (log_prefix_appendWorkflowEvent _ _ _ _ _)
  | prepareAction runId stepId attempt arguments token step run action _ _ _ _ hnone _ _ haction
      hafter =>
    subst hafter haction
    exact calm_of_prepare hnone (neverDispatched_preparedAction _ _ _) _ _ _
  | beginDispatch _ _ _ _ _ _ _ hcall | retryDispatch _ _ _ _ _ _ _ hcall =>
    subst hcall
    cases hcalm
  | settle settlement outcome action step hcall hchecked hfind _ htoken _ _ hafter =>
    subst hafter
    obtain ⟨hstatus, hterminal⟩ := checkedOutcome_status hchecked
    refine calm_recordOutcome hfind (hstatus ▸ hterminal) fun hfailed ↦ ?_
    exact failing_of_settlement hcall htoken (hstatus ▸ hfailed)

/-! ### Dispatching -/

/-- The event that records the dispatch of an action. -/
def dispatchStarted (db : Database) (reading : Reading) (runId stepId : String)
    (action : ExternalActionRow) (retry : Bool) : EventRow :=
  newEvent db.workflowEvents runId "external_action.dispatch_started"
    (dispatchStartedPayload stepId
      (dispatchedAction action ("dispatch_" ++ reading.uuid 0) (reading.utcNow 0)) retry)
    (reading.utcNow 1)

theorem recordDispatch_log (db : Database) (reading : Reading) (runId stepId : String)
    (action : ExternalActionRow) (retry : Bool) :
    (recordDispatch db reading runId stepId action retry).workflowEvents =
      db.workflowEvents ++ [dispatchStarted db reading runId stepId action retry] := rfl

theorem recordDispatch_find (db : Database) (reading : Reading) (runId stepId : String)
    (action : ExternalActionRow) (retry : Bool) (key : String × String) :
    (recordDispatch db reading runId stepId action retry).externalActions.find key =
      if key = (runId, stepId) then
        (db.externalActions.find key).map fun _ ↦
          dispatchedAction action ("dispatch_" ++ reading.uuid 0) (reading.utcNow 0)
      else db.externalActions.find key :=
  Table.find_modify _ _ _ _

/-- The reply of a call that committed a dispatch. -/
def dispatchReply (outcome : ExternalActionDispatchOutcome) (reading : Reading)
    (action : ExternalActionRow) : ExternalActionDispatchResult :=
  ⟨outcome, dispatchedAction action ("dispatch_" ++ reading.uuid 0) (reading.utcNow 0),
    some ("dispatch_" ++ reading.uuid 0)⟩

/-- `begin_external_action_dispatch` changes nothing, or commits the first dispatch. -/
theorem dispatch_of_begin {db after : Database} {reading : Reading}
    {runId stepId attempt : String} {token : Option String} {reply : ExternalActionDispatchResult}
    (hok : beginExternalActionDispatch db reading runId stepId attempt token =
      .ok (reply, after)) :
    (after = db ∧ reply.outcome ≠ .claimed) ∨
      ∃ action, db.externalActions.find (runId, stepId) = some action ∧
        action.status = .prepared ∧ reply = dispatchReply .claimed reading action ∧
        after = recordDispatch db reading runId stepId action false := by
  unfold beginExternalActionDispatch at hok
  obtain ⟨-, hok⟩ := fenced_eq_ok hok
  split at hok
  · cases hok
  · next action hfind =>
    split_ifs at hok with hterminal hdispatching
    · obtain ⟨rfl, rfl⟩ := Prod.mk.inj (Except.ok.inj hok)
      exact .inl ⟨rfl, fun hclaimed ↦ by cases hclaimed⟩
    · obtain ⟨rfl, rfl⟩ := Prod.mk.inj (Except.ok.inj hok)
      exact .inl ⟨rfl, fun hclaimed ↦ by cases hclaimed⟩
    · split at hok
      · cases hok
      · split_ifs at hok
        · obtain ⟨rfl, rfl⟩ := Prod.mk.inj (Except.ok.inj hok)
          exact .inl ⟨rfl, fun hclaimed ↦ by cases hclaimed⟩
        · split at hok
          · cases hok
          · obtain ⟨rfl, rfl⟩ := Prod.mk.inj (Except.ok.inj hok)
            have hprepared : action.status = .prepared := by
              cases hstatus : action.status <;> simp_all [ExternalActionStatus.isTerminal]
            exact .inr ⟨action, hfind, hprepared, rfl, rfl⟩

/-- `retry_external_action_dispatch` changes nothing, or rotates the token it was given. -/
theorem dispatch_of_retry {db after : Database} {reading : Reading}
    {runId stepId previous attempt : String} {token : Option String}
    {reply : ExternalActionDispatchResult}
    (hok : retryExternalActionDispatch db reading runId stepId previous attempt token =
      .ok (reply, after)) :
    (after = db ∧ reply.outcome ≠ .retryClaimed) ∨
      ∃ action, db.externalActions.find (runId, stepId) = some action ∧
        action.status = .dispatching ∧ action.retryMode ≠ .unsafeRetry ∧
        action.dispatchToken = some previous ∧ reply = dispatchReply .retryClaimed reading action ∧
        after = recordDispatch db reading runId stepId action true := by
  unfold retryExternalActionDispatch at hok
  obtain ⟨-, hok⟩ := fenced_eq_ok hok
  split at hok
  · cases hok
  · next action hfind =>
    split_ifs at hok with hterminal hdispatching hmode htoken
    · obtain ⟨rfl, rfl⟩ := Prod.mk.inj (Except.ok.inj hok)
      exact .inl ⟨rfl, fun hclaimed ↦ by cases hclaimed⟩
    · obtain ⟨rfl, rfl⟩ := Prod.mk.inj (Except.ok.inj hok)
      exact .inl ⟨rfl, fun hclaimed ↦ by cases hclaimed⟩
    · obtain ⟨rfl, rfl⟩ := Prod.mk.inj (Except.ok.inj hok)
      exact .inl ⟨rfl, fun hclaimed ↦ by cases hclaimed⟩
    · split at hok
      · cases hok
      · obtain ⟨rfl, rfl⟩ := Prod.mk.inj (Except.ok.inj hok)
        exact .inr ⟨action, hfind, not_not.mp hdispatching, hmode, not_not.mp htoken, rfl, rfl⟩

/-! ### Preparing -/

/-- An action that `prepare_external_action` reports as created or existing is the stored one, with
exactly the identity that was asked for. -/
theorem action_of_prepare {db after : Database} {reading : Reading}
    {runId stepId attempt : String} {arguments : ExternalActionIdentity} {token : Option String}
    {reply : ExternalActionPrepareResult} {action : ExternalActionRow}
    (hok : prepareExternalAction db reading runId stepId attempt arguments token =
      .ok (reply, after)) (haction : reply.action = some action)
    (hidentity : reply.outcome ≠ .identityMismatch) :
    after.externalActions.find (runId, stepId) = some action ∧
      externalActionIdentity action =
        { arguments with argumentsJson := arguments.argumentsJson.sortKeys } := by
  unfold prepareExternalAction at hok
  split at hok
  · simp only at hok
    split_ifs at hok
    obtain ⟨-, hok⟩ := fenced_eq_ok hok
    unfold prepareFenced at hok
    split at hok
    · cases hok
    split_ifs at hok
    · obtain ⟨rfl, rfl⟩ := Prod.mk.inj (Except.ok.inj hok)
      exact (hidentity rfl).elim
    split at hok
    · cases hok
    · cases hok
    split_ifs at hok
    · obtain ⟨rfl, rfl⟩ := Prod.mk.inj (Except.ok.inj hok)
      exact (hidentity rfl).elim
    · obtain ⟨rfl, rfl⟩ := Prod.mk.inj (Except.ok.inj hok)
      cases haction
    split at hok
    · next existing hfind =>
      split_ifs at hok with hsame
      · obtain ⟨rfl, rfl⟩ := Prod.mk.inj (Except.ok.inj hok)
        obtain rfl := Option.some.inj haction
        exact ⟨hfind, hsame⟩
      · obtain ⟨rfl, rfl⟩ := Prod.mk.inj (Except.ok.inj hok)
        exact (hidentity rfl).elim
    · next hnone =>
      unfold insertPrepared at hok
      simp only at hok
      split_ifs at hok
      · obtain ⟨rfl, rfl⟩ := Prod.mk.inj (Except.ok.inj hok)
        exact (hidentity rfl).elim
      · obtain ⟨rfl, rfl⟩ := Prod.mk.inj (Except.ok.inj hok)
        obtain rfl := Option.some.inj haction
        refine ⟨?_, rfl⟩
        exact (Table.find_insert_of_fresh _ _ _ _ hnone).trans (if_pos rfl)
  · cases hok

/-- A listing of the rows of a Run holds what the table holds, however it is sorted. -/
theorem mem_sortedRows {ρ : Type} (table : Table (String × String) ρ) (runId stepId : String)
    (row : ρ) (order : String × ρ → String × ρ → Prop) [DecidableRel order] :
    (stepId, row) ∈ ((table.rows.filter fun entry ↦ entry.1.1 == runId).map
        fun entry ↦ (entry.1.2, entry.2)).insertionSort order ↔
      table.find (runId, stepId) = some row := by
  rw [List.mem_insertionSort, List.mem_map, ← Table.mem_rows_iff]
  constructor
  · rintro ⟨⟨⟨other, otherStep⟩, found⟩, hmem, heq⟩
    rw [List.mem_filter, beq_iff_eq] at hmem
    obtain ⟨rfl, rfl⟩ := Prod.mk.inj heq
    have hrun : other = runId := hmem.2
    exact hrun ▸ hmem.1
  · intro hmem
    exact ⟨((runId, stepId), row), List.mem_filter.mpr ⟨hmem, beq_self_eq_true _⟩, rfl⟩

/-- The rows of a Run, as the operator's plan reads them. -/
theorem mem_actionRows (db : Database) (runId stepId : String) (action : ExternalActionRow) :
    (stepId, action) ∈ actionRows db runId ↔
      db.externalActions.find (runId, stepId) = some action :=
  mem_sortedRows db.externalActions runId stepId action _

end AgentRuntime.Store
