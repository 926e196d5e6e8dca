import AgentRuntime.Store.ActionLedger

/-!
# The evidence of finished actions

The operator's check reads the rows of a Run's actions and steps together with the events that
report how they ended, and accepts nothing but exact agreement. `EvidenceInOrder` says that the
writers keep this agreement at every moment: an open action has no such event yet, a terminal one
has exactly one of its own and one of its step, each repeating the row it belongs to.

What is asked of the callers, besides `keepsParent`, is `keepsEvidence`: an action is prepared for a
step that has not ended before, and nobody writes an outcome by hand.
-/

set_option autoImplicit false
set_option relaxedAutoImplicit false

namespace AgentRuntime.Store

open Library

/-! ### Events that report an end -/

/-- The event type reports the outcome of an action. -/
def isOutcomeType (eventType : String) : Bool :=
  eventType == "external_action.succeeded" || eventType == "external_action.failed" ||
    eventType == "external_action.outcome_unknown"

/-- The event type reports the end of a step. -/
def isStepEndType (eventType : String) : Bool :=
  eventType == "step.completed" || eventType == "step.failed"

/-- The outcome events of an action, in the log of its Run. -/
def outcomeEvents (db : Database) (runId actionId : String) : List EventRow :=
  (db.workflowEvents.filter fun event ↦ event.runId == runId).filter fun event ↦
    isOutcomeType event.eventType && event.payload.getD "action_id" == .str actionId

/-- The events of a Run that report the end of a step. -/
def stepEndEvents (db : Database) (runId stepId : String) : List EventRow :=
  (db.workflowEvents.filter fun event ↦ event.runId == runId).filter fun event ↦
    isStepEndType event.eventType && event.payload.getD "step_id" == .str stepId

section Log

variable {db after : Database} {events : List EventRow}

theorem outcomeEvents_append (hlog : after.workflowEvents = db.workflowEvents ++ events)
    (runId actionId : String) :
    outcomeEvents after runId actionId = outcomeEvents db runId actionId ++
      (events.filter fun event ↦ event.runId == runId).filter fun event ↦
        isOutcomeType event.eventType && event.payload.getD "action_id" == .str actionId := by
  unfold outcomeEvents
  rw [hlog, List.filter_append, List.filter_append]

theorem stepEndEvents_append (hlog : after.workflowEvents = db.workflowEvents ++ events)
    (runId stepId : String) :
    stepEndEvents after runId stepId = stepEndEvents db runId stepId ++
      (events.filter fun event ↦ event.runId == runId).filter fun event ↦
        isStepEndType event.eventType && event.payload.getD "step_id" == .str stepId := by
  unfold stepEndEvents
  rw [hlog, List.filter_append, List.filter_append]

/-- New events of which none reports the outcome of the action leave its outcome events alone. -/
theorem outcomeEvents_of_none (hlog : after.workflowEvents = db.workflowEvents ++ events)
    {runId actionId : String}
    (hnone : ∀ event ∈ events, event.runId = runId → isOutcomeType event.eventType = true →
      event.payload.getD "action_id" ≠ .str actionId) :
    outcomeEvents after runId actionId = outcomeEvents db runId actionId := by
  have hnew : ((events.filter fun event ↦ event.runId == runId).filter fun event ↦
      isOutcomeType event.eventType && event.payload.getD "action_id" == .str actionId) = [] := by
    rw [List.filter_filter, List.filter_eq_nil_iff]
    intro event hmem hmatch
    simp only [Bool.and_eq_true, beq_iff_eq] at hmatch
    exact hnone event hmem hmatch.2 hmatch.1.1 hmatch.1.2
  rw [outcomeEvents_append hlog, hnew, List.append_nil]

/-- New events of which none reports the end of the step leave its events alone. -/
theorem stepEndEvents_of_none (hlog : after.workflowEvents = db.workflowEvents ++ events)
    {runId stepId : String}
    (hnone : ∀ event ∈ events, event.runId = runId → isStepEndType event.eventType = true →
      event.payload.getD "step_id" ≠ .str stepId) :
    stepEndEvents after runId stepId = stepEndEvents db runId stepId := by
  have hnew : ((events.filter fun event ↦ event.runId == runId).filter fun event ↦
      isStepEndType event.eventType && event.payload.getD "step_id" == .str stepId) = [] := by
    rw [List.filter_filter, List.filter_eq_nil_iff]
    intro event hmem hmatch
    simp only [Bool.and_eq_true, beq_iff_eq] at hmatch
    exact hnone event hmem hmatch.2 hmatch.1.1 hmatch.1.2
  rw [stepEndEvents_append hlog, hnew, List.append_nil]

end Log

/-! ### Agreement with the events -/

/-- A row of `external_actions` agrees with its Run, its execution, its step and the events that
report their ends. -/
structure ActionEvidenced (db : Database) (key : String × String) (action : ExternalActionRow)
    (step : ToolCallRow) : Prop where
  execution : ∃ execution, db.executions.find key.1 = some execution ∧
    execution.workflowType = action.workflowType
  tenant : ∃ run, db.runs.find key.1 = some run ∧ run.tenantId = action.tenantId
  named : action.providerName ≠ "" ∧ action.providerIdentity ≠ "" ∧ action.idempotencyKey ≠ ""
  arguments : ∃ fields, action.argumentsJson = .obj fields
  tool : step.toolName = action.toolName ∧ step.inputHash = action.inputHash
  opened : action.status.isTerminal = false →
    outcomeEvents db key.1 action.actionId = [] ∧ stepEndEvents db key.1 key.2 = []
  closed : action.status.isTerminal = true → rowConsistent action step = true ∧
    singleEvent (outcomeEvents db key.1 action.actionId) (actionEventConsistent key.2 action) =
      true ∧
    singleEvent (stepEndEvents db key.1 key.2) (stepEventConsistent action step) = true

/-- The ledger and its evidence are in order. -/
structure EvidenceInOrder (db : Database) : Prop where
  ledger : LedgerInOrder db
  rows : ∀ key action, db.externalActions.find key = some action →
    ∃ step, db.toolCalls.find key = some step ∧ ActionEvidenced db key action step
  owned : ∀ event ∈ db.workflowEvents, isOutcomeType event.eventType = true →
    ∃ key action, db.externalActions.find key = some action ∧
      event.payload.getD "action_id" = .str action.actionId

theorem evidenceInOrder_empty : EvidenceInOrder Database.empty where
  ledger := ledgerInOrder_empty
  rows key action hfind := by cases hfind
  owned event hmem := by cases hmem

/-! ### What is asked of the callers -/

/-- A call prepares actions of steps that have not ended, and leaves outcomes to the
finalizers. -/
def WorkflowCall.keepsEvidence (db : Database) : WorkflowCall → Bool
  | prepareExternalAction runId stepId _ _ _ =>
    (db.externalActions.find (runId, stepId)).isSome || (stepEndEvents db runId stepId).isEmpty
  | appendEvent _ eventType _ _ => !isOutcomeType eventType && !isStepEndType eventType
  | _ => true

/-! ### Changes that no evidence notices -/

/-- The actions, their steps and what they stand on stay, and no end of theirs is logged. -/
structure Undisturbed (db after : Database) : Prop where
  actions : after.externalActions = db.externalActions
  parents : ∀ key action, db.externalActions.find key = some action →
    after.toolCalls.find key = db.toolCalls.find key
  executions : ∀ runId execution, db.executions.find runId = some execution →
    ∃ next, after.executions.find runId = some next ∧
      next.workflowType = execution.workflowType
  runs : ∀ runId run, db.runs.find runId = some run →
    ∃ next, after.runs.find runId = some next ∧ next.tenantId = run.tenantId
  log : ∃ events, after.workflowEvents = db.workflowEvents ++ events ∧ ∀ event ∈ events,
    isOutcomeType event.eventType = false ∧ (isStepEndType event.eventType = true →
      ∀ stepId, event.payload.getD "step_id" = .str stepId →
        db.externalActions.find (event.runId, stepId) = none)

theorem EvidenceInOrder.undisturbed {db after : Database} (horder : EvidenceInOrder db)
    (hledger : LedgerInOrder after) (hundisturbed : Undisturbed db after) :
    EvidenceInOrder after where
  ledger := hledger
  rows key action hfind := by
    rw [hundisturbed.actions] at hfind
    obtain ⟨step, hstep, hrow⟩ := horder.rows key action hfind
    obtain ⟨events, hlog, hquiet⟩ := hundisturbed.log
    have houtcomes : outcomeEvents after key.1 action.actionId =
        outcomeEvents db key.1 action.actionId := by
      refine outcomeEvents_of_none hlog fun event hmem _ htype ↦ ?_
      rw [(hquiet event hmem).1] at htype
      cases htype
    have hends : stepEndEvents after key.1 key.2 = stepEndEvents db key.1 key.2 := by
      refine stepEndEvents_of_none hlog fun event hmem hrun htype hid ↦ ?_
      have hnone := (hquiet event hmem).2 htype key.2 hid
      rw [hrun, hfind] at hnone
      cases hnone
    obtain ⟨execution, hexecution, htype⟩ := hrow.execution
    obtain ⟨nextExecution, hnextExecution, hsameType⟩ :=
      hundisturbed.executions key.1 execution hexecution
    obtain ⟨run, hrun, htenant⟩ := hrow.tenant
    obtain ⟨nextRun, hnextRun, hsameTenant⟩ := hundisturbed.runs key.1 run hrun
    refine ⟨step, (hundisturbed.parents key action hfind).trans hstep, ?_⟩
    exact
      { execution := ⟨nextExecution, hnextExecution, hsameType.trans htype⟩
        tenant := ⟨nextRun, hnextRun, hsameTenant.trans htenant⟩
        named := hrow.named
        arguments := hrow.arguments
        tool := hrow.tool
        opened := by rw [houtcomes, hends]; exact hrow.opened
        closed := by rw [houtcomes, hends]; exact hrow.closed }
  owned event hmem htype := by
    obtain ⟨events, hlog, hquiet⟩ := hundisturbed.log
    rw [hlog, List.mem_append] at hmem
    rw [hundisturbed.actions]
    cases hmem with
    | inl hold => exact horder.owned event hold htype
    | inr hnew =>
      rw [(hquiet event hnew).1] at htype
      cases htype

/-! ### A prepared action -/

theorem outcomeEvents_of_fresh {db : Database} {actionId : String} (horder : EvidenceInOrder db)
    (hfresh : ∀ key action, db.externalActions.find key = some action →
      action.actionId ≠ actionId) (runId : String) : outcomeEvents db runId actionId = [] := by
  unfold outcomeEvents
  rw [List.filter_filter, List.filter_eq_nil_iff]
  intro event hmem hmatch
  simp only [Bool.and_eq_true, beq_iff_eq] at hmatch
  obtain ⟨key, action, hfind, hid⟩ := horder.owned event hmem hmatch.1.1
  rw [hmatch.1.2, Json.str.injEq] at hid
  exact hfresh key action hfind hid.symm

/-- What the checks of a preparation leave. -/
structure PreparedChecked (db : Database) (runId stepId : String) (action : ExternalActionRow) :
    Prop where
  execution : ∃ execution, db.executions.find runId = some execution ∧
    execution.workflowType = action.workflowType
  tenant : ∃ run, db.runs.find runId = some run ∧ run.tenantId = action.tenantId
  named : action.providerName ≠ "" ∧ action.providerIdentity ≠ "" ∧ action.idempotencyKey ≠ ""
  arguments : ∃ fields, action.argumentsJson = .obj fields
  tool : ∀ step, db.toolCalls.find (runId, stepId) = some step →
    step.toolName = action.toolName ∧ step.inputHash = action.inputHash

/-- A preparation that inserts a row passed its checks. -/
theorem preparedChecked_of_prepare {db after : Database} {reading : Reading}
    {runId stepId attempt : String} {arguments : ExternalActionIdentity} {token : Option String}
    {reply : ExternalActionPrepareResult}
    (hok : prepareExternalAction db reading runId stepId attempt arguments token =
      .ok (reply, after))
    (hinserted : after.externalActions.find (runId, stepId) ≠
      db.externalActions.find (runId, stepId)) (actionId now : String) :
    PreparedChecked db runId stepId (preparedAction
      { arguments with argumentsJson := arguments.argumentsJson.sortKeys } actionId now) := by
  have hsame {answer other : ExternalActionPrepareResult}
      (heq : (Except.ok (answer, db) : Except StoreError _) = .ok (other, after)) : False := by
    obtain ⟨-, rfl⟩ := Prod.mk.inj (Except.ok.inj heq)
    exact hinserted rfl
  unfold prepareExternalAction at hok
  split at hok
  · next fields harguments =>
    simp only at hok
    split_ifs at hok with hempty
    obtain ⟨-, hok⟩ := fenced_eq_ok hok
    unfold prepareFenced at hok
    split at hok
    · cases hok
    · next run hrun =>
      split_ifs at hok with hauthority
      · exact (hsame hok).elim
      · split at hok
        · cases hok
        · cases hok
        · next execution step hexecution hstep =>
          split_ifs at hok with hmismatch hheld
          · exact (hsame hok).elim
          · exact (hsame hok).elim
          · simp only [not_or, not_not] at hmismatch
            simp only [Bool.not_eq_true, Bool.not_eq_false', authorityMatches,
              Bool.and_eq_true, beq_iff_eq] at hauthority
            simp only [emptyIdentityField, List.any_cons, List.any_nil, Bool.or_false,
              Bool.or_eq_true, not_or, Bool.not_eq_true, String.isEmpty_eq_false_iff] at hempty
            exact
              { execution := ⟨execution, hexecution, hmismatch.1⟩
                tenant := ⟨run, hrun, hauthority.1⟩
                named := ⟨hempty.2.2.2.2.2.2.2.1, hempty.2.2.2.2.2.2.2.2.1,
                  hempty.2.2.2.2.2.2.2.2.2.2⟩
                arguments := by
                  simp only [preparedAction, harguments]
                  exact ⟨Json.sortKeysFields fields, by rw [Json.sortKeys]⟩
                tool := fun other hother ↦ by
                  obtain rfl : step = other := Option.some.inj (hstep.symm.trans hother)
                  exact hmismatch.2 }
  · cases hok

theorem EvidenceInOrder.prepare {db after : Database} {runId stepId : String}
    {action : ExternalActionRow} {step : ToolCallRow} {event : EventRow}
    (horder : EvidenceInOrder db) (hledger : LedgerInOrder after)
    (hchecked : PreparedChecked db runId stepId action)
    (hstep : db.toolCalls.find (runId, stepId) = some step)
    (hends : stepEndEvents db runId stepId = [])
    (hnone : db.externalActions.find (runId, stepId) = none)
    (hfresh : ∀ key row, db.externalActions.find key = some row →
      row.actionId ≠ action.actionId)
    (hprepared : action.status = .prepared)
    (hactions : after.externalActions = db.externalActions.insert (runId, stepId) action)
    (hsteps : after.toolCalls = db.toolCalls) (hexecutions : after.executions = db.executions)
    (hruns : after.runs = db.runs)
    (hlog : after.workflowEvents = db.workflowEvents ++ [event])
    (hquiet : isOutcomeType event.eventType = false ∧ isStepEndType event.eventType = false) :
    EvidenceInOrder after := by
  have hfind (key : String × String) : after.externalActions.find key =
      if key = (runId, stepId) then some action else db.externalActions.find key := by
    rw [hactions]
    exact Table.find_insert_of_fresh _ _ _ _ hnone
  have houtcomes (run actionId : String) :
      outcomeEvents after run actionId = outcomeEvents db run actionId := by
    refine outcomeEvents_of_none hlog fun other hmem _ htype ↦ ?_
    rw [List.mem_singleton.mp hmem, hquiet.1] at htype
    cases htype
  have hstepEnds (run id : String) : stepEndEvents after run id = stepEndEvents db run id := by
    refine stepEndEvents_of_none hlog fun other hmem _ htype ↦ ?_
    rw [List.mem_singleton.mp hmem, hquiet.2] at htype
    cases htype
  constructor
  case ledger => exact hledger
  case rows =>
    intro key row hrow
    rw [hfind] at hrow
    rw [hsteps]
    split_ifs at hrow with hkey
    · obtain rfl := Option.some.inj hrow
      subst hkey
      exact ⟨step, hstep,
        { execution := hexecutions ▸ hchecked.execution
          tenant := hruns ▸ hchecked.tenant
          named := hchecked.named
          arguments := hchecked.arguments
          tool := hchecked.tool step hstep
          opened := fun _ ↦ by
            rw [houtcomes, hstepEnds]
            exact ⟨outcomeEvents_of_fresh horder hfresh runId, hends⟩
          closed := fun hterminal ↦ by
            rw [hprepared] at hterminal
            cases hterminal }⟩
    · obtain ⟨parent, hparent, hold⟩ := horder.rows key row hrow
      exact ⟨parent, hparent,
        { execution := hexecutions ▸ hold.execution
          tenant := hruns ▸ hold.tenant
          named := hold.named
          arguments := hold.arguments
          tool := hold.tool
          opened := by rw [houtcomes, hstepEnds]; exact hold.opened
          closed := by rw [houtcomes, hstepEnds]; exact hold.closed }⟩
  case owned =>
    intro known hmem htype
    rw [hlog, List.mem_append] at hmem
    cases hmem with
    | inl hold =>
      obtain ⟨key, row, hrow, hid⟩ := horder.owned known hold htype
      have hkey : key ≠ (runId, stepId) := by
        intro heq
        rw [heq, hnone] at hrow
        cases hrow
      exact ⟨key, row, by rw [hfind, if_neg hkey, hrow], hid⟩
    | inr hnew =>
      rw [List.mem_singleton.mp hnew, hquiet.1] at htype
      cases htype

/-! ### A rewritten action -/

/-- The events of a rewrite that report an end report that of the rewritten action and its
step. -/
structure OwnEnds (key : String × String) (actionId : String) (events : List EventRow) : Prop where
  outcome : ∀ event ∈ events, isOutcomeType event.eventType = true →
    event.payload.getD "action_id" = .str actionId
  stepEnd : ∀ event ∈ events, isStepEndType event.eventType = true →
    event.runId = key.1 ∧ event.payload.getD "step_id" = .str key.2

theorem EvidenceInOrder.rewrite {db after : Database} {key : String × String}
    {action next : ExternalActionRow} {step : ToolCallRow} {events : List EventRow}
    (horder : EvidenceInOrder db) (hledger : LedgerInOrder after)
    (hrewrites : Rewrites db after key action next events)
    (hexecutions : after.executions = db.executions) (hruns : after.runs = db.runs)
    (hown : OwnEnds key action.actionId events)
    (hstep : after.toolCalls.find key = some step)
    (hrow : ActionEvidenced after key next step) : EvidenceInOrder after := by
  constructor
  case ledger => exact hledger
  case rows =>
    intro other row hfind
    rw [hrewrites.actions] at hfind
    split_ifs at hfind with hother
    · obtain rfl := Option.some.inj hfind
      exact hother ▸ ⟨step, hstep, hrow⟩
    · obtain ⟨parent, hparent, hold⟩ := horder.rows other row hfind
      have houtcomes : outcomeEvents after other.1 row.actionId =
          outcomeEvents db other.1 row.actionId := by
        refine outcomeEvents_of_none hrewrites.log fun event hmem _ htype hid ↦ ?_
        rw [hown.outcome event hmem htype, Json.str.injEq] at hid
        exact hother (horder.ledger.distinct other key row action hfind hrewrites.find hid.symm)
      have hends : stepEndEvents after other.1 other.2 = stepEndEvents db other.1 other.2 := by
        refine stepEndEvents_of_none hrewrites.log fun event hmem hrun htype hid ↦ ?_
        obtain ⟨hownRun, hownStep⟩ := hown.stepEnd event hmem htype
        rw [hownStep, Json.str.injEq] at hid
        exact hother (Prod.ext (hrun.symm.trans hownRun) hid.symm)
      refine ⟨parent, (hrewrites.steps other hother).trans hparent, ?_⟩
      exact
        { execution := hexecutions ▸ hold.execution
          tenant := hruns ▸ hold.tenant
          named := hold.named
          arguments := hold.arguments
          tool := hold.tool
          opened := by rw [houtcomes, hends]; exact hold.opened
          closed := by rw [houtcomes, hends]; exact hold.closed }
  case owned =>
    intro event hmem htype
    rw [hrewrites.log, List.mem_append] at hmem
    cases hmem with
    | inl hold =>
      obtain ⟨other, row, hfind, howner⟩ := horder.owned event hold htype
      by_cases hother : other = key
      · subst hother
        obtain rfl := Option.some.inj (hfind.symm.trans hrewrites.find)
        refine ⟨other, next, ?_, howner.trans (congrArg Json.str hrewrites.actionId.symm)⟩
        rw [hrewrites.actions, if_pos rfl]
      · refine ⟨other, row, ?_, howner⟩
        rw [hrewrites.actions, if_neg hother, hfind]
    | inr hnew =>
      refine ⟨key, next, ?_, ?_⟩
      · rw [hrewrites.actions, if_pos rfl]
      · rw [hown.outcome event hnew htype, hrewrites.actionId]

theorem EvidenceInOrder.dispatch {db : Database} {reading : Reading} {runId stepId : String}
    {action : ExternalActionRow} {retry : Bool} (horder : EvidenceInOrder db)
    (hfind : db.externalActions.find (runId, stepId) = some action)
    (hopen : action.status.isTerminal = false) :
    EvidenceInOrder (recordDispatch db reading runId stepId action retry) := by
  have hledger : LedgerInOrder (recordDispatch db reading runId stepId action retry) :=
    horder.ledger.dispatch hfind hopen
  have hrewrites : Rewrites db (recordDispatch db reading runId stepId action retry)
      (runId, stepId) action
      (dispatchedAction action ("dispatch_" ++ reading.uuid 0) (reading.utcNow 0)) _ :=
    rewrites_recordDispatch hfind
  have hneutral : ∀ event ∈ [dispatchStarted db reading runId stepId action retry],
      isOutcomeType event.eventType = false ∧ isStepEndType event.eventType = false := by
    intro event hmem
    rw [List.mem_singleton.mp hmem]
    exact (by decide : isOutcomeType "external_action.dispatch_started" = false ∧
      isStepEndType "external_action.dispatch_started" = false)
  obtain ⟨step, hstep, hrow⟩ := horder.rows _ _ hfind
  have houtcomes : outcomeEvents (recordDispatch db reading runId stepId action retry) runId
      action.actionId = outcomeEvents db runId action.actionId := by
    refine outcomeEvents_of_none hrewrites.log fun event hmem _ htype ↦ ?_
    rw [(hneutral event hmem).1] at htype
    cases htype
  have hends : stepEndEvents (recordDispatch db reading runId stepId action retry) runId stepId =
      stepEndEvents db runId stepId := by
    refine stepEndEvents_of_none hrewrites.log fun event hmem _ htype ↦ ?_
    rw [(hneutral event hmem).2] at htype
    cases htype
  have hown : OwnEnds (runId, stepId) action.actionId
      [dispatchStarted db reading runId stepId action retry] := by
    constructor
    · intro event hmem htype
      rw [(hneutral event hmem).1] at htype
      cases htype
    · intro event hmem htype
      rw [(hneutral event hmem).2] at htype
      cases htype
  refine horder.rewrite hledger hrewrites rfl rfl hown hstep ?_
  exact
    { execution := hrow.execution
      tenant := hrow.tenant
      named := hrow.named
      arguments := hrow.arguments
      tool := hrow.tool
      opened := fun _ ↦ by
        obtain ⟨hnoOutcome, hnoEnd⟩ := hrow.opened hopen
        exact ⟨houtcomes.trans hnoOutcome, hends.trans hnoEnd⟩
      closed := fun hterminal ↦ by cases hterminal }

/-! ### A settled action -/

section Settled

variable (db : Database) (reading : Reading) (runId stepId : String) (action : ExternalActionRow)
  (step : ToolCallRow) (outcome : ExternalActionOutcome)

theorem outcomeEvent_type (hterminal : outcome.actionStatus.isTerminal = true) :
    isOutcomeType (outcomeEvent db reading runId stepId action outcome).eventType = true ∧
      isStepEndType (outcomeEvent db reading runId stepId action outcome).eventType = false := by
  simp only [outcomeEvent, newEvent]
  cases hstatus : outcome.actionStatus with
  | prepared | dispatching =>
    rw [hstatus] at hterminal
    cases hterminal
  | succeeded | failed | outcomeUnknown => decide

theorem settledStepEvent_type :
    isStepEndType (settledStepEvent db reading runId stepId action step outcome).eventType = true ∧
      isOutcomeType (settledStepEvent db reading runId stepId action step outcome).eventType =
        false := by
  simp only [settledStepEvent, newEvent]
  split <;> decide

theorem outcomeEvent_actionId :
    (outcomeEvent db reading runId stepId action outcome).payload.getD "action_id" =
      .str action.actionId := by
  simp [outcomeEvent, newEvent, outcomePayload, Payload.getD, Payload.get?, Json.lookup]

theorem settledStepEvent_stepId :
    (settledStepEvent db reading runId stepId action step outcome).payload.getD "step_id" =
      .str stepId := by
  simp [settledStepEvent, newEvent, stepFinishedPayload, Payload.getD, Payload.get?, Json.lookup]

theorem eqOptionText_textColumn (text : Option String) :
    (textColumn text).eqOptionText text = true := by
  cases text <;> simp [textColumn, Json.ofOption, Json.eqOptionText]

theorem outcomeEvent_consistent :
    actionEventConsistent stepId (finalizedAction action outcome (reading.utcNow 0))
      (outcomeEvent db reading runId stepId action outcome) = true := by
  simp [actionEventConsistent, outcomeEvent, newEvent, outcomePayload, finalizedAction,
    Payload.getD, Payload.get?, Json.lookup, eqOptionText_textColumn, Json.nat, Json.eqInt]

theorem settledStepEvent_consistent (hchecked : OutcomeChecked outcome) :
    stepEventConsistent (finalizedAction action outcome (reading.utcNow 0))
      (settledStep reading step outcome)
      (settledStepEvent db reading runId stepId action step outcome) = true := by
  have htool : outcome.toolStatus = .completed ↔ outcome.actionStatus = .succeeded := by
    constructor
    · intro hcompleted
      by_contra hne
      rw [(hchecked.unsuccessful hne).1] at hcompleted
      cases hcompleted
    · exact fun hsucceeded ↦ (hchecked.succeeded hsucceeded).1
  by_cases hsucceeded : outcome.actionStatus = .succeeded
  · have hcompleted := htool.mpr hsucceeded
    simp [stepEventConsistent, settledStepEvent, newEvent, stepFinishedPayload, settledStep,
      finishedStep, finalizedAction, Payload.getD, Payload.get?, Json.lookup,
      eqOptionText_textColumn, Json.nat, Json.eqInt, hsucceeded, hcompleted]
  · have hfailed : outcome.toolStatus ≠ .completed := fun h ↦ hsucceeded (htool.mp h)
    simp [stepEventConsistent, settledStepEvent, newEvent, stepFinishedPayload, settledStep,
      finishedStep, finalizedAction, Payload.getD, Payload.get?, Json.lookup,
      eqOptionText_textColumn, Json.nat, Json.eqInt, hsucceeded, hfailed]

theorem rowConsistent_of_settled (hchecked : OutcomeChecked outcome) :
    rowConsistent (finalizedAction action outcome (reading.utcNow 0))
      (settledStep reading step outcome) = true := by
  by_cases hsucceeded : outcome.actionStatus = .succeeded
  · obtain ⟨htool, ⟨fields, hresult⟩, hreference, herror⟩ := hchecked.succeeded hsucceeded
    have hnamed : outcome.providerReference.getD "" ≠ "" := by
      rw [← String.isEmpty_eq_false_iff]
      exact hreference
    simp [rowConsistent, finalizedAction, settledStep, finishedStep, hsucceeded, htool, hresult,
      hnamed, herror]
  · obtain ⟨htool, hresult, herror⟩ := hchecked.unsuccessful hsucceeded
    have hnamed : outcome.errorCode.getD "" ≠ "" := by
      rw [← String.isEmpty_eq_false_iff]
      exact herror
    simp [rowConsistent, finalizedAction, settledStep, finishedStep, hsucceeded, htool, hresult,
      hnamed]

end Settled

theorem EvidenceInOrder.settle {db : Database} {reading : Reading} {runId stepId : String}
    {action : ExternalActionRow} {step : ToolCallRow} {outcome : ExternalActionOutcome}
    (horder : EvidenceInOrder db)
    (hfind : db.externalActions.find (runId, stepId) = some action)
    (hstep : db.toolCalls.find (runId, stepId) = some step)
    (hdispatching : action.status = .dispatching) (hchecked : OutcomeChecked outcome) :
    EvidenceInOrder (recordOutcome db reading runId stepId action step outcome) := by
  have hterminal := hchecked.terminal
  have hledger : LedgerInOrder (recordOutcome db reading runId stepId action step outcome) :=
    horder.ledger.settle hfind hstep hdispatching hchecked
  have hrewrites : Rewrites db (recordOutcome db reading runId stepId action step outcome)
      (runId, stepId) action (finalizedAction action outcome (reading.utcNow 0)) _ :=
    rewrites_recordOutcome hfind hstep hterminal
  have houtcomeType := outcomeEvent_type db reading runId stepId action outcome hterminal
  have hendType := settledStepEvent_type db reading runId stepId action step outcome
  have hid := outcomeEvent_actionId db reading runId stepId action outcome
  have hstepId := settledStepEvent_stepId db reading runId stepId action step outcome
  obtain ⟨parent, hparent, hrow⟩ := horder.rows _ _ hfind
  obtain rfl : parent = step := Option.some.inj (hparent.symm.trans hstep)
  obtain ⟨hnoOutcome, hnoEnd⟩ := hrow.opened (by rw [hdispatching]; rfl)
  have hown : OwnEnds (runId, stepId) action.actionId
      [outcomeEvent db reading runId stepId action outcome,
        settledStepEvent db reading runId stepId action parent outcome] := by
    constructor
    · intro event hmem htype
      rcases List.mem_pair.mp hmem with rfl | rfl
      · exact hid
      · rw [hendType.2] at htype
        cases htype
    · intro event hmem htype
      rcases List.mem_pair.mp hmem with rfl | rfl
      · rw [houtcomeType.2] at htype
        cases htype
      · exact ⟨rfl, hstepId⟩
  have hafter : (recordOutcome db reading runId stepId action parent outcome).toolCalls.find
      (runId, stepId) = some (settledStep reading parent outcome) := by
    rw [recordOutcome_step, if_pos rfl, hstep]
    rfl
  refine horder.rewrite hledger hrewrites rfl rfl hown hafter ?_
  exact
    { execution := hrow.execution
      tenant := hrow.tenant
      named := hrow.named
      arguments := hrow.arguments
      tool := hrow.tool
      opened := fun hopen ↦ by
        rw [show (finalizedAction action outcome (reading.utcNow 0)).status = outcome.actionStatus
          from rfl, hterminal] at hopen
        cases hopen
      closed := fun _ ↦ by
        have hrun : (outcomeEvent db reading runId stepId action outcome).runId = runId := rfl
        have hstepRun : (settledStepEvent db reading runId stepId action parent outcome).runId =
          runId := rfl
        refine ⟨rowConsistent_of_settled reading action parent outcome hchecked, ?_, ?_⟩
        · have hevents : outcomeEvents (recordOutcome db reading runId stepId action parent outcome)
              runId action.actionId = [outcomeEvent db reading runId stepId action outcome] := by
            rw [outcomeEvents_append hrewrites.log, hnoOutcome]
            simp [houtcomeType.1, hendType.2, hid, hrun, hstepRun]
          exact (congrArg (singleEvent · _) hevents).trans
            (outcomeEvent_consistent db reading runId stepId action outcome)
        · have hevents : stepEndEvents (recordOutcome db reading runId stepId action parent outcome)
              runId stepId = [settledStepEvent db reading runId stepId action parent outcome] := by
            rw [stepEndEvents_append hrewrites.log, hnoEnd]
            simp [houtcomeType.2, hendType.1, hstepId, hrun, hstepRun]
          exact (congrArg (singleEvent · _) hevents).trans
            (settledStepEvent_consistent db reading runId stepId action parent outcome hchecked) }

/-! ### One request and all of them -/

theorem isEndType_of_verdict {call : WorkflowCall} {runId eventType : String}
    {status : WorkflowStatus} {result : Option Json} {code : Option String}
    (hcall : call.verdict = some (runId, status, eventType, result, code)) :
    isOutcomeType eventType = false ∧ isStepEndType eventType = false := by
  cases call with
  | finalizeReady | finalizeBlocked | finalizeFailed =>
    obtain ⟨-, -, rfl, -⟩ := Prod.mk.injEq _ _ _ _ ▸ Option.some.inj hcall
    decide
  | _ => cases hcall

section Steps

variable {db after : Database} {event : EventRow}

/-- A change of executions and of the log. -/
theorem undisturbed_of_execution (hactions : after.externalActions = db.externalActions)
    (hsteps : after.toolCalls = db.toolCalls) (hruns : after.runs = db.runs)
    (hexecutions : ∀ runId execution, db.executions.find runId = some execution →
      ∃ next, after.executions.find runId = some next ∧
        next.workflowType = execution.workflowType)
    (hlog : after.workflowEvents = db.workflowEvents ++ [event])
    (hneutral : isOutcomeType event.eventType = false ∧ isStepEndType event.eventType = false) :
    Undisturbed db after where
  actions := hactions
  parents _ _ _ := by rw [hsteps]
  executions := hexecutions
  runs runId run hrun := ⟨run, hruns ▸ hrun, rfl⟩
  log := by
    refine ⟨[event], hlog, fun other hmem ↦ ?_⟩
    rw [List.mem_singleton.mp hmem, hneutral.1, hneutral.2]
    exact ⟨rfl, fun hend ↦ by cases hend⟩

/-- A change of one step that is no parent of an action. -/
theorem undisturbed_of_step {runId stepId : String}
    (hnone : db.externalActions.find (runId, stepId) = none)
    (hactions : after.externalActions = db.externalActions)
    (hsteps : ∀ key, key ≠ (runId, stepId) → after.toolCalls.find key = db.toolCalls.find key)
    (hexecutions : after.executions = db.executions) (hruns : after.runs = db.runs)
    (hlog : after.workflowEvents = db.workflowEvents ++ [event])
    (hquiet : isOutcomeType event.eventType = false)
    (hown : isStepEndType event.eventType = true →
      event.runId = runId ∧ event.payload.getD "step_id" = .str stepId) :
    Undisturbed db after where
  actions := hactions
  parents key action hfind := by
    refine hsteps key fun hkey ↦ ?_
    rw [hkey, hnone] at hfind
    cases hfind
  executions run execution hexecution := ⟨execution, hexecutions ▸ hexecution, rfl⟩
  runs run row hrow := ⟨row, hruns ▸ hrow, rfl⟩
  log := by
    refine ⟨[event], hlog, fun other hmem ↦ ?_⟩
    rw [List.mem_singleton.mp hmem]
    refine ⟨hquiet, fun hend id hid ↦ ?_⟩
    obtain ⟨hrun, hstepId⟩ := hown hend
    rw [hstepId, Json.str.injEq] at hid
    rw [hrun, ← hid]
    exact hnone

end Steps

/-- An execution keeps its type through an update. -/
theorem workflowType_of_update {db : Database} {runId : String} {row next : ExecutionRow}
    (hfind : db.executions.find runId = some row)
    (htype : next.workflowType = row.workflowType) (other : String) (execution : ExecutionRow)
    (hexecution : db.executions.find other = some execution) :
    ∃ later, (db.executions.modify runId fun _ ↦ next).find other = some later ∧
      later.workflowType = execution.workflowType := by
  rw [Table.find_modify]
  split_ifs with hother
  · subst hother
    obtain rfl : row = execution := Option.some.inj (hfind.symm.trans hexecution)
    exact ⟨next, by rw [hexecution]; rfl, htype⟩
  · exact ⟨execution, hexecution, rfl⟩

/-- A step outside the updated key is found as before. -/
theorem step_of_update {db : Database} {runId stepId : String} {change : ToolCallRow → ToolCallRow}
    (key : String × String) (hkey : key ≠ (runId, stepId)) :
    (db.toolCalls.modify (runId, stepId) change).find key = db.toolCalls.find key := by
  rw [Table.find_modify, if_neg hkey]

/-- The parent of an action was there before the action. -/
theorem LedgerInOrder.action_of_noStep {db : Database} (horder : LedgerInOrder db)
    {key : String × String} (hnone : db.toolCalls.find key = none) :
    db.externalActions.find key = none := by
  cases hfind : db.externalActions.find key with
  | none => rfl
  | some action =>
    obtain ⟨step, hstep, -⟩ := (horder.rows key action hfind).parent
    rw [hnone] at hstep
    cases hstep

/-- Every committed transition of the workflow store keeps the evidence in order. -/
theorem evidenceInOrder_of_workflow {db after : Database} {reading : Reading}
    {call : WorkflowCall} {reply : call.Reply} (horder : EvidenceInOrder db)
    (hperform : call.perform db reading = .ok (reply, after))
    (hparent : call.keepsParent db = true) (hkeeps : call.keepsEvidence db = true) :
    EvidenceInOrder after := by
  have hchange := workflowChange_of_perform hperform
  have hledger := ledgerInOrder_of_workflow horder.ledger hchange hparent
  cases hchange with
  | same hafter => exact hafter ▸ horder
  | createExecution runId _ _ _ _ hnone hafter =>
    subst hafter
    refine horder.undisturbed hledger
      ⟨rfl, fun _ _ _ ↦ rfl, fun other execution hexecution ↦ ?_, fun _ run hrun ↦ ⟨run, hrun, rfl⟩,
        [], (List.append_nil _).symm, by simp⟩
    have hother : other ≠ runId := by
      intro heq
      rw [heq, hnone] at hexecution
      cases hexecution
    refine ⟨execution, ?_, rfl⟩
    rw [Table.find_insert_of_fresh _ _ _ _ hnone, if_neg hother, hexecution]
  | startExecution _ _ row _ hfind _ hafter =>
    subst hafter
    refine horder.undisturbed hledger (undisturbed_of_execution rfl rfl rfl
      (workflowType_of_update hfind rfl) rfl ?_)
    exact (by decide : isOutcomeType "workflow.started" = false ∧
      isStepEndType "workflow.started" = false)
  | finalizeExecution _ _ _ _ _ row hcall hfind _ hafter =>
    subst hafter
    exact horder.undisturbed hledger (undisturbed_of_execution rfl rfl rfl
      (workflowType_of_update hfind rfl) rfl (isEndType_of_verdict hcall))
  | reuseStep _ target stepId _ _ _ _ _ _ _ _ hnone _ hafter =>
    subst hafter
    refine horder.undisturbed hledger (undisturbed_of_step (horder.ledger.action_of_noStep hnone)
      rfl (fun key hkey ↦ ?_) rfl rfl rfl ?_ ?_)
    · exact (Table.find_insert_of_fresh _ _ _ _ hnone).trans (if_neg hkey)
    · exact (by decide : isOutcomeType "step.replay_reused" = false)
    · intro hend
      cases hend
  | claimFresh runId stepId _ _ _ _ _ _ _ hnone hafter =>
    subst hafter
    refine horder.undisturbed hledger (undisturbed_of_step (horder.ledger.action_of_noStep hnone)
      rfl (fun key hkey ↦ ?_) rfl rfl rfl ?_ ?_)
    · exact (Table.find_insert_of_fresh _ _ _ _ hnone).trans (if_neg hkey)
    · exact (by decide : isOutcomeType "step.claimed" = false)
    · intro hend
      cases hend
  | claimRetry runId stepId _ _ _ _ previous hcall hfind _ hbudget hafter =>
    subst hafter hcall
    have hnone : db.externalActions.find (runId, stepId) = none :=
      action_of_claimRetry horder.ledger hfind hbudget hparent
    refine horder.undisturbed hledger (undisturbed_of_step hnone rfl step_of_update rfl rfl rfl
      ?_ ?_)
    · exact (by decide : isOutcomeType "step.claimed" = false)
    · intro hend
      cases hend
  | finishStep runId stepId _ _ row status _ _ _ _ hcall hfind hheld hafter =>
    subst hafter
    have hnone : db.externalActions.find (runId, stepId) = none := by
      rcases hcall with ⟨_, rfl, -⟩ | ⟨_, rfl, -⟩ <;>
        simpa [WorkflowCall.keepsParent] using hparent
    refine horder.undisturbed hledger (undisturbed_of_step hnone rfl step_of_update rfl rfl rfl
      ?_ fun _ ↦ ⟨rfl, ?_⟩)
    · rcases hcall with ⟨_, -, -, -, -, rfl, -⟩ | ⟨_, -, -, -, -, rfl, -⟩
      · exact (by decide : isOutcomeType "step.completed" = false)
      · exact (by decide : isOutcomeType "step.failed" = false)
    · simp [newEvent, stepFinishedPayload, Payload.getD, Payload.get?, Json.lookup]
  | recoverStep runId stepId _ row hcall hfind hrunning hafter =>
    subst hafter hcall
    have hnone : db.externalActions.find (runId, stepId) = none := by
      simpa [WorkflowCall.keepsParent] using hparent
    refine horder.undisturbed hledger (undisturbed_of_step hnone rfl step_of_update rfl rfl rfl
      ?_ ?_)
    · exact (by decide : isOutcomeType "step.interrupted_recovery" = false)
    · intro hend
      cases hend
  | prepareAction runId stepId attempt arguments token step _ action hcall _ hstep _ hnone _ hfresh
      haction hafter =>
    subst hcall
    have hends : stepEndEvents db runId stepId = [] := by
      simpa [WorkflowCall.keepsEvidence, hnone] using hkeeps
    have hinserted : after.externalActions.find (runId, stepId) ≠
        db.externalActions.find (runId, stepId) := by
      have hfound : after.externalActions.find (runId, stepId) = some action := by
        rw [hafter]
        exact (Table.find_insert_of_fresh _ _ _ _ hnone).trans (if_pos rfl)
      rw [hfound, hnone]
      exact Option.some_ne_none action
    have hchecked : PreparedChecked db runId stepId action := by
      rw [haction]
      exact preparedChecked_of_prepare hperform hinserted _ _
    subst hafter haction
    refine horder.prepare hledger hchecked hstep hends hnone hfresh rfl rfl rfl rfl rfl rfl ?_
    exact (by decide : isOutcomeType "external_action.prepared" = false ∧
      isStepEndType "external_action.prepared" = false)
  | beginDispatch _ _ _ _ _ _ _ _ hfind hprepared _ _ _ _ _ hafter =>
    subst hafter
    exact horder.dispatch hfind (by rw [hprepared]; rfl)
  | retryDispatch _ _ _ _ _ _ _ _ hfind hdispatching _ _ _ _ hafter =>
    subst hafter
    exact horder.dispatch hfind (by rw [hdispatching]; rfl)
  | settle _ _ _ _ _ hchecked hfind hdispatching _ hstep _ hafter =>
    subst hafter
    exact horder.settle hfind hstep hdispatching (outcomeChecked_of_checkedOutcome hchecked)
  | appendEvent _ eventType _ _ _ hcall _ hafter =>
    subst hafter hcall
    refine horder.undisturbed hledger (undisturbed_of_execution rfl rfl rfl
      (fun _ execution hexecution ↦ ⟨execution, hexecution, rfl⟩) rfl ?_)
    simpa [WorkflowCall.keepsEvidence, newEvent] using hkeeps

end AgentRuntime.Store
