import AgentRuntime.Store.EvidenceLedger

/-!
# What the operator's evidence check accepts

`_terminal_external_action_evidence_is_consistent` accepts every ledger whose evidence is in order
once its actions are terminal. It accepts nothing less: `Tampering` lists the changes of one column
of an action or of its step, and of one event that reports how they ended, and each of them makes
the check fail.
-/

set_option autoImplicit false
set_option relaxedAutoImplicit false

namespace AgentRuntime.Store

open Library

/-! ### One action -/

/-- What the check of one action finds in order. -/
structure ActionAccepted (db : Database) (runId tenantId : String) (execution : ExecutionRow)
    (stepId : String) (action : ExternalActionRow) (step : ToolCallRow) : Prop where
  terminal : action.status.isTerminal = true
  tenant : action.tenantId = tenantId
  workflowType : action.workflowType = execution.workflowType
  named : action.providerName ≠ "" ∧ action.providerIdentity ≠ "" ∧ action.idempotencyKey ≠ ""
  arguments : ∃ fields, action.argumentsJson = .obj fields
  dispatched : 1 ≤ action.dispatchCount ∧ action.dispatchToken.isSome = true
  find : db.toolCalls.find (runId, stepId) = some step
  tool : step.toolName = action.toolName ∧ step.inputHash = action.inputHash
  row : rowConsistent action step = true
  outcome : singleEvent (outcomeEvents db runId action.actionId)
    (actionEventConsistent stepId action) = true
  stepEnd : singleEvent (stepEndEvents db runId stepId) (stepEventConsistent action step) = true

theorem actionEvidenceConsistent_iff (db : Database) (runId tenantId : String)
    (execution : ExecutionRow) (stepId : String) (action : ExternalActionRow) :
    actionEvidenceConsistent db runId tenantId execution stepId action = true ↔
      ∃ step, ActionAccepted db runId tenantId execution stepId action step := by
  unfold actionEvidenceConsistent
  cases hstep : db.toolCalls.find (runId, stepId) with
  | none =>
    simp only [Bool.and_false, Bool.false_eq_true, false_iff, not_exists]
    intro step haccepted
    rw [haccepted.find] at hstep
    cases hstep
  | some step =>
    simp only [Bool.and_eq_true, beq_iff_eq, bne_iff_ne, decide_eq_true_eq]
    constructor
    · rintro ⟨⟨⟨⟨⟨⟨⟨⟨⟨hterminal, htenant⟩, htype⟩, hname⟩, hidentity⟩, hkey⟩, hfields⟩, hcount⟩,
        htoken⟩, ⟨⟨⟨htool, hhash⟩, hrow⟩, houtcome⟩, hend⟩
      have harguments : ∃ fields, action.argumentsJson = .obj fields := by
        revert hfields
        cases action.argumentsJson <;> simp
      exact ⟨step, hterminal, htenant, htype, ⟨hname, hidentity, hkey⟩, harguments,
        ⟨hcount, htoken⟩, hstep, ⟨htool, hhash⟩, hrow, houtcome, hend⟩
    · rintro ⟨other, haccepted⟩
      obtain rfl : step = other := Option.some.inj (hstep.symm.trans haccepted.find)
      obtain ⟨fields, hfields⟩ := haccepted.arguments
      exact ⟨⟨⟨⟨⟨⟨⟨⟨⟨haccepted.terminal, haccepted.tenant⟩, haccepted.workflowType⟩,
        haccepted.named.1⟩, haccepted.named.2.1⟩, haccepted.named.2.2⟩,
        by rw [hfields]⟩,
        haccepted.dispatched.1⟩, haccepted.dispatched.2⟩,
        ⟨⟨⟨haccepted.tool.1, haccepted.tool.2⟩, haccepted.row⟩, haccepted.outcome⟩,
        haccepted.stepEnd⟩

/-! ### Acceptance -/

/-- The check of one terminal action passes. -/
theorem EvidenceInOrder.actionAccepted {db : Database} (horder : EvidenceInOrder db)
    {runId stepId : String} {action : ExternalActionRow} {run : RunRow} {execution : ExecutionRow}
    (hfind : db.externalActions.find (runId, stepId) = some action)
    (hterminal : action.status.isTerminal = true) (hrun : db.runs.find runId = some run)
    (hexecution : db.executions.find runId = some execution) :
    ∃ step, ActionAccepted db runId run.tenantId execution stepId action step := by
  obtain ⟨step, hstep, hrow⟩ := horder.rows _ _ hfind
  obtain ⟨hconsistent, houtcome, hend⟩ := hrow.closed hterminal
  obtain ⟨other, hother, htype⟩ := hrow.execution
  obtain rfl : other = execution := Option.some.inj (hother.symm.trans hexecution)
  obtain ⟨owner, howner, htenant⟩ := hrow.tenant
  obtain rfl : owner = run := Option.some.inj (howner.symm.trans hrun)
  have hprepared : action.status ≠ .prepared := by
    intro heq
    rw [heq] at hterminal
    cases hterminal
  exact ⟨step,
    { terminal := hterminal
      tenant := htenant.symm
      workflowType := htype.symm
      named := hrow.named
      arguments := hrow.arguments
      dispatched := (horder.ledger.rows _ _ hfind).dispatched hprepared
      find := hstep
      tool := hrow.tool
      row := hconsistent
      outcome := houtcome
      stepEnd := hend }⟩

/-- The check passes once every action of the Run is terminal. -/
theorem EvidenceInOrder.consistent {db : Database} (horder : EvidenceInOrder db) {runId : String}
    {run : RunRow} (hrun : db.runs.find runId = some run)
    (hsome : ∃ stepId action, db.externalActions.find (runId, stepId) = some action)
    (hterminal : ∀ stepId action, db.externalActions.find (runId, stepId) = some action →
      action.status.isTerminal = true) :
    terminalExternalActionEvidenceIsConsistent db runId run.tenantId = true := by
  obtain ⟨firstStep, first, hfirst⟩ := hsome
  obtain ⟨step, hstep, hrow⟩ := horder.rows _ _ hfirst
  obtain ⟨execution, hexecution, -⟩ := hrow.execution
  unfold terminalExternalActionEvidenceIsConsistent
  have hfound : db.executions.find runId = some execution := hexecution
  rw [hfound]
  simp only [List.all_eq_true]
  rintro ⟨stepId, action⟩ hmem
  rw [mem_actionRows] at hmem
  rw [actionEvidenceConsistent_iff]
  exact horder.actionAccepted hmem (hterminal stepId action hmem) hrun hfound

/-- A check that passes leaves no objection to the evidence. -/
theorem not_inconsistent_of_consistent {db : Database} {runId tenantId : String} {run : RunRow}
    (hconsistent : terminalExternalActionEvidenceIsConsistent db runId tenantId = true) :
    "external_action_evidence_inconsistent" ∉ ineligibilityReasons db runId tenantId run := by
  unfold ineligibilityReasons
  simp only [hconsistent, Bool.not_true, Bool.and_false, Bool.false_eq_true, if_false,
    List.append_nil, List.mem_append, not_or]
  refine ⟨⟨⟨⟨⟨⟨?_, ?_⟩, ?_⟩, ?_⟩, ?_⟩, ?_⟩, ?_⟩
  case refine_3 =>
    split
    · simp
    · split_ifs <;> simp
  all_goals split_ifs <;> simp

/-! ### Tampering -/

/-- One column of an action has another value. -/
inductive ActionColumnChanged (action : ExternalActionRow) : ExternalActionRow → Prop
  | status (value : ExternalActionStatus) (hother : value ≠ action.status) :
    ActionColumnChanged action { action with status := value }
  | dispatchCount (value : Nat) (hother : value ≠ action.dispatchCount) :
    ActionColumnChanged action { action with dispatchCount := value }
  | providerReference (value : Option String) (hother : value ≠ action.providerReference) :
    ActionColumnChanged action { action with providerReference := value }
  | errorCode (value : Option String) (hother : value ≠ action.errorCode) :
    ActionColumnChanged action { action with errorCode := value }
  | resultJson (value : Option Json) (hother : value ≠ action.resultJson) :
    ActionColumnChanged action { action with resultJson := value }

/-- One column of a step has another value. -/
inductive StepColumnChanged (step : ToolCallRow) : ToolCallRow → Prop
  | status (value : ToolCallStatus) (hother : value ≠ step.status) :
    StepColumnChanged step { step with status := value }
  | errorCode (value : Option String) (hother : value ≠ step.errorCode) :
    StepColumnChanged step { step with errorCode := value }
  | resultJson (value : Option Json) (hother : value ≠ step.resultJson) :
    StepColumnChanged step { step with resultJson := value }

/-- The event reports how the action or its step ended. -/
def ReportsEnd (db : Database) (runId stepId : String) (action : ExternalActionRow)
    (event : EventRow) : Prop :=
  event ∈ outcomeEvents db runId action.actionId ∨ event ∈ stepEndEvents db runId stepId

/-- One column of an action or of its step is changed, or one event that reports their end is
deleted or written a second time. -/
inductive Tampering (db : Database) (runId stepId : String) (action : ExternalActionRow) :
    Database → Prop
  | action (next : ExternalActionRow) (hchanged : ActionColumnChanged action next) :
    Tampering db runId stepId action
      { db with externalActions := db.externalActions.modify (runId, stepId) fun _ ↦ next }
  | step (step next : ToolCallRow) (hfind : db.toolCalls.find (runId, stepId) = some step)
    (hchanged : StepColumnChanged step next) :
    Tampering db runId stepId action
      { db with toolCalls := db.toolCalls.modify (runId, stepId) fun _ ↦ next }
  | deletion (before rest : List EventRow) (event : EventRow)
    (hlog : db.workflowEvents = before ++ event :: rest)
    (hreports : ReportsEnd db runId stepId action event) :
    Tampering db runId stepId action { db with workflowEvents := before ++ rest }
  | duplication (before rest : List EventRow) (event copy : EventRow)
    (hlog : db.workflowEvents = before ++ rest)
    (hreports : ReportsEnd db runId stepId action event)
    (hcopy : copy.runId = event.runId ∧ copy.eventType = event.eventType ∧
      copy.payload = event.payload) :
    Tampering db runId stepId action { db with workflowEvents := before ++ copy :: rest }

theorem singleEvent_iff (events : List EventRow) (check : EventRow → Bool) :
    singleEvent events check = true ↔ ∃ event, events = [event] ∧ check event = true := by
  unfold singleEvent
  split
  · simp
  · next hother =>
    simp only [Bool.false_eq_true, false_iff, not_exists, not_and]
    intro event heq
    exact (hother event heq).elim

theorem eqInt_unique {value : Json} {left right : Int} (hleft : value.eqInt left = true)
    (hright : value.eqInt right = true) : left = right := by
  cases value <;> simp_all [Json.eqInt]

theorem eqOptionText_unique {value : Json} {left right : Option String}
    (hleft : value.eqOptionText left = true) (hright : value.eqOptionText right = true) :
    left = right := by
  cases left <;> cases right <;> simp_all [Json.eqOptionText]

theorem ExternalActionStatus.text_injective : Function.Injective ExternalActionStatus.text := by
  intro left right heq
  cases left <;> cases right <;> first | rfl | exact absurd heq (by decide)

/-- An outcome event is consistent with the columns of one row only. -/
theorem columns_of_event {stepId : String} {action next : ExternalActionRow} {event : EventRow}
    (haction : actionEventConsistent stepId action event = true)
    (hnext : actionEventConsistent stepId next event = true) :
    next.status = action.status ∧ next.dispatchCount = action.dispatchCount ∧
      next.providerReference = action.providerReference ∧ next.errorCode = action.errorCode := by
  simp only [actionEventConsistent, Bool.and_eq_true, beq_iff_eq] at haction hnext
  obtain ⟨⟨⟨⟨-, hstatus⟩, hcount⟩, hreference⟩, herror⟩ := haction
  obtain ⟨⟨⟨⟨-, hnextStatus⟩, hnextCount⟩, hnextReference⟩, hnextError⟩ := hnext
  refine ⟨?_, ?_, eqOptionText_unique hnextReference hreference,
    eqOptionText_unique hnextError herror⟩
  · rw [hstatus, Json.str.injEq] at hnextStatus
    exact (ExternalActionStatus.text_injective hnextStatus).symm
  · exact Int.ofNat_inj.mp (eqInt_unique hnextCount hcount)

/-- A step is consistent with one result of its action only. -/
theorem result_of_rowConsistent {action next : ExternalActionRow} {step : ToolCallRow}
    (hstatus : next.status = action.status) (haction : rowConsistent action step = true)
    (hnext : rowConsistent next step = true) : next.resultJson = action.resultJson := by
  unfold rowConsistent at haction hnext
  rw [hstatus] at hnext
  split_ifs at haction hnext
  · simp only [Bool.and_eq_true, beq_iff_eq] at haction hnext
    exact hnext.1.2.symm.trans haction.1.2
  · simp only [Bool.and_eq_true, Option.isNone_iff_eq_none] at haction hnext
    rw [hnext.1.1.1.1, haction.1.1.1.1]

/-- An action is consistent with one outcome of its step only. -/
theorem step_of_rowConsistent {action : ExternalActionRow} {step next : ToolCallRow}
    (hstep : rowConsistent action step = true) (hnext : rowConsistent action next = true) :
    next.status = step.status ∧ next.errorCode = step.errorCode ∧
      next.resultJson = step.resultJson := by
  unfold rowConsistent at hstep hnext
  split_ifs at hstep hnext
  · simp only [Bool.and_eq_true, beq_iff_eq, Option.isNone_iff_eq_none] at hstep hnext
    obtain ⟨⟨⟨-, hstatus⟩, hresult⟩, herror⟩ := hstep
    obtain ⟨⟨⟨-, hnextStatus⟩, hnextResult⟩, hnextError⟩ := hnext
    rw [hstatus, hnextStatus, hresult, hnextResult, herror, hnextError]
    exact ⟨rfl, rfl, rfl⟩
  · simp only [Bool.and_eq_true, beq_iff_eq, Option.isNone_iff_eq_none] at hstep hnext
    obtain ⟨⟨⟨-, hstatus⟩, hresult⟩, herror⟩ := hstep
    obtain ⟨⟨⟨-, hnextStatus⟩, hnextResult⟩, hnextError⟩ := hnext
    rw [hstatus, hnextStatus, hresult, hnextResult, herror, hnextError]
    exact ⟨rfl, rfl, rfl⟩

/-- A filtered list with one element loses it, or is not single any more, when an element that
passes the filter is taken out or put in. -/
theorem filter_of_insert {α : Type} (keep : α → Bool) (before rest : List α) {value : α}
    (hkeep : keep value = true) :
    ((before ++ value :: rest).filter keep).length =
      ((before ++ rest).filter keep).length + 1 := by
  simp only [List.filter_append, List.filter_cons, hkeep, if_true, List.length_append,
    List.length_cons]
  omega

/-! ### Rejection -/

/-- A check that rejects one action rejects the Run. -/
theorem inconsistent_of_action {db : Database} {runId tenantId stepId : String}
    {action : ExternalActionRow} (hfind : db.externalActions.find (runId, stepId) = some action)
    (hrejected : ∀ execution step,
      ¬ ActionAccepted db runId tenantId execution stepId action step) :
    terminalExternalActionEvidenceIsConsistent db runId tenantId = false := by
  unfold terminalExternalActionEvidenceIsConsistent
  split
  · rfl
  · next execution hexecution =>
    rw [List.all_eq_false]
    refine ⟨(stepId, action), (mem_actionRows db runId stepId action).mpr hfind, ?_⟩
    rw [actionEvidenceConsistent_iff]
    rintro ⟨step, haccepted⟩
    exact hrejected execution step haccepted

theorem length_of_singleEvent {events : List EventRow} {check : EventRow → Bool}
    (hsingle : singleEvent events check = true) : events.length = 1 := by
  obtain ⟨event, rfl, -⟩ := (singleEvent_iff events check).mp hsingle
  rfl

section Rejection

variable {db : Database} {runId tenantId stepId : String} {action : ExternalActionRow}
  {step : ToolCallRow}

/-- A changed column of an action contradicts its event or its step. -/
theorem rejected_of_actionColumn {next : ExternalActionRow}
    (hstep : db.toolCalls.find (runId, stepId) = some step)
    (hevidenced : ActionEvidenced db (runId, stepId) action step)
    (hterminal : action.status.isTerminal = true) (hchanged : ActionColumnChanged action next) :
    ∀ execution other, ¬ ActionAccepted { db with
      externalActions := db.externalActions.modify (runId, stepId) fun _ ↦ next } runId tenantId
      execution stepId next other := by
  intro execution other haccepted
  obtain ⟨hrow, houtcome, -⟩ := hevidenced.closed hterminal
  obtain rfl : step = other := Option.some.inj (hstep.symm.trans haccepted.find)
  have hid : next.actionId = action.actionId := by cases hchanged <;> rfl
  have hnext := haccepted.outcome
  rw [hid] at hnext
  obtain ⟨event, hevents, hevent⟩ := (singleEvent_iff _ _).mp houtcome
  obtain ⟨again, hagain, hnextEvent⟩ := (singleEvent_iff _ _).mp hnext
  have hsame : event = again := List.singleton_inj.mp (hevents.symm.trans hagain)
  subst hsame
  obtain ⟨hstatus, hcount, hreference, herror⟩ := columns_of_event hevent hnextEvent
  have hresult := result_of_rowConsistent hstatus hrow haccepted.row
  cases hchanged with
  | status value hother => exact hother hstatus
  | dispatchCount value hother => exact hother hcount
  | providerReference value hother => exact hother hreference
  | errorCode value hother => exact hother herror
  | resultJson value hother => exact hother hresult

/-- A changed column of a step contradicts its action. -/
theorem rejected_of_stepColumn {next : ToolCallRow}
    (hstep : db.toolCalls.find (runId, stepId) = some step)
    (hevidenced : ActionEvidenced db (runId, stepId) action step)
    (hterminal : action.status.isTerminal = true) (hchanged : StepColumnChanged step next) :
    ∀ execution other, ¬ ActionAccepted { db with
      toolCalls := db.toolCalls.modify (runId, stepId) fun _ ↦ next } runId tenantId execution
      stepId action other := by
  intro execution other haccepted
  obtain ⟨hrow, -, -⟩ := hevidenced.closed hterminal
  have hfind : (db.toolCalls.modify (runId, stepId) fun _ ↦ next).find (runId, stepId) =
      some next := by
    rw [Table.find_modify, if_pos rfl, hstep]
    rfl
  obtain rfl : next = other := Option.some.inj (hfind.symm.trans haccepted.find)
  obtain ⟨hstatus, herror, hresult⟩ := step_of_rowConsistent hrow haccepted.row
  cases hchanged with
  | status value hother => exact hother hstatus
  | errorCode value hother => exact hother herror
  | resultJson value hother => exact hother hresult

/-- The events of an action and of its step, as one filter of the log. -/
theorem outcomeEvents_eq_filter (db : Database) (runId actionId : String) :
    outcomeEvents db runId actionId = db.workflowEvents.filter fun event ↦
      (isOutcomeType event.eventType && event.payload.getD "action_id" == .str actionId) &&
        event.runId == runId :=
  List.filter_filter

theorem stepEndEvents_eq_filter (db : Database) (runId stepId : String) :
    stepEndEvents db runId stepId = db.workflowEvents.filter fun event ↦
      (isStepEndType event.eventType && event.payload.getD "step_id" == .str stepId) &&
        event.runId == runId :=
  List.filter_filter

/-- An event more or less about the end of an action leaves its evidence without a single event. -/
theorem rejected_of_events {after : Database}
    (hevidenced : ActionEvidenced db (runId, stepId) action step)
    (hterminal : action.status.isTerminal = true)
    (hcount : (outcomeEvents after runId action.actionId).length ≠
        (outcomeEvents db runId action.actionId).length ∨
      (stepEndEvents after runId stepId).length ≠ (stepEndEvents db runId stepId).length) :
    ∀ execution other,
      ¬ ActionAccepted after runId tenantId execution stepId action other := by
  intro execution other haccepted
  obtain ⟨-, houtcome, hend⟩ := hevidenced.closed hterminal
  have houtcomes : (outcomeEvents db runId action.actionId).length = 1 :=
    length_of_singleEvent houtcome
  have hends : (stepEndEvents db runId stepId).length = 1 := length_of_singleEvent hend
  have hnextOutcomes := length_of_singleEvent haccepted.outcome
  have hnextEnds := length_of_singleEvent haccepted.stepEnd
  omega

/-- Two logs that differ by one event about the end of an action. -/
theorem length_ne_of_insert {fewer more : Database} {before rest : List EventRow} {event : EventRow}
    (hfewer : fewer.workflowEvents = before ++ rest)
    (hmore : more.workflowEvents = before ++ event :: rest)
    (hreports : (isOutcomeType event.eventType = true ∧
        event.payload.getD "action_id" = .str action.actionId ∨
      isStepEndType event.eventType = true ∧ event.payload.getD "step_id" = .str stepId) ∧
      event.runId = runId) :
    (outcomeEvents more runId action.actionId).length ≠
        (outcomeEvents fewer runId action.actionId).length ∨
      (stepEndEvents more runId stepId).length ≠ (stepEndEvents fewer runId stepId).length := by
  obtain ⟨hkind, hrun⟩ := hreports
  rw [outcomeEvents_eq_filter, outcomeEvents_eq_filter, stepEndEvents_eq_filter,
    stepEndEvents_eq_filter, hfewer, hmore]
  rcases hkind with ⟨htype, hid⟩ | ⟨htype, hid⟩
  · left
    rw [filter_of_insert _ before rest (by simp [htype, hid, hrun])]
    omega
  · right
    rw [filter_of_insert _ before rest (by simp [htype, hid, hrun])]
    omega

theorem reportsEnd_iff {event : EventRow} : ReportsEnd db runId stepId action event ↔
    event ∈ db.workflowEvents ∧ (isOutcomeType event.eventType = true ∧
        event.payload.getD "action_id" = .str action.actionId ∨
      isStepEndType event.eventType = true ∧ event.payload.getD "step_id" = .str stepId) ∧
      event.runId = runId := by
  unfold ReportsEnd
  rw [outcomeEvents_eq_filter, stepEndEvents_eq_filter, List.mem_filter, List.mem_filter]
  simp only [Bool.and_eq_true, beq_iff_eq]
  tauto

/-- The check fails on a ledger that was tampered with. -/
theorem EvidenceInOrder.rejects {after : Database} (horder : EvidenceInOrder db)
    (hfind : db.externalActions.find (runId, stepId) = some action)
    (hterminal : action.status.isTerminal = true)
    (htampering : Tampering db runId stepId action after) :
    terminalExternalActionEvidenceIsConsistent after runId tenantId = false := by
  obtain ⟨step, hstep, hevidenced⟩ := horder.rows _ _ hfind
  cases htampering with
  | action next hchanged =>
    have hnext : (db.externalActions.modify (runId, stepId) fun _ ↦ next).find (runId, stepId) =
        some next := by
      rw [Table.find_modify, if_pos rfl, hfind]
      rfl
    exact inconsistent_of_action hnext
      (rejected_of_actionColumn hstep hevidenced hterminal hchanged)
  | step row next hrow hchanged =>
    obtain rfl : step = row := Option.some.inj (hstep.symm.trans hrow)
    exact inconsistent_of_action hfind
      (rejected_of_stepColumn hstep hevidenced hterminal hchanged)
  | deletion before rest event hlog hreports =>
    refine inconsistent_of_action hfind (rejected_of_events hevidenced hterminal ?_)
    have hkind := (reportsEnd_iff.mp hreports).2
    have hfewer : ({ db with workflowEvents := before ++ rest } : Database).workflowEvents =
        before ++ rest := rfl
    exact (length_ne_of_insert hfewer hlog hkind).imp Ne.symm Ne.symm
  | duplication before rest event copy hlog hreports hcopy =>
    refine inconsistent_of_action hfind (rejected_of_events hevidenced hterminal ?_)
    obtain ⟨hrun, htype, hpayload⟩ := hcopy
    have hkind := (reportsEnd_iff.mp hreports).2
    rw [← hrun, ← htype, ← hpayload] at hkind
    exact length_ne_of_insert hlog rfl hkind

end Rejection

end AgentRuntime.Store
