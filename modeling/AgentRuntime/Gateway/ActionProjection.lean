import AgentRuntime.Library.PyText
import AgentRuntime.Store.Replies
import AgentRuntime.Gateway.ActionRuntime

/-!
# `ActionProjector`

What a client of the Action API is told: one status from the Run's record and a snapshot of its
workflow ledger, and the events of its action. The record is read before the snapshot, in a
transaction of its own, so it may be older. `project` answers OUTCOME_UNKNOWN where a dispatch
cannot be told apart from an effect, and raises where the ledger contradicts itself before any
dispatch.

`Reported` says what each answer of `project` needs of the record and the snapshot, `Listed` what
`list_events` makes of one event; the code is followed once for each.
-/

set_option autoImplicit false
set_option relaxedAutoImplicit false

namespace AgentRuntime.Gateway

open Library Store Execution

/-! ### Resources -/

/-- `ActionStatus`. -/
inductive ActionStatus where
  | queued
  | running
  | reconciling
  | succeeded
  | failed
  | cancelled
  | outcomeUnknown
  deriving DecidableEq

/-- `ActionStatus.is_terminal`. -/
def ActionStatus.isTerminal : ActionStatus → Bool
  | succeeded | failed | cancelled | outcomeUnknown => true
  | queued | running | reconciling => false

/-- `_UNKNOWN_CODE`. -/
def unknownCode : String := "external_action_outcome_unknown"

/-- `ActionProjector._FAILURE_MESSAGES`. -/
def projectedMessages : String → Option String
  | "external_action_failed" => some "The external action failed definitively."
  | "external_action_outcome_unknown" =>
    some "The external action outcome is unknown; do not retry with a new key."
  | "action_cancelled" => some "The Action was cancelled before dispatch."
  | "action_execution_failed" => some "The Action failed before a provider outcome existed."
  | _ => none

/-- `ActionResource`; its result is the reference of a `WebhookSendOutput`. -/
structure ProjectedAction where
  actionId : String
  destination : String
  idempotencyKey : String
  status : ActionStatus
  result : Option String
  errorCode : Option String
  errorMessage : Option String
  createdAt : String
  updatedAt : String
  completedAt : Option String

/-- `_resource`. -/
def projectedResource (run : RunRecord) (input : DurableActionInput) (status : ActionStatus)
    (action : Option ExternalActionRecord) (result errorCode : Option String) :
    ProjectedAction where
  actionId := run.runId
  destination := input.destination
  idempotencyKey := input.idempotencyKey
  status := status
  result := if status = .succeeded then result else none
  errorCode := errorCode
  errorMessage := errorCode.bind projectedMessages
  createdAt := run.createdAt
  updatedAt :=
    match action with
    | none => run.updatedAt
    | some action => if run.updatedAt < action.updatedAt then action.updatedAt else run.updatedAt
  completedAt :=
    if status.isTerminal then (action.bind (·.finalizedAt)).or run.completedAt else none

/-! ### Evidence -/

namespace ActionProjector

/-- `_step_binding_matches`. -/
def stepBindingMatches (action : ExternalActionRecord) (step : ToolCallRecord) : Bool :=
  decide (step.runId = action.runId ∧ step.stepId = action.stepId ∧
    step.toolName = action.toolName ∧ step.inputHash = action.inputHash)

/-- The tool evidence of a success, if there is any. -/
def completedStepMatches (action : ExternalActionRecord) : Option ToolCallRecord → Bool
  | none => true
  | some step => stepBindingMatches action step &&
    decide (step.status = .completed ∧ step.resultJson = action.resultJson ∧ step.errorCode = none)

/-- The result of a row, decoded and validated. -/
def decodedReference : Json → Option String
  | .obj fields => validateWebhookSendOutput fields
  | _ => none

/-- `_validated_success`: the reference of the result, or the text of the error. -/
def validatedSuccess (action : ExternalActionRecord) (step : Option ToolCallRecord) :
    Except String String :=
  match action.resultJson with
  | none => .error "Succeeded Action evidence is incomplete"
  | some resultJson =>
    if action.dispatchCount < 1 ∨ action.dispatchToken = none ∨
        (action.providerReference.getD "").isEmpty ∨ action.errorCode ≠ none then
      .error "Succeeded Action evidence is incomplete"
    else
      match decodedReference resultJson with
      | none => .error "Succeeded Action result is invalid"
      | some reference =>
        if some reference ≠ action.providerReference then
          .error "Succeeded Action provider reference is inconsistent"
        else if !completedStepMatches action step then
          .error "Succeeded Action tool evidence is inconsistent"
        else .ok reference

/-- `_valid_failed_action`. -/
def validFailedAction (action : ExternalActionRecord) (step : Option ToolCallRecord) : Bool :=
  match step with
  | none => false
  | some step =>
    decide (1 ≤ action.dispatchCount ∧ action.dispatchToken ≠ none ∧ action.resultJson = none ∧
      action.errorCode = some "external_action_failed") &&
    stepBindingMatches action step &&
    decide (step.status = .failed ∧ step.resultJson = none ∧
      step.errorCode = some "external_action_failed")

/-- The codes of a Run that waits for a reconciliation. -/
def reconciliationCodes : List String :=
  [reconciliationPendingCode, threadCheckpointReconciliationBlockedCode]

section Projector

variable (gateway : DurableActionGateway)

/-- `_validated_identity`. -/
def validatedIdentity (run : RunRecord) : Except String DurableActionInput :=
  if !isActionRun run then .error "Run is not an Action resource"
  else
    match gateway.persistedActionInput run with
    | none => .error "Persisted Action input is invalid"
    | some input =>
      if run.clientRequestId ≠ some (gateway.actionClientRequestId input.idempotencyKey) ∨
          run.threadId ≠ gateway.actionThreadId run.tenantId webhookSend input.idempotencyKey then
        .error "Persisted Action identity is invalid"
      else .ok input

/-- `_execution_binding_matches`. -/
def executionBindingMatches (input : DurableActionInput) (execution : ExecutionRow) : Bool :=
  decide (execution.workflowType = actionWorkflowType ∧
    execution.inputHash = gateway.actionFingerprint input)

/-- `_action_binding_matches`. -/
def actionBindingMatches (run : RunRecord) (input : DurableActionInput)
    (action : ExternalActionRecord) : Bool :=
  let inputHash := gateway.sha256 (canonicalJson input.arguments)
  let providerKey := "external_action_" ++ gateway.sha256 (canonicalJson
    [("tenant_id", .str run.tenantId), ("run_id", .str run.runId),
      ("workflow_type", .str actionWorkflowType), ("step_id", .str actionStepId),
      ("tool_name", .str webhookSend), ("input_hash", .str inputHash)])
  match run.executionAuthority with
  | none => false
  | some authority =>
    decide (action.runId = run.runId ∧ action.stepId = actionStepId ∧
      action.tenantId = run.tenantId ∧ authority.tenantId = run.tenantId) &&
    allows authority "tools:execute" && allows authority "external-actions:execute" &&
    decide (action.subjectId = authority.subjectId ∧ action.workflowType = actionWorkflowType ∧
      action.toolName = webhookSend ∧ action.providerName = input.destination) &&
    bounded action.providerIdentity 200 &&
    decide (action.providerIdentity = strip action.providerIdentity ∧
      action.inputHash = inputHash ∧ action.idempotencyKey = providerKey ∧
      action.retryMode ≠ .safe ∧ action.argumentsJson = canonicalJson input.arguments)

/-! ### `project` -/

/-- `_project_without_action`. -/
def projectWithoutAction (run : RunRecord) (input : DurableActionInput)
    (execution : Option ExecutionRow) : Except String ProjectedAction :=
  match run.status with
  | .queued => .ok (projectedResource run input .queued none none none)
  | .running =>
    if execution.any fun execution ↦ execution.status.isTerminal then
      .error "Terminal Action workflow has no external-action ledger row"
    else .ok (projectedResource run input .running none none none)
  | .cancelled =>
    .ok (projectedResource run input .cancelled none none (some "action_cancelled"))
  | .failed =>
    .ok (projectedResource run input .failed none none (some "action_execution_failed"))
  | .completed => .error "Completed Run has no external-action ledger row"

/-- A PREPARED action that was not dispatched. -/
def projectPrepared (run : RunRecord) (input : DurableActionInput) (action : ExternalActionRecord)
    (step : Option ToolCallRecord) : Except String ProjectedAction :=
  let runningStep : Bool := step.any fun step ↦
    stepBindingMatches action step && decide (step.status = .running)
  if !runningStep then .error "Prepared Action tool evidence is inconsistent"
  else
    match run.status with
    | .cancelled =>
      .ok (projectedResource run input .cancelled (some action) none (some "action_cancelled"))
    | .failed =>
      .ok (projectedResource run input .failed (some action) none
        (some "action_execution_failed"))
    | .completed => .error "Completed Run has only a prepared external action"
    | .queued | .running => .ok (projectedResource run input .running (some action) none none)

/-- The outcome that cannot be told. -/
def projectUnknown (run : RunRecord) (input : DurableActionInput)
    (action : Option ExternalActionRecord) : ProjectedAction :=
  projectedResource run input .outcomeUnknown action none (some unknownCode)

/-- The rest of `project` for an action whose binding matches. -/
def projectAction (run : RunRecord) (input : DurableActionInput) (execution : Option ExecutionRow)
    (action : ExternalActionRecord) (step : Option ToolCallRecord) :
    Except String ProjectedAction :=
  match action.status with
  | .outcomeUnknown => .ok (projectUnknown run input (some action))
  | .succeeded =>
    match validatedSuccess action step with
    | .error message => .error message
    | .ok reference =>
      .ok (projectedResource run input .succeeded (some action) (some reference) none)
  | .failed =>
    if !validFailedAction action step then .ok (projectUnknown run input (some action))
    else .ok (projectedResource run input .failed (some action) none
      (some "external_action_failed"))
  | .dispatching =>
    if action.dispatchCount < 1 ∨ action.dispatchToken = none ∨
        ¬ (step.any fun step ↦ decide (step.status = .running)) = true ∨
        run.status.isTerminal = true ∨
        (execution.any fun execution ↦ execution.status.isTerminal) = true then
      .ok (projectUnknown run input (some action))
    else if (run.errorCode.any fun code ↦ reconciliationCodes.contains code) then
      .ok (projectedResource run input .reconciling (some action) none none)
    else .ok (projectedResource run input .running (some action) none none)
  | .prepared =>
    if action.dispatchCount ≠ 0 ∨ action.dispatchToken ≠ none then
      .ok (projectUnknown run input (some action))
    else projectPrepared run input action step

/-- `project` after its identity checks, with the only action of the Run. -/
def projectSingle (run : RunRecord) (input : DurableActionInput) (execution : Option ExecutionRow)
    (action : Option ExternalActionRecord) (step : Option ToolCallRecord) :
    Except String ProjectedAction :=
  let boundExecution : Bool :=
    match execution with
    | none => action.isNone
    | some execution => executionBindingMatches gateway input execution
  let dispatched : Bool := action.any fun action ↦ decide (0 < action.dispatchCount)
  if !boundExecution then
    if dispatched then .ok (projectUnknown run input action)
    else .error "Action workflow identity is inconsistent"
  else if !(action.all fun action ↦ actionBindingMatches gateway run input action) then
    if dispatched then .ok (projectUnknown run input action)
    else .error "Prepared Action binding is inconsistent"
  else if run.errorCode = some unknownCode then .ok (projectUnknown run input action)
  else
    match action with
    | none =>
      if (run.errorCode.any fun code ↦ reconciliationCodes.contains code) then
        .error "Reconciliation marker has no external-action ledger row"
      else projectWithoutAction run input execution
    | some action => projectAction run input execution action step

/-- `project`, on the snapshot that `read_run_snapshot` returned. -/
def project (run : RunRecord) (snapshot : WorkflowRunSnapshot) : Except String ProjectedAction :=
  match validatedIdentity gateway run with
  | .error message => .error message
  | .ok input =>
    match snapshot.externalActions with
    | [] => projectSingle gateway run input snapshot.execution none none
    | [(stepId, row)] =>
      projectSingle gateway run input snapshot.execution (some (.of run.runId stepId row))
        ((snapshot.steps.find? fun step ↦ step.1 == stepId).map fun step ↦
          .of run.runId step.1 step.2)
    | actions =>
      if actions.any fun action ↦ decide (0 < action.2.dispatchCount) then
        .ok (projectUnknown run input none)
      else .error "Action has multiple pre-dispatch ledger rows"

/-! ### `list_events` -/

/-- `_EVENT_STATUSES`, whose values have the names of the ledger's statuses. -/
def eventStatuses : String → Option ExternalActionStatus
  | "external_action.prepared" => some .prepared
  | "external_action.dispatch_started" => some .dispatching
  | "external_action.succeeded" => some .succeeded
  | "external_action.failed" => some .failed
  | "external_action.outcome_unknown" => some .outcomeUnknown
  | _ => none

/-- `ActionEvent`. -/
structure ActionEvent where
  sequence : Nat
  eventType : String
  status : ExternalActionStatus
  destination : String
  dispatchCount : Nat
  retryMode : ExternalActionRetryMode
  providerReference : Option String
  errorCode : Option String
  createdAt : String
  deriving DecidableEq

/-- `event.payload.get`. -/
def eventValue (event : EventRow) (key : String) : Json := (event.payload.get? key).getD .null

/-- The event names the action and the status of its type. -/
def eventIdentityMatches (action : ExternalActionRecord) (event : EventRow)
    (status : ExternalActionStatus) : Bool :=
  eventValue event "action_id" == .str action.actionId &&
    eventValue event "step_id" == .str action.stepId &&
    eventValue event "tool_name" == .str action.toolName &&
    eventValue event "provider_name" == .str action.providerName &&
    eventValue event "status" == .str status.text

/-- The number of dispatches that an event tells. -/
def eventDispatchCount (action : ExternalActionRecord) (event : EventRow)
    (status : ExternalActionStatus) : Except String Nat :=
  match status with
  | .prepared =>
    if eventValue event "retry_mode" == .str action.retryMode.text then .ok 0
    else .error "Action prepare event retry mode is inconsistent"
  | .dispatching =>
    match eventValue event "dispatch_count" with
    | .int candidate =>
      if 1 ≤ candidate ∧ candidate ≤ action.dispatchCount then .ok candidate.toNat
      else .error "Action dispatch event count is inconsistent"
    | _ => .error "Action dispatch event count is inconsistent"
  | .succeeded | .failed | .outcomeUnknown =>
    if eventValue event "dispatch_count" == Json.nat action.dispatchCount ∧
        action.status = status then .ok action.dispatchCount
    else .error "Action outcome event is inconsistent"

/-- The reference and the error of an event, from the ledger. -/
def eventOutcome (action : ExternalActionRecord) (step : Option ToolCallRecord)
    (status : ExternalActionStatus) : Except String (Option String × Option String) :=
  match status with
  | .prepared | .dispatching => .ok (none, none)
  | .succeeded => (validatedSuccess action step).map fun reference ↦ (some reference, none)
  | .failed =>
    if validFailedAction action step then .ok (none, some "external_action_failed")
    else .error "Failed Action event has inconsistent ledger evidence"
  | .outcomeUnknown => .ok (none, some unknownCode)

/-- The payload of an outcome tells what the ledger says. -/
def eventOutcomeMatches (event : EventRow) (status : ExternalActionStatus)
    (outcome : Option String × Option String) : Bool :=
  !status.isTerminal ||
    eventValue event "provider_reference" == Json.ofOption Json.str outcome.1 &&
      eventValue event "error_code" == Json.ofOption Json.str outcome.2

/-- The body of the loop of `list_events`: no event where the type is not one of an action's. -/
def projectEvent (input : DurableActionInput) (action : ExternalActionRecord)
    (step : Option ToolCallRecord) (event : EventRow) : Except String (Option ActionEvent) :=
  match eventStatuses event.eventType with
  | none => .ok none
  | some status =>
    if !eventIdentityMatches action event status then
      .error "Action event identity is inconsistent"
    else
      match eventDispatchCount action event status with
      | .error message => .error message
      | .ok dispatchCount =>
        match eventOutcome action step status with
        | .error message => .error message
        | .ok outcome =>
          if !eventOutcomeMatches event status outcome then
            .error "Action outcome event payload is inconsistent"
          else
            .ok (some
              { sequence := event.sequence
                eventType := event.eventType
                status := status
                destination := input.destination
                dispatchCount := dispatchCount
                retryMode := action.retryMode
                providerReference := outcome.1
                errorCode := outcome.2
                createdAt := event.createdAt })

/-- The loop of `list_events`. -/
def projectEvents (input : DurableActionInput) (action : ExternalActionRecord)
    (step : Option ToolCallRecord) : List EventRow → Except String (List ActionEvent)
  | [] => .ok []
  | event :: rest =>
    match projectEvent input action step event with
    | .error message => .error message
    | .ok projected => (projectEvents input action step rest).map (projected.toList ++ ·)

/-- `list_events`, on the snapshot that `read_run_snapshot` returned. -/
def listEvents (run : RunRecord) (snapshot : WorkflowRunSnapshot) :
    Except String (List ActionEvent) :=
  match validatedIdentity gateway run with
  | .error message => .error message
  | .ok input =>
    match snapshot.externalActions with
    | [] => .ok []
    | [(stepId, row)] =>
      let action : ExternalActionRecord := .of run.runId stepId row
      if !(snapshot.execution.any fun execution ↦
          executionBindingMatches gateway input execution) then
        .error "Action event workflow is inconsistent"
      else if !actionBindingMatches gateway run input action then
        .error "Action event binding is inconsistent"
      else
        projectEvents input action
          ((snapshot.steps.find? fun step ↦ step.1 == stepId).map fun step ↦
            .of run.runId step.1 step.2) snapshot.events
    | _ => .error "Action event ledger is not single-step"

/-! ### What an answer needs -/

/-- What each answer of `project` needs of the record and of the actions in the snapshot. -/
inductive Reported (run : RunRecord) (actions : List (String × ExternalActionRow)) :
    ProjectedAction → Prop
  | succeeded (resource : ProjectedAction) (row : ExternalActionRow) (reference : String)
    (hactions : actions = [(actionStepId, row)]) (hrow : row.status = .succeeded)
    (hreference : row.providerReference = some reference)
    (hresult : resource.result = some reference) (hstatus : resource.status = .succeeded)
    (hcode : resource.errorCode = none) : Reported run actions resource
  | failed (resource : ProjectedAction) (row : ExternalActionRow)
    (hactions : actions = [(actionStepId, row)]) (hrow : row.status = .failed)
    (hresult : resource.result = none) (hstatus : resource.status = .failed)
    (hcode : resource.errorCode = some "external_action_failed") : Reported run actions resource
  | unsent (resource : ProjectedAction) (hunsent : ∀ action ∈ actions, NeverDispatched action.2)
    (hknown : run.errorCode ≠ some unknownCode) (hresult : resource.result = none)
    (hstatus : run.status = .cancelled ∧ resource.status = .cancelled ∧
        resource.errorCode = some "action_cancelled" ∨
      run.status = .failed ∧ resource.status = .failed ∧
        resource.errorCode = some "action_execution_failed") : Reported run actions resource
  | unknown (resource : ProjectedAction)
    (hcause : run.errorCode = some unknownCode ∨
      ∃ action ∈ actions, ¬ NeverDispatched action.2)
    (hresult : resource.result = none) (hstatus : resource.status = .outcomeUnknown)
    (hcode : resource.errorCode = some unknownCode) : Reported run actions resource
  | pending (resource : ProjectedAction) (hrun : run.status.isTerminal = false)
    (hactions : ∀ action ∈ actions, action.2.status.isTerminal = false)
    (hresult : resource.result = none) (hstatus : resource.status.isTerminal = false)
    (hcode : resource.errorCode = none) : Reported run actions resource

variable {run : RunRecord} {input : DurableActionInput} {execution : Option ExecutionRow}
  {row : ExternalActionRow} {step : Option ToolCallRecord} {resource : ProjectedAction}
  {stepId reference : String}

theorem reported_unknown {actions : List (String × ExternalActionRow)}
    (action : Option ExternalActionRecord)
    (hcause : run.errorCode = some unknownCode ∨ ∃ action ∈ actions, ¬ NeverDispatched action.2) :
    Reported run actions (projectUnknown run input action) :=
  .unknown _ hcause rfl rfl rfl

/-- A dispatched action is reported as unknown. -/
theorem reported_unsettled (action : Option ExternalActionRecord) (hsent : ¬ NeverDispatched row) :
    Reported run [(stepId, row)] (projectUnknown run input action) :=
  reported_unknown action (.inr ⟨_, List.mem_singleton_self _, hsent⟩)

theorem reference_of_validatedSuccess {action : ExternalActionRecord}
    (hvalid : validatedSuccess action step = .ok reference) :
    action.providerReference = some reference := by
  unfold validatedSuccess at hvalid
  split at hvalid
  · cases hvalid
  · split at hvalid
    · cases hvalid
    · split at hvalid
      · cases hvalid
      · split_ifs at hvalid with hsame
        rw [← Except.ok.inj hvalid]
        exact (not_not.mp hsame).symm

theorem reported_of_projectWithoutAction (hknown : run.errorCode ≠ some unknownCode)
    (hproject : projectWithoutAction run input execution = .ok resource) :
    Reported run [] resource := by
  have hunsent : ∀ action ∈ ([] : List (String × ExternalActionRow)),
      NeverDispatched action.2 := by simp
  have hopen : ∀ action ∈ ([] : List (String × ExternalActionRow)),
      action.2.status.isTerminal = false := by simp
  unfold projectWithoutAction at hproject
  split at hproject
  · next hstatus =>
    obtain rfl := Except.ok.inj hproject
    exact .pending _ (by rw [hstatus]; rfl) hopen rfl rfl rfl
  · next hstatus =>
    split_ifs at hproject
    obtain rfl := Except.ok.inj hproject
    exact .pending _ (by rw [hstatus]; rfl) hopen rfl rfl rfl
  · next hstatus =>
    obtain rfl := Except.ok.inj hproject
    exact .unsent _ hunsent hknown rfl (.inl ⟨hstatus, rfl, rfl⟩)
  · next hstatus =>
    obtain rfl := Except.ok.inj hproject
    exact .unsent _ hunsent hknown rfl (.inr ⟨hstatus, rfl, rfl⟩)
  · cases hproject

theorem reported_of_projectPrepared (hknown : run.errorCode ≠ some unknownCode)
    (hrow : NeverDispatched row)
    (hproject : projectPrepared run input (.of run.runId stepId row) step = .ok resource) :
    Reported run [(stepId, row)] resource := by
  have hunsent : ∀ action ∈ [(stepId, row)], NeverDispatched action.2 := by simpa using hrow
  have hopen : ∀ action ∈ [(stepId, row)], action.2.status.isTerminal = false := by
    simp [hrow.status, ExternalActionStatus.isTerminal]
  unfold projectPrepared at hproject
  dsimp only at hproject
  split_ifs at hproject
  split at hproject
  · next hstatus =>
    obtain rfl := Except.ok.inj hproject
    exact .unsent _ hunsent hknown rfl (.inl ⟨hstatus, rfl, rfl⟩)
  · next hstatus =>
    obtain rfl := Except.ok.inj hproject
    exact .unsent _ hunsent hknown rfl (.inr ⟨hstatus, rfl, rfl⟩)
  · cases hproject
  · next hstatus =>
    obtain rfl := Except.ok.inj hproject
    exact .pending _ (by rw [hstatus]; rfl) hopen rfl rfl rfl
  · next hstatus =>
    obtain rfl := Except.ok.inj hproject
    exact .pending _ (by rw [hstatus]; rfl) hopen rfl rfl rfl

theorem reported_of_projectAction (hknown : run.errorCode ≠ some unknownCode)
    (hproject : projectAction run input execution (.of run.runId actionStepId row) step =
      .ok resource) : Reported run [(actionStepId, row)] resource := by
  have hsent {status : ExternalActionStatus} (hrow : row.status = status)
      (hstatus : status ≠ .prepared) : ¬ NeverDispatched row :=
    fun hnever ↦ hstatus (hrow.symm.trans hnever.status)
  unfold projectAction at hproject
  split at hproject
  · next hrow =>
    obtain rfl := Except.ok.inj hproject
    exact reported_unsettled _ (hsent hrow (by decide))
  · next hrow =>
    split at hproject
    · cases hproject
    · next reference hvalid =>
      obtain rfl := Except.ok.inj hproject
      have hreference : row.providerReference = some reference :=
        reference_of_validatedSuccess hvalid
      exact .succeeded _ row reference rfl hrow hreference rfl rfl rfl
  · next hrow =>
    split_ifs at hproject
    · obtain rfl := Except.ok.inj hproject
      exact reported_unsettled _ (hsent hrow (by decide))
    · obtain rfl := Except.ok.inj hproject
      exact .failed _ row rfl hrow rfl rfl rfl
  · next hrow =>
    have hopen : ∀ action ∈ [(actionStepId, row)], action.2.status.isTerminal = false := by
      have hdispatching : row.status = .dispatching := hrow
      simp [hdispatching, ExternalActionStatus.isTerminal]
    split_ifs at hproject with hunclear hcode
    · obtain rfl := Except.ok.inj hproject
      exact reported_unsettled _ (hsent hrow (by decide))
    all_goals
      have hrunning : run.status.isTerminal = false := by
        simp only [not_or] at hunclear
        exact Bool.eq_false_iff.mpr hunclear.2.2.2.1
      obtain rfl := Except.ok.inj hproject
      exact .pending _ hrunning hopen rfl rfl rfl
  · next hrow =>
    split_ifs at hproject with hcounted
    · obtain rfl := Except.ok.inj hproject
      refine reported_unsettled _ fun hnever ↦ ?_
      exact hcounted.elim (fun hcount ↦ hcount hnever.count) fun htoken ↦ htoken hnever.token
    · simp only [not_or, not_not] at hcounted
      exact reported_of_projectPrepared hknown ⟨hrow, hcounted.1, hcounted.2⟩ hproject

theorem reported_of_projectSingle_none
    (hproject : projectSingle gateway run input execution none step = .ok resource) :
    Reported run [] resource := by
  unfold projectSingle at hproject
  dsimp only at hproject
  split_ifs at hproject with _ hdispatched _ hdispatched hunknown
  · cases hdispatched
  · cases hdispatched
  · obtain rfl := Except.ok.inj hproject
    exact reported_unknown none (.inl hunknown)
  · exact reported_of_projectWithoutAction hunknown hproject

theorem stepId_of_actionBindingMatches
    (hbound : actionBindingMatches gateway run input (.of run.runId stepId row) = true) :
    stepId = actionStepId := by
  unfold actionBindingMatches at hbound
  dsimp only at hbound
  split at hbound
  · cases hbound
  · simp only [Bool.and_eq_true, decide_eq_true_eq] at hbound
    exact hbound.1.1.1.1.1.2.1

theorem reported_of_projectSingle_some
    (hproject : projectSingle gateway run input execution (some (.of run.runId stepId row)) step =
      .ok resource) : Reported run [(stepId, row)] resource := by
  have hsent (hcount : decide (0 < row.dispatchCount) = true) : ¬ NeverDispatched row :=
    fun hnever ↦ (of_decide_eq_true hcount).ne' hnever.count
  unfold projectSingle at hproject
  dsimp only at hproject
  split_ifs at hproject with _ hdispatched hbound hdispatched hunknown
  · obtain rfl := Except.ok.inj hproject
    exact reported_unsettled _ (hsent hdispatched)
  · obtain rfl := Except.ok.inj hproject
    exact reported_unsettled _ (hsent hdispatched)
  · obtain rfl := Except.ok.inj hproject
    exact reported_unknown _ (.inl hunknown)
  · obtain rfl := stepId_of_actionBindingMatches gateway (by simpa using hbound)
    exact reported_of_projectAction hunknown hproject

/-- Every answer of `project` is one of those. -/
theorem reported_of_project {snapshot : WorkflowRunSnapshot}
    (hproject : project gateway run snapshot = .ok resource) :
    Reported run snapshot.externalActions resource := by
  unfold project at hproject
  split at hproject
  · cases hproject
  · split at hproject
    · next hactions =>
      rw [hactions]
      exact reported_of_projectSingle_none gateway hproject
    · next stepId row hactions =>
      rw [hactions]
      exact reported_of_projectSingle_some gateway hproject
    · split_ifs at hproject with hdispatched
      obtain rfl := Except.ok.inj hproject
      obtain ⟨action, hmem, hcount⟩ := List.any_eq_true.mp hdispatched
      refine reported_unknown none (.inr ⟨action, hmem, fun hnever ↦ ?_⟩)
      exact (of_decide_eq_true hcount).ne' hnever.count

/-- The only action that a snapshot lists is in the table. -/
theorem find_of_single {db : Database} {runId : String} {action : ExternalActionRow} {cursor : Nat}
    (hactions : (readRunSnapshot db runId cursor).externalActions = [(stepId, action)]) :
    db.externalActions.find (runId, stepId) = some action := by
  have hlist : listExternalActions db runId = [(stepId, action)] := hactions
  refine (mem_listExternalActions db runId stepId action).mp ?_
  rw [hlist]
  exact List.mem_singleton_self _

end Projector

end ActionProjector

end AgentRuntime.Gateway
