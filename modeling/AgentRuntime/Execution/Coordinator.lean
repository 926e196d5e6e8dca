import AgentRuntime.Execution.Evidence

/-!
# `ExternalActionCoordinator`

The durable state machine of one external action: claim or resume the step, prepare the action,
dispatch it to its provider, retry an ambiguous answer within `maxDispatches`, and record the
outcome; or, on recovery, restore what an earlier attempt recorded. Every method of the source has a
definition of its own under its name. A method that never returns has a polymorphic result.

The tool registry, the providers, the schemas and SHA-256 are parameters: they are fixed by the
server's configuration and no method changes them.
-/

set_option autoImplicit false
set_option relaxedAutoImplicit false

namespace AgentRuntime.Execution

open Library Store

/-- The value of a `ClaimOutcome`. -/
def claimOutcomeText : ClaimOutcome → String
  | .claimed => "claimed"
  | .cached => "cached"
  | .alreadyRunning => "already_running"
  | .inputMismatch => "input_mismatch"
  | .definitionMismatch => "definition_mismatch"
  | .attemptsExhausted => "attempts_exhausted"

/-- The value of an `ExternalActionDispatchOutcome`. -/
def dispatchOutcomeText : ExternalActionDispatchOutcome → String
  | .claimed => "claimed"
  | .retryClaimed => "retry_claimed"
  | .alreadyDispatching => "already_dispatching"
  | .retryUnsafe => "retry_unsafe"
  | .notDispatching => "not_dispatching"
  | .runCancelled => "run_cancelled"
  | .terminal => "terminal"

/-! ### Configuration -/

/-- `ToolEffect`. -/
inductive ToolEffect where
  | readOnly
  | externalWrite
  deriving DecidableEq

def ToolEffect.text : ToolEffect → String
  | readOnly => "read_only"
  | externalWrite => "external_write"

/-- `ToolSpec`. A schema validates a value and dumps it again; the gate may raise. -/
structure ToolSpec where
  name : String
  effect : ToolEffect
  retryMode : ExternalActionRetryMode
  providerName : Option String
  inputModel : Payload → Option Payload
  outputModel : Option (Payload → Payload → Option Payload)
  runtimeInputGate : Option (Payload → Option Bool)

/-- `ExternalActionProvider`. -/
structure ExternalActionProvider where
  providerIdentity : String
  supportsIdempotency : Bool

/-- `ExternalActionProviderRegistry.resolve`. -/
abbrev ProviderRegistry : Type := String → Option ExternalActionProvider

/-- `ExternalActionCoordinator`: `onFail` is the `fail` callback of its host and `sha256` the hash
of a canonical JSON text. The `while` loop of a dispatch is followed for `rounds` rounds. -/
structure ExternalActionCoordinator where
  dispatcher : Option ProviderRegistry
  workflowType : String
  maxDispatches : Nat
  failureMessages : String → Option String
  onFail : RuntimeExecutionContext → String → String → Plain Empty
  sha256 : Json → String
  rounds : Nat

/-- `canonical_json`: the value whose text has sorted keys. -/
def canonicalJson (payload : Payload) : Json := (Json.obj payload).sortKeys

/-- `DEFAULT_FAILURE_MESSAGES`. -/
def defaultFailureMessages : String → Option String
  | "external_action_failed" => some "External action failed definitively."
  | "external_action_outcome_unknown" =>
    some "External action outcome is unknown and was not retried again."
  | "external_action_evidence_incomplete" =>
    some "External action completed, but durable run evidence is incomplete."
  | "run_cancel_requested" =>
    some "Run cancellation was requested before external action dispatch."
  | _ => none

/-- `decode_tool_result`. -/
def decodeToolResult (step : ToolCallRecord) : Except Failure Payload :=
  match step.resultJson with
  | none => .error (.runtimeExecution "tool_execution_failed"
      ("Completed tool step " ++ step.stepId ++ " is missing its result."))
  | some (.obj fields) => .ok fields
  | some _ => .error (.runtimeExecution "tool_execution_failed"
      ("Tool step " ++ step.stepId ++ " did not persist an object result."))

/-- A text has between one and `most` characters. -/
def bounded (text : String) (most : Nat) : Bool := !text.isEmpty && decide (text.length ≤ most)

/-- `_external_action_request`. -/
def externalActionRequest (action : ExternalActionRecord) :
    Except Failure ExternalActionRequest :=
  match action.argumentsJson with
  | .obj arguments =>
    if bounded action.actionId 200 && bounded action.runId 200 && bounded action.stepId 200 &&
        bounded action.tenantId 200 && bounded action.subjectId 200 &&
        bounded action.workflowType 500 && bounded action.toolName 200 &&
        bounded action.idempotencyKey 255 then
      .ok
        { actionId := action.actionId
          runId := action.runId
          stepId := action.stepId
          tenantId := action.tenantId
          subjectId := action.subjectId
          workflowType := action.workflowType
          toolName := action.toolName
          arguments := arguments
          idempotencyKey := action.idempotencyKey }
    else .error (.validation "ExternalActionRequest")
  | _ => .error (.runtimeExecution "invalid_planner_decision"
      "External action arguments are not an object.")

/-- `ExternalActionProviderResult`. -/
structure ProviderResult where
  providerReference : String
  result : Payload

/-- `ExternalActionProviderResult.model_validate`: exactly two fields of the right types. -/
def validateProviderResult : Json → Option ProviderResult
  | .obj fields =>
    match fields.length, Payload.get? fields "provider_reference",
        Payload.get? fields "result" with
    | 2, some (.str reference), some (.obj result) =>
      if bounded reference 500 then some ⟨reference, result⟩ else none
    | _, _, _ => none
  | _ => none

/-- `ExternalActionDispatcher.dispatch`. -/
def dispatchRequest (registry : ProviderRegistry) (providerName : String)
    (retryMode : ExternalActionRetryMode) (dispatch : Nat) (request : ExternalActionRequest) :
    Runtime ProviderResult := do
  match registry providerName with
  | none => throw .definitive
  | some provider =>
    if retryMode = .providerIdempotent ∧ provider.supportsIdempotency = false then
      throw .definitive
    let answer ← Program.attempt do
      discard <| Program.ask (Op.enterProvider providerName dispatch request) rfl
      Program.ask (Op.awaitProvider request.runId request.stepId dispatch) rfl
    match answer with
    | .error .definitive => throw .definitive
    | .error _ => throw .ambiguous
    | .ok raw =>
      match validateProviderResult raw with
      | some result => return result
      | none => throw .ambiguous

/-- A value or the exception that computing it raised. -/
def ofExcept {scope : Op → Bool} {α : Type} : Except Failure α → Program Op.Answer Failure scope α
  | .ok value => .done value
  | .error failure => .raise failure

/-- What `reconcile_dispatched_action` finds to do. -/
inductive Reconciliation where
  | nothing
  | pending
  | resolve (action : ExternalActionRecord)

/-- `_RECONCILE_PRIORITY`. -/
def reconcilePriority : ExternalActionStatus → Nat
  | .dispatching => 0
  | .outcomeUnknown => 1
  | .succeeded => 2
  | .failed => 3
  | .prepared => 4

/-- `min(actions, key=…)`: the first action of least priority. -/
def leastProven : List ExternalActionRecord → Option ExternalActionRecord
  | [] => none
  | action :: rest =>
    match leastProven rest with
    | none => some action
    | some other =>
      if reconcilePriority other.status < reconcilePriority action.status then some other
      else some action

/-- The arguments that the methods for one external call pass on to each other. -/
structure Invocation where
  context : RuntimeExecutionContext
  spec : ToolSpec
  normalizedArguments : Payload
  inputHash : String
  idempotencyKey : String

namespace ExternalActionCoordinator

variable (coordinator : ExternalActionCoordinator)

/-- `failure_message`. -/
def failureMessage (code : String) : String :=
  match coordinator.failureMessages code with
  | some message => message
  | none => (defaultFailureMessages code).getD "External action failed."

/-- `_stable_hash`. -/
def stableHash (payload : Payload) : String := coordinator.sha256 (canonicalJson payload)

/-- `idempotency_key`. -/
def idempotencyKey (context : RuntimeExecutionContext) (stepId toolName inputHash : String) :
    String :=
  "external_action_" ++ coordinator.stableHash
    [("tenant_id", .str context.authority.tenantId), ("run_id", .str context.runId),
      ("workflow_type", .str coordinator.workflowType), ("step_id", .str stepId),
      ("tool_name", .str toolName), ("input_hash", .str inputHash)]

/-- `provider_for`. -/
def providerFor (spec : ToolSpec) : Option ExternalActionProvider :=
  match coordinator.dispatcher, spec.providerName with
  | some registry, some providerName => registry providerName
  | _, _ => none

/-- `_fail`. -/
def fail {α : Type} (context : RuntimeExecutionContext) (code detail : String) : Plain α :=
  (coordinator.onFail context code detail).bind Empty.elim

/-- `try: self._fail(…)`, where any exception but the intended one is replaced by it. -/
def failKeepingCode {α : Type} (context : RuntimeExecutionContext) (code detail : String) :
    Plain α :=
  tryCatch (coordinator.fail context code detail) fun failure ↦
    if failure.code = some code then throw failure
    else raiseExecution code (coordinator.failureMessage code)

/-- `dispatched_action`. -/
def dispatchedAction (runId stepId : String) : Quiet (Option ExternalActionRecord) := do
  match ← WorkflowStore.getExternalAction runId stepId with
  | none => return none
  | some action => return if action.dispatchCount < 1 then none else some action

/-! ### Outcomes that cannot be proven -/

/-- `_external_outcome_unknown_was_committed`. -/
def externalOutcomeUnknownWasCommitted (context : RuntimeExecutionContext)
    (step : ToolCallRecord) (dispatchToken attemptToken : String) : Quiet Bool := do
  let read ← Program.attempt do
    let action ← WorkflowStore.getExternalAction context.runId step.stepId
    let current ← WorkflowStore.getStep context.runId step.stepId
    return (action, current)
  match read with
  | .ok (some action, some current) =>
    return decide (action.runId = context.runId ∧ action.stepId = step.stepId ∧
      action.toolName = step.toolName ∧ action.inputHash = step.inputHash ∧
      action.status = .outcomeUnknown ∧ action.dispatchToken = some dispatchToken ∧
      action.providerReference = none ∧ action.resultJson = none ∧
      action.errorCode = some "external_action_outcome_unknown" ∧
      current.runId = context.runId ∧ current.stepId = step.stepId ∧
      current.toolName = step.toolName ∧ current.inputHash = step.inputHash ∧
      current.status = .failed ∧ current.attemptToken = some attemptToken ∧
      current.resultJson = none ∧ current.errorCode = some "external_action_outcome_unknown")
  | _ => return false

/-- `_raise_external_outcome_unknown`: only an exact read-back replaces the finalizer's success. -/
def raiseExternalOutcomeUnknown {α : Type} (context : RuntimeExecutionContext)
    (step : ToolCallRecord) (dispatchToken attemptToken : String)
    (finalizer : Plain ExternalActionRow) : Plain α := do
  match ← Program.attempt finalizer with
  | .ok _ => pure ()
  | .error failure =>
    if failure.isLeaseLost then throw failure
    let committed ← externalOutcomeUnknownWasCommitted context step dispatchToken attemptToken
    unless committed do throw .reconciliationPending
  discard <| Program.attempt do
    mirrorEvidence context
    recordToolFailure context step.stepId step.toolName "external_action_outcome_unknown"
  coordinator.failKeepingCode context "external_action_outcome_unknown"
    "External action outcome could not be durably proven."

/-- `_fail_external_dispatch_binding`. -/
def failExternalDispatchBinding {α : Type} (context : RuntimeExecutionContext)
    (step : ToolCallRecord) (action : ExternalActionRecord) : Plain α :=
  match action.dispatchToken, step.attemptToken with
  | some dispatchToken, some attemptToken =>
    coordinator.raiseExternalOutcomeUnknown context step dispatchToken attemptToken
      (WorkflowStore.finalizeExternalActionReconciliationUnknown context.runId step.stepId
        dispatchToken attemptToken "external_action_outcome_unknown" context.leaseToken)
  | _, _ => throw .reconciliationPending

/-- `_finalize_provider_unknown`. -/
def finalizeProviderUnknown {α : Type} (context : RuntimeExecutionContext) (step : ToolCallRecord)
    (dispatchToken attemptToken : String) : Plain α :=
  coordinator.raiseExternalOutcomeUnknown context step dispatchToken attemptToken
    (WorkflowStore.finalizeExternalActionOutcomeUnknown context.runId step.stepId dispatchToken
      attemptToken "external_action_outcome_unknown")

/-- `_finalize_reconciliation_unknown`. -/
def finalizeReconciliationUnknown {α : Type} (context : RuntimeExecutionContext)
    (step : ToolCallRecord) (dispatchToken attemptToken : String) : Plain α :=
  coordinator.raiseExternalOutcomeUnknown context step dispatchToken attemptToken
    (WorkflowStore.finalizeExternalActionReconciliationUnknown context.runId step.stepId
      dispatchToken attemptToken "external_action_outcome_unknown" context.leaseToken)

/-! ### Reconciliation -/

/-- The selection of `reconcile_dispatched_action` among the actions of the Run. A PREPARED action
that claims a dispatch keeps the Run pending. -/
def selectReconciliation (actions : List ExternalActionRecord) (includeTerminal : Bool) :
    Reconciliation :=
  let dispatched := actions.filter fun action ↦ decide (0 < action.dispatchCount)
  if dispatched.isEmpty then .nothing
  else if dispatched.any fun action ↦ action.status == .prepared then .pending
  else
    match leastProven (dispatched.filter fun action ↦
        includeTerminal || !action.status.isTerminal) with
    | none => .nothing
    | some action => .resolve action

/-- The selection of `reconcile_dispatched_action` for a given action. -/
def checkReconciliation (action : ExternalActionRecord) (includeTerminal : Bool) :
    Reconciliation :=
  if action.status = .prepared then .pending
  else if action.status.isTerminal && !includeTerminal then .nothing
  else .resolve action

/-- The end of `reconcile_dispatched_action` for the selected action. -/
def resolveAction (context : RuntimeExecutionContext) (action : ExternalActionRecord) :
    Plain Unit := do
  let detail := "Dispatched external action could not be reconciled."
  match action.status with
  | .dispatching =>
    match ← WorkflowStore.getStep context.runId action.stepId with
    | none => throw .reconciliationPending
    | some step => coordinator.failExternalDispatchBinding context step action
  | .outcomeUnknown =>
    coordinator.failKeepingCode context "external_action_outcome_unknown" detail
  | .succeeded =>
    coordinator.failKeepingCode context "external_action_evidence_incomplete" detail
  | .failed => coordinator.failKeepingCode context "external_action_failed" detail
  | .prepared => throw .reconciliationPending

/-- `reconcile_dispatched_action` after its selection. -/
def reconcile (context : RuntimeExecutionContext) : Reconciliation → Plain Unit
  | .nothing => return
  | target => do
    match ← Program.attempt (mirrorEvidence context) with
    | .ok () => pure ()
    | .error failure => if failure.isLeaseLost then throw failure
    match target with
    | .resolve action => coordinator.resolveAction context action
    | _ => throw .reconciliationPending

/-- `reconcile_dispatched_action(context=…, action=…)`. -/
def reconcileAction (context : RuntimeExecutionContext) (action : ExternalActionRecord) :
    Plain Unit :=
  coordinator.reconcile context (checkReconciliation action true)

/-- `reconcile_dispatched_action(context=…, include_terminal=…)`. -/
def reconcileRun (context : RuntimeExecutionContext) (includeTerminal : Bool) : Plain Unit := do
  let actions ← WorkflowStore.listExternalActions context.runId
  coordinator.reconcile context (selectReconciliation actions includeTerminal)

/-- `fail_restored_step`. -/
def failRestoredStep {α : Type} (context : RuntimeExecutionContext)
    (action : Option ExternalActionRecord) (code detail : String) : Plain α := do
  match action with
  | some action => if 0 < action.dispatchCount then coordinator.reconcileAction context action
  | none => pure ()
  coordinator.fail context code detail

/-- The identity comparison of `_validate_external_action_binding`. -/
def bindingMatches (invocation : Invocation) (step : ToolCallRecord)
    (action : ExternalActionRecord) (providerIdentity : Option String) : Bool :=
  let expectedIdentity :=
    match providerIdentity with
    | some identity => if identity.isEmpty then action.providerIdentity else identity
    | none => action.providerIdentity
  decide (action.runId = invocation.context.runId ∧ action.stepId = step.stepId ∧
    action.tenantId = invocation.context.authority.tenantId ∧
    action.subjectId = invocation.context.authority.subjectId ∧
    action.workflowType = coordinator.workflowType ∧ action.toolName = step.toolName ∧
    some action.providerName = invocation.spec.providerName ∧
    action.providerIdentity = expectedIdentity ∧ action.inputHash = invocation.inputHash ∧
    action.argumentsJson = canonicalJson invocation.normalizedArguments ∧
    action.retryMode = invocation.spec.retryMode ∧
    action.idempotencyKey = invocation.idempotencyKey ∧
    step.runId = invocation.context.runId ∧ step.inputHash = invocation.inputHash) &&
    bounded action.actionId 200

/-- The dispatch columns agree with the status. -/
def dispatchStateValid (action : ExternalActionRecord) : Bool :=
  if action.status = .prepared then action.dispatchCount == 0 && action.dispatchToken.isNone
  else decide (1 ≤ action.dispatchCount) && action.dispatchToken.isSome

/-- `_validate_external_action_binding`. -/
def validateExternalActionBinding (invocation : Invocation) (step : ToolCallRecord)
    (action : ExternalActionRecord) (providerIdentity : Option String) : Plain Unit := do
  let context := invocation.context
  if !coordinator.bindingMatches invocation step action providerIdentity then
    if action.status = .dispatching then
      coordinator.failExternalDispatchBinding context step action
    if 0 < action.dispatchCount then coordinator.reconcileAction context action
    coordinator.fail context "invalid_planner_decision"
      "Durable external action binding does not match the execution context."
  if !dispatchStateValid action then
    if action.status = .dispatching then
      coordinator.failExternalDispatchBinding context step action
    coordinator.fail context "invalid_planner_decision"
      "Durable external action dispatch state is invalid."

/-! ### Restoring recorded outcomes -/

/-- One round of `_record_external_success_evidence`. -/
def successEvidence (context : RuntimeExecutionContext) (step : ToolCallRecord)
    (result : Payload) : Quiet Unit := do
  mirrorEvidence context
  recordToolSuccess context step.stepId step.toolName result

/-- `_record_external_success_evidence`: one complete retry. -/
def recordExternalSuccessEvidence (context : RuntimeExecutionContext) (step : ToolCallRecord)
    (result : Payload) : Quiet Unit := do
  match ← Program.attempt (successEvidence context step result) with
  | .ok () => return
  | .error _ =>
    match ← Program.attempt (successEvidence context step result) with
    | .ok () => return
    | .error _ =>
      raiseExecution "external_action_evidence_incomplete"
        (coordinator.failureMessage "external_action_evidence_incomplete")

/-- One round of the evidence of `_raise_external_terminal_failure`. -/
def failureEvidence (context : RuntimeExecutionContext) (step : ToolCallRecord)
    (errorCode : String) : Quiet Unit := do
  mirrorEvidence context
  recordToolFailure context step.stepId step.toolName errorCode

/-- `_raise_external_terminal_failure`. -/
def raiseExternalTerminalFailure {α : Type} (context : RuntimeExecutionContext)
    (step : ToolCallRecord) (errorCode : String) : Plain α := do
  match ← Program.attempt (failureEvidence context step errorCode) with
  | .ok () => pure ()
  | .error _ => discard <| Program.attempt (failureEvidence context step errorCode)
  coordinator.failKeepingCode context errorCode "Persisted external action failed."

/-- The recorded result of a completed step, or the code and the detail of what is wrong with
it. -/
def restorableResult (invocation : Invocation) (step : ToolCallRecord)
    (action : ExternalActionRecord) : Except (String × String) Payload :=
  let invalid (detail : String) : Except (String × String) Payload :=
    .error ("invalid_planner_decision", detail)
  if step.status ≠ .completed ∨ action.status ≠ .succeeded ∨
      (action.providerReference.getD "").isEmpty ∨ action.errorCode.isSome then
    invalid "Completed external-write step has an invalid action outcome."
  else
    match decodeToolResult step with
    | .error failure =>
      match failure with
      | .runtimeExecution code message => .error (code, message)
      | _ => invalid ""
    | .ok result =>
      match invocation.spec.outputModel with
      | none => invalid "External-write tool has no output schema."
      | some outputModel =>
        match outputModel invocation.normalizedArguments result with
        | none => invalid "Persisted external action result no longer passes output validation."
        | some normalized =>
          if !(Json.obj normalized).pyEq (.obj result) then
            invalid "Persisted external action result is not canonical."
          else if (Json.obj result).containsText invocation.idempotencyKey then
            invalid "Persisted external action result contains its idempotency key."
          else if action.resultJson ≠ some (canonicalJson result) then
            invalid "External action result does not match its completed tool step."
          else if !(Payload.getD result "provider_reference").eqOptionText
              action.providerReference then
            invalid "External action result has an untrusted provider reference."
          else .ok result

/-- `restore_success`. -/
def restoreSuccess (invocation : Invocation) (step : ToolCallRecord) : Plain ToolObservation := do
  let context := invocation.context
  match ← WorkflowStore.getExternalAction context.runId step.stepId with
  | none =>
    coordinator.fail context "invalid_planner_decision"
      "Completed external-write step has no durable action."
  | some action =>
    coordinator.validateExternalActionBinding invocation step action none
    match restorableResult invocation step action with
    | .error (code, detail) => coordinator.failRestoredStep context (some action) code detail
    | .ok result =>
      coordinator.recordExternalSuccessEvidence context step result
      return ⟨step.stepId, step.toolName, invocation.normalizedArguments, result, true⟩

/-- The error code that `restore_failure` expects of a failed action. -/
def expectedFailureCode : ExternalActionStatus → Option String
  | .failed => some "external_action_failed"
  | .outcomeUnknown => some "external_action_outcome_unknown"
  | _ => none

/-- `restore_failure`. -/
def restoreFailure {α : Type} (invocation : Invocation) (step : ToolCallRecord) : Plain α := do
  let context := invocation.context
  match ← WorkflowStore.getExternalAction context.runId step.stepId with
  | none =>
    coordinator.fail context "invalid_planner_decision"
      "Failed external-write step has no durable action."
  | some action =>
    coordinator.validateExternalActionBinding invocation step action none
    match expectedFailureCode action.status with
    | some code =>
      if step.status = .failed ∧ step.errorCode = some code ∧ action.errorCode = some code ∧
          action.resultJson = none ∧ step.resultJson = none then
        coordinator.raiseExternalTerminalFailure context step code
      else
        coordinator.failRestoredStep context (some action) "invalid_planner_decision"
          "Failed external-write step has an invalid action outcome."
    | none =>
      coordinator.failRestoredStep context (some action) "invalid_planner_decision"
        "Failed external-write step has an invalid action outcome."

/-- `_handle_external_terminal`. -/
def handleExternalTerminal (invocation : Invocation) (step : ToolCallRecord)
    (action : ExternalActionRecord) : Plain ToolObservation := do
  let context := invocation.context
  match ← WorkflowStore.getStep context.runId step.stepId with
  | none =>
    coordinator.fail context "invalid_planner_decision"
      "Terminal external action lost its tool step."
  | some current =>
    match action.status with
    | .succeeded => coordinator.restoreSuccess invocation current
    | .failed | .outcomeUnknown => coordinator.restoreFailure invocation current
    | .prepared | .dispatching =>
      coordinator.fail context "invalid_planner_decision"
        "External action was reported terminal with a non-terminal status."

/-! ### Dispatching -/

/-- The identity columns that the read-backs compare. -/
def sameIdentity (action expected : ExternalActionRecord) : Bool :=
  decide (action.actionId = expected.actionId ∧ action.runId = expected.runId ∧
    action.stepId = expected.stepId ∧
    externalActionIdentity action.toExternalActionRow =
      externalActionIdentity expected.toExternalActionRow)

/-- The action and the step that the read-backs of `_external_success_was_committed` and
`_external_failure_was_committed` compare. -/
def readBack (context : RuntimeExecutionContext) (step : ToolCallRecord) :
    Quiet (Option (ExternalActionRecord × ToolCallRecord)) := do
  let read ← Program.attempt do
    let action ← WorkflowStore.getExternalAction context.runId step.stepId
    let current ← WorkflowStore.getStep context.runId step.stepId
    return (action, current)
  match read with
  | .ok (some action, some current) => return some (action, current)
  | _ => return none

/-- `_external_success_was_committed`. -/
def externalSuccessWasCommitted (context : RuntimeExecutionContext) (step : ToolCallRecord)
    (expected : ExternalActionRecord) (dispatchToken : String) (resultJson : Json)
    (providerReference : String) : Quiet Bool := do
  match ← readBack context step with
  | none => return false
  | some (action, current) =>
    return sameIdentity action expected && decide (action.status = .succeeded ∧
      action.dispatchToken = some dispatchToken ∧
      action.providerReference = some providerReference ∧ action.resultJson = some resultJson ∧
      action.errorCode = none ∧ current.status = .completed ∧
      current.attemptToken = step.attemptToken ∧ current.resultJson = some resultJson ∧
      current.errorCode = none)

/-- `_external_failure_was_committed`. -/
def externalFailureWasCommitted (context : RuntimeExecutionContext) (step : ToolCallRecord)
    (expected : ExternalActionRecord) (dispatchToken : String) : Quiet Bool := do
  match ← readBack context step with
  | none => return false
  | some (action, current) =>
    return sameIdentity action expected && decide (action.status = .failed ∧
      action.dispatchToken = some dispatchToken ∧ action.providerReference = none ∧
      action.resultJson = none ∧ action.errorCode = some "external_action_failed" ∧
      current.status = .failed ∧ current.attemptToken = step.attemptToken ∧
      current.resultJson = none ∧ current.errorCode = some "external_action_failed")

/-- `_retry_after_ambiguous_result`: a rotated dispatch, or nothing when no retry is allowed. -/
def retryAfterAmbiguousResult (invocation : Invocation) (step : ToolCallRecord)
    (action : ExternalActionRecord) (dispatchToken attemptToken : String) :
    Runtime (Option (ExternalActionRecord × String)) := do
  let context := invocation.context
  if invocation.spec.retryMode = .unsafeRetry ∨
      coordinator.maxDispatches ≤ action.dispatchCount then
    return none
  let retry ← WorkflowStore.retryExternalActionDispatch context.runId step.stepId dispatchToken
    attemptToken context.leaseToken
  mirrorEvidence context
  match retry.outcome, retry.dispatchToken with
  | .retryClaimed, some token => return some (.of context.runId step.stepId retry.action, token)
  | .terminal, _ =>
    coordinator.fail context "invalid_planner_decision"
      "External action became terminal during an ambiguous retry."
  | .retryUnsafe, _ => return none
  | _, _ =>
    coordinator.fail context "invalid_planner_decision"
      ("External action retry state is invalid: " ++ dispatchOutcomeText retry.outcome ++ ".")

/-- The provider's result with its reference, validated and free of the idempotency key. -/
def trustedResult (invocation : Invocation)
    (outputModel : Payload → Payload → Option Payload) (answer : ProviderResult) :
    Option Payload :=
  let trusted := answer.result.set "provider_reference" (.str answer.providerReference)
  if (Json.obj trusted).containsText invocation.idempotencyKey then none
  else
    match outputModel invocation.normalizedArguments trusted with
    | none => none
    | some normalized =>
      if (Json.obj normalized).containsText invocation.idempotencyKey then none
      else some normalized

/-- The end of `_dispatch_external_action` after a definitive failure. -/
def recordDefinitiveFailure {α : Type} (context : RuntimeExecutionContext) (step : ToolCallRecord)
    (action : ExternalActionRecord) (dispatchToken attemptToken : String) : Runtime α := do
  let recorded ← Program.attempt (WorkflowStore.finalizeExternalActionFailed context.runId
    step.stepId dispatchToken attemptToken "external_action_failed")
  match recorded with
  | .ok _ => pure ()
  | .error _ =>
    let committed ← externalFailureWasCommitted context step action dispatchToken
    unless committed do
      coordinator.finalizeProviderUnknown context step dispatchToken attemptToken
  coordinator.raiseExternalTerminalFailure context step "external_action_failed"

/-- The end of `_dispatch_external_action` after a trusted result. -/
def recordTrustedResult (invocation : Invocation) (step : ToolCallRecord)
    (action : ExternalActionRecord) (dispatchToken attemptToken : String) (trusted : Payload)
    (providerReference : String) : Plain ToolObservation := do
  let context := invocation.context
  let resultJson := canonicalJson trusted
  let recorded ← Program.attempt (WorkflowStore.finalizeExternalActionSucceeded context.runId
    step.stepId dispatchToken attemptToken resultJson providerReference)
  match recorded with
  | .ok _ => pure ()
  | .error _ =>
    let committed ← externalSuccessWasCommitted context step action dispatchToken resultJson
      providerReference
    unless committed do
      coordinator.finalizeProviderUnknown context step dispatchToken attemptToken
  coordinator.recordExternalSuccessEvidence context step trusted
  return ⟨step.stepId, step.toolName, invocation.normalizedArguments, trusted, false⟩

/-- After an ambiguous answer: another round under a rotated token, or the outcome is unknown. -/
def retryOrUnknown (invocation : Invocation) (step : ToolCallRecord) (attemptToken : String)
    (again : ExternalActionRecord → String → Runtime ToolObservation)
    (action : ExternalActionRecord) (dispatchToken : String) : Runtime ToolObservation := do
  let retry ← coordinator.retryAfterAmbiguousResult invocation step action dispatchToken
    attemptToken
  match retry with
  | none =>
    coordinator.finalizeProviderUnknown invocation.context step dispatchToken attemptToken
  | some (rotated, token) => again rotated token

/-- `_dispatch_external_action`, each round with the dispatched action and its token. -/
def dispatchExternalAction (registry : ProviderRegistry) (providerName : String)
    (invocation : Invocation) (step : ToolCallRecord) (attemptToken : String) :
    Nat → ExternalActionRecord → String → Runtime ToolObservation
  | 0, _, _ => (Program.ask Op.unfollowed Op.runtime_unfollowed).bind Empty.elim
  | rounds + 1, action, dispatchToken => do
    let context := invocation.context
    let again := dispatchExternalAction registry providerName invocation step attemptToken rounds
    let routed := (registry providerName).map ExternalActionProvider.providerIdentity
    -- A dispatch that lost its provider, or found another account, is closed as unknown.
    if routed ≠ some action.providerIdentity then
      coordinator.finalizeReconciliationUnknown context step dispatchToken attemptToken
    else
      let request ← ofExcept (externalActionRequest action)
      let answer ← Program.attempt (dispatchRequest registry providerName
        invocation.spec.retryMode action.dispatchCount request)
      match answer, invocation.spec.outputModel with
      | .error .definitive, _ =>
        coordinator.recordDefinitiveFailure context step action dispatchToken attemptToken
      | .error _, _ =>
        coordinator.retryOrUnknown invocation step attemptToken again action dispatchToken
      | .ok _, none => throw (.other "AssertionError" "")
      | .ok result, some outputModel =>
        match trustedResult invocation outputModel result with
        | some trusted =>
          coordinator.recordTrustedResult invocation step action dispatchToken attemptToken
            trusted result.providerReference
        | none =>
          coordinator.retryOrUnknown invocation step attemptToken again action dispatchToken

/-- `_recover_external_dispatch`: an earlier attempt's dispatch is closed or retried. -/
def recoverExternalDispatch (registry : ProviderRegistry) (providerName : String)
    (invocation : Invocation) (step : ToolCallRecord) (action : ExternalActionRecord)
    (attemptToken : String) : Runtime ToolObservation := do
  let context := invocation.context
  match action.dispatchToken with
  | none => throw .reconciliationPending
  | some dispatchToken =>
    if invocation.spec.retryMode = .unsafeRetry then
      coordinator.raiseExternalOutcomeUnknown context step dispatchToken attemptToken
        (WorkflowStore.finalizeUnsafeInterruptedAction context.runId step.stepId dispatchToken
          attemptToken context.leaseToken)
    else if coordinator.maxDispatches ≤ action.dispatchCount then
      coordinator.finalizeReconciliationUnknown context step dispatchToken attemptToken
    else
      let retry ← WorkflowStore.retryExternalActionDispatch context.runId step.stepId
        dispatchToken attemptToken context.leaseToken
      mirrorEvidence context
      match retry.outcome, retry.dispatchToken with
      | .terminal, _ =>
        coordinator.handleExternalTerminal invocation step
          (.of context.runId step.stepId retry.action)
      | .retryClaimed, some token =>
        coordinator.dispatchExternalAction registry providerName invocation step attemptToken
          coordinator.rounds (.of context.runId step.stepId retry.action) token
      | outcome, _ =>
        coordinator.fail context "invalid_planner_decision"
          ("Persisted external action could not be safely recovered: " ++
            dispatchOutcomeText outcome ++ ".")

/-! ### Executing one call -/

/-- How `execute` goes on after the step: restored from an earlier attempt, or held by this one.
`recovered` says that an earlier attempt claimed it. -/
inductive StepStart where
  | restored (observation : ToolObservation)
  | held (step : ToolCallRecord) (attemptToken : String) (recovered : Bool)

/-- The claim of a step that `execute` makes when no attempt holds it. -/
def claimExternalStep (invocation : Invocation) (stepId toolName : String) : Plain StepStart := do
  let context := invocation.context
  let claim ← WorkflowStore.claimStep context.runId stepId toolName invocation.inputHash 1
    context.leaseToken
  let step := ToolCallRecord.of context.runId stepId claim.step
  match claim.outcome, claim.attemptToken with
  | .cached, _ => return .restored (← coordinator.restoreSuccess invocation step)
  | .inputMismatch, _ | .definitionMismatch, _ =>
    coordinator.fail context "invalid_planner_decision"
      "Persisted external action identity does not match the decision."
  | .alreadyRunning, _ | .attemptsExhausted, _ =>
    coordinator.fail context "tool_execution_failed"
      ("External action step could not be claimed: " ++ claimOutcomeText claim.outcome ++ ".")
  | .claimed, some attemptToken => return .held step attemptToken false
  | .claimed, none => throw (.other "AssertionError" "")

/-- The first part of `execute`: restore, resume or claim the step. -/
def startStep (invocation : Invocation) (stepId toolName : String) : Plain StepStart := do
  let context := invocation.context
  match ← WorkflowStore.getStep context.runId stepId with
  | none => coordinator.claimExternalStep invocation stepId toolName
  | some existing =>
    match existing.status with
    | .completed => return .restored (← coordinator.restoreSuccess invocation existing)
    | .failed => coordinator.restoreFailure invocation existing
    | .running =>
      if !context.recoveredAfterRestart then
        coordinator.fail context "tool_execution_failed"
          "External action is already running without a recovery boundary."
      else
        match existing.attemptToken with
        | none => throw .reconciliationPending
        | some attemptToken => return .held existing attemptToken true
    | .pending => coordinator.claimExternalStep invocation stepId toolName

/-- `execute` after a preparation that names another identity or another attempt. -/
def rejectPrepared {α : Type} (context : RuntimeExecutionContext) (step : ToolCallRecord)
    (prepared : Option ExternalActionRecord) : Plain α := do
  let mismatched ←
    match prepared with
    | some action => pure (some action)
    | none =>
      match ← Program.attempt (WorkflowStore.getExternalAction context.runId step.stepId) with
      | .ok action => pure action
      | .error _ => pure none
  match mismatched with
  | some action =>
    if action.status = .dispatching then
      coordinator.failExternalDispatchBinding context step action
  | none => pure ()
  coordinator.fail context "invalid_planner_decision"
    "Persisted external action binding does not match this execution."

/-- The second part of `execute`: the prepared and validated action of a held step. -/
def prepareAction (invocation : Invocation) (toolName providerName providerIdentity : String)
    (step : ToolCallRecord) (attemptToken : String) (recovered : Bool) :
    Plain ExternalActionRecord := do
  let context := invocation.context
  let prepared ← Program.attempt (WorkflowStore.prepareExternalAction context.runId step.stepId
    attemptToken
    { tenantId := context.authority.tenantId
      subjectId := context.authority.subjectId
      workflowType := coordinator.workflowType
      toolName := toolName
      providerName := providerName
      providerIdentity := providerIdentity
      inputHash := invocation.inputHash
      argumentsJson := canonicalJson invocation.normalizedArguments
      retryMode := invocation.spec.retryMode
      idempotencyKey := invocation.idempotencyKey } context.leaseToken)
  match prepared with
  | .error _ =>
    -- A step of an earlier attempt may own a dispatched action that could not be read.
    if recovered then throw .reconciliationPending
    coordinator.fail context "invalid_planner_decision"
      "External action preparation failed before dispatch."
  | .ok reply =>
    mirrorEvidence context
    let action := reply.action.map (ExternalActionRecord.of context.runId step.stepId)
    match reply.outcome, action with
    | .identityMismatch, _ | .toolAttemptMismatch, _ =>
      coordinator.rejectPrepared context step action
    | _, none => throw (.other "AssertionError" "")
    | _, some action =>
      coordinator.validateExternalActionBinding invocation step action (some providerIdentity)
      match externalActionRequest action with
      | .ok _ => return action
      | .error _ =>
        if action.status = .dispatching then
          coordinator.failExternalDispatchBinding context step action
        coordinator.fail context "invalid_planner_decision"
          "Prepared external action cannot form a provider request."

/-- The third part of `execute`: begin, recover or restore the dispatch of a prepared action. -/
def settleAction (registry : ProviderRegistry) (providerName : String) (invocation : Invocation)
    (step : ToolCallRecord) (attemptToken : String) (recovered : Bool)
    (action : ExternalActionRecord) : Runtime ToolObservation := do
  let context := invocation.context
  match action.status with
  | .prepared =>
    let dispatch ← WorkflowStore.beginExternalActionDispatch context.runId step.stepId
      attemptToken context.leaseToken
    mirrorEvidence context
    let dispatched := ExternalActionRecord.of context.runId step.stepId dispatch.action
    match dispatch.outcome, dispatch.dispatchToken with
    | .runCancelled, _ =>
      raiseExecution "run_cancel_requested" (coordinator.failureMessage "run_cancel_requested")
    | .terminal, _ => coordinator.handleExternalTerminal invocation step dispatched
    | .claimed, some token =>
      coordinator.dispatchExternalAction registry providerName invocation step attemptToken
        coordinator.rounds dispatched token
    | .claimed, none =>
      coordinator.fail context "invalid_planner_decision"
        "Claimed external action dispatch has no token."
    | outcome, _ =>
      coordinator.fail context "tool_execution_failed"
        ("External action dispatch could not be claimed: " ++ dispatchOutcomeText outcome ++ ".")
  | .dispatching =>
    if recovered then
      coordinator.recoverExternalDispatch registry providerName invocation step action
        attemptToken
    else
      coordinator.fail context "tool_execution_failed"
        "External action dispatch is already in progress."
  | _ => coordinator.handleExternalTerminal invocation step action

/-- `execute`. -/
def execute (context : RuntimeExecutionContext) (toolName : String) (spec : ToolSpec)
    (stepId : String) (normalizedArguments : Payload) : Runtime ToolObservation := do
  let routed := do
    let providerName ← spec.providerName
    let registry ← coordinator.dispatcher
    let provider ← registry providerName
    return (providerName, registry, provider.providerIdentity)
  match routed with
  | none =>
    coordinator.fail context "external_action_not_configured"
      "External action provider is not configured."
  | some (providerName, registry, providerIdentity) =>
    let inputHash := coordinator.stableHash normalizedArguments
    let invocation : Invocation :=
      { context := context
        spec := spec
        normalizedArguments := normalizedArguments
        inputHash := inputHash
        idempotencyKey := coordinator.idempotencyKey context stepId toolName inputHash }
    match ← coordinator.startStep invocation stepId toolName with
    | .restored observation => return observation
    | .held step attemptToken recovered =>
      let action ← coordinator.prepareAction invocation toolName providerName providerIdentity
        step attemptToken recovered
      coordinator.settleAction registry providerName invocation step attemptToken recovered action

end ExternalActionCoordinator

end AgentRuntime.Execution
