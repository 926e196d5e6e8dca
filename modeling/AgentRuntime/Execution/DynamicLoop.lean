import AgentRuntime.Execution.Coordinator

/-!
# `DynamicToolLoop`

The durable planner-tool loop: restore the observations of earlier attempts, then ask the planner
for one decision after the other, authorize each tool call, execute it through the sandbox or the
external-action coordinator, and finish with a durable outcome. `execute` wraps the loop into the
safety net that reconciles a dispatched action before an unrelated exception escapes.
-/

set_option autoImplicit false
set_option relaxedAutoImplicit false

namespace AgentRuntime.Execution

open Library Store

/-! ### Decisions and results -/

/-- No field has a key outside the list. -/
def onlyFields (fields : Payload) (keys : List String) : Bool :=
  fields.all fun field ↦ keys.contains field.1

/-- A required text field of bounded length. -/
def textField (fields : Payload) (key : String) (most : Nat) : Option String :=
  match fields.get? key with
  | some (.str text) => if bounded text most then some text else none
  | _ => none

/-- An object field, with its default. -/
def objectField (fields : Payload) (key : String) (default : Option Payload) : Option Payload :=
  match fields.get? key with
  | some (.obj value) => some value
  | some _ => none
  | none => default

/-- `PLANNER_DECISION_ADAPTER.validate_python`. -/
def validateDecision : Json → Option PlannerDecision
  | .obj fields =>
    match Payload.get? fields "decision_type" with
    | some (.str "CALL_TOOL") => do
      guard (onlyFields fields ["decision_type", "tool_name", "arguments", "reason"])
      let toolName ← textField fields "tool_name" 200
      let arguments ← objectField fields "arguments" (some [])
      let reason ← textField fields "reason" 1000
      return .callTool ⟨toolName, arguments, reason⟩
    | some (.str "REQUEST_CLARIFICATION") => do
      guard (onlyFields fields ["decision_type", "question", "reason"])
      let question ← textField fields "question" 2000
      let reason ← textField fields "reason" 1000
      return .requestClarification ⟨question, reason⟩
    | some (.str "FINISH") => do
      guard (onlyFields fields ["decision_type", "message", "output", "reason"])
      let message ← textField fields "message" 4000
      let output ← objectField fields "output" none
      let reason ← textField fields "reason" 1000
      return .finish ⟨message, output, reason⟩
    | _ => none
  | _ => none

/-- `decision.model_dump(mode="json")`. -/
def PlannerDecision.dump : PlannerDecision → Json
  | callTool decision =>
    .obj [("decision_type", .str "CALL_TOOL"), ("tool_name", .str decision.toolName),
      ("arguments", .obj decision.arguments), ("reason", .str decision.reason)]
  | requestClarification decision =>
    .obj [("decision_type", .str "REQUEST_CLARIFICATION"), ("question", .str decision.question),
      ("reason", .str decision.reason)]
  | finish decision =>
    .obj [("decision_type", .str "FINISH"), ("message", .str decision.message),
      ("output", .obj decision.output), ("reason", .str decision.reason)]

/-- `DynamicLoopResult`. -/
structure DynamicLoopResult where
  outcome : DynamicLoopOutcome
  message : String
  output : Payload
  validationErrors : List String
  observations : List ToolObservation

/-- An observation as it is serialized. -/
def ToolObservation.dump (observation : ToolObservation) : Json :=
  .obj [("step_id", .str observation.stepId), ("tool_name", .str observation.toolName),
    ("arguments", .obj observation.arguments), ("result", .obj observation.result),
    ("cached", .bool observation.cached)]

/-- `ToolObservation.model_validate`. -/
def ToolObservation.parse : Json → Option ToolObservation
  | .obj fields =>
    match onlyFields fields ["step_id", "tool_name", "arguments", "result", "cached"],
        Payload.get? fields "step_id", Payload.get? fields "tool_name",
        objectField fields "arguments" none, objectField fields "result" none,
        Payload.get? fields "cached" with
    | true, some (.str stepId), some (.str toolName), some arguments, some result,
        some (.bool cached) => some ⟨stepId, toolName, arguments, result, cached⟩
    | true, some (.str stepId), some (.str toolName), some arguments, some result, none =>
      some ⟨stepId, toolName, arguments, result, false⟩
    | _, _, _, _, _, _ => none
  | _ => none

/-- `result.model_dump_json()`. -/
def DynamicLoopResult.dump (result : DynamicLoopResult) : Json :=
  .obj [("outcome", .str result.outcome.text), ("message", .str result.message),
    ("output", .obj result.output),
    ("validation_errors", .arr (result.validationErrors.map Json.str)),
    ("observations", .arr (result.observations.map ToolObservation.dump))]

/-- The outcome with a value. -/
def DynamicLoopOutcome.parse : Json → Option DynamicLoopOutcome
  | .str "finished" => some finished
  | .str "clarification" => some clarification
  | .str "blocked" => some blocked
  | _ => none

/-- A text value. -/
def parseText : Json → Option String
  | .str text => some text
  | _ => none

/-- A list field, with the empty list as its default. -/
def listField {α : Type} (fields : Payload) (key : String) (parse : Json → Option α) :
    Option (List α) :=
  match fields.get? key with
  | some (.arr items) => items.mapM parse
  | some _ => none
  | none => some []

/-- `DynamicLoopResult.model_validate_json`. -/
def DynamicLoopResult.parse : Json → Option DynamicLoopResult
  | .obj fields => do
    guard (onlyFields fields
      ["outcome", "message", "output", "validation_errors", "observations"])
    let outcome ← (Payload.get? fields "outcome").bind DynamicLoopOutcome.parse
    let message ← (Payload.get? fields "message").bind parseText
    let output ← objectField fields "output" (some [])
    let validationErrors ← listField fields "validation_errors" parseText
    let observations ← listField fields "observations" ToolObservation.parse
    return ⟨outcome, message, output, validationErrors, observations⟩
  | _ => none

/-- `f"call-{index:04d}"`. -/
def callStepId (index : Nat) : String :=
  let digits := toString index
  "call-" ++ String.ofList (List.replicate (4 - digits.length) '0') ++ digits

/-! ### Failing the loop -/

/-- `_FAILURE_MESSAGES`. -/
def loopFailureMessages : String → Option String
  | "unknown_tool" => some "Planner selected a tool outside the runtime allowlist."
  | "invalid_tool_arguments" =>
    some "Planner supplied arguments that do not match the tool schema."
  | "tool_permission_denied" => some "Execution authority does not allow tool execution."
  | "tool_capability_unsupported" =>
    some "The configured executor cannot enforce the tool's required capability."
  | "tool_timed_out" => some "Tool execution exceeded its configured deadline."
  | "tool_execution_failed" => some "Tool execution failed."
  | "step_limit_exceeded" => some "The dynamic tool-call limit was exceeded."
  | "invalid_planner_decision" => some "Planner decision validation failed."
  | "planner_provider_failed" => some "Planner provider failed."
  | "external_action_permission_denied" =>
    some "Execution authority does not allow external actions."
  | "external_action_not_configured" =>
    some "External action execution is not configured for this tool."
  | "external_action_idempotency_unsupported" =>
    some "The configured provider does not support required idempotency."
  | "external_action_not_requested" =>
    some "The external action was not explicitly requested by this run."
  | "external_action_failed" => some "External action failed definitively."
  | "external_action_outcome_unknown" =>
    some "External action outcome is unknown and was not retried again."
  | "external_action_evidence_incomplete" =>
    some "External action completed, but durable run evidence is incomplete."
  | "run_cancel_requested" =>
    some "Run cancellation was requested before external action dispatch."
  | _ => none

/-- The end of `_fail`: a RUNNING execution is failed with the code. -/
def closeFailed (context : RuntimeExecutionContext) (code message : String) : Plain Empty := do
  match ← WorkflowStore.getExecution context.runId with
  | some execution =>
    if execution.status = .running then
      discard <| WorkflowStore.finalizeFailed context.runId code context.leaseToken
  | none => pure ()
  raiseExecution code message

/-- `_fail`: an outcome that an earlier attempt recorded is the authority. The detail is not kept,
since it may hold text of a provider or a model. -/
def failLoop (context : RuntimeExecutionContext) (code _unsafeDetail : String) :
    Plain Empty := do
  match ← workflowEvidence context.runId "loop.outcome" "loop:outcome" with
  | none =>
    let message := (loopFailureMessages code).getD "Dynamic tool loop failed."
    recordEvidence context.runId "loop.outcome" "loop:outcome"
      [("outcome", .str "failed"), ("error_code", .str code), ("message", .str message)]
      context.leaseToken
    closeFailed context code message
  | some existing =>
    if existing.getD "outcome" ≠ .str "failed" ∨ existing.getD "error_code" ≠ .str code then
      raiseExecution "invalid_planner_decision"
        "Durable loop failure evidence does not match recovery state."
    else
      match existing.getD "message" with
      | .str message =>
        if message.isEmpty then
          raiseExecution "invalid_planner_decision"
            "Durable loop failure evidence has an invalid message."
        else
          ensureRunEvidence context.runId "loop.outcome" existing context.leaseToken
          closeFailed context code message
      | _ =>
        raiseExecution "invalid_planner_decision"
          "Durable loop failure evidence has an invalid message."

/-- `DynamicToolLoop`: the tools, the providers and the limits of one server. The loop of `execute`
is followed for `rounds` rounds. -/
structure DynamicToolLoop where
  toolRegistry : String → Option ToolSpec
  toolDescriptors : List Json
  dispatcher : Option ProviderRegistry
  workflowType : String
  maxToolCalls : Nat
  maxToolCalls_pos : 1 ≤ maxToolCalls
  maxDispatches : Nat
  sha256 : Json → String
  rounds : Nat

namespace DynamicToolLoop

variable (loop : DynamicToolLoop)

/-- The coordinator that the constructor builds. -/
def coordinator : ExternalActionCoordinator where
  dispatcher := loop.dispatcher
  workflowType := loop.workflowType
  maxDispatches := loop.maxDispatches
  failureMessages := loopFailureMessages
  onFail := failLoop
  sha256 := loop.sha256
  rounds := loop.rounds

/-- `_fail` at any result type. -/
def fail {α : Type} (context : RuntimeExecutionContext) (code detail : String) : Plain α :=
  loop.coordinator.fail context code detail

/-- `_stable_hash`. -/
def stableHash (payload : Payload) : String := loop.coordinator.stableHash payload

/-! ### Planner decisions -/

/-- `_record_planner_failure`. -/
def recordPlannerFailure (context : RuntimeExecutionContext) (index : Nat) (errorCode : String) :
    Quiet Unit :=
  recordEvidence context.runId "planner.decision" ("planner:" ++ toString index)
    [("decision_index", Json.nat index), ("outcome", .str "rejected"),
      ("error_code", .str errorCode)] context.leaseToken

/-- The recorded code of a rejected decision. -/
def rejectedCode (persisted : Payload) : String :=
  match persisted.getD "error_code" with
  | .str code => if code.isEmpty then "invalid_planner_decision" else code
  | _ => "invalid_planner_decision"

/-- The detail for a recorded decision that does not validate. -/
def invalidDecisionDetail (persisted : Payload) : String :=
  "Persisted planner decision is invalid: " ++
    if (persisted.get? "decision").isSome then "ValidationError" else "KeyError"

/-- `_decision_for_index` when an earlier attempt recorded a decision. -/
def restoreDecision (context : RuntimeExecutionContext) (persisted : Payload) :
    Plain PlannerDecision := do
  if persisted.getD "outcome" = .str "rejected" then
    ensureRunEvidence context.runId "planner.decision" persisted context.leaseToken
    loop.fail context (rejectedCode persisted) "Persisted planner attempt was rejected."
  else
    match (persisted.get? "decision").bind validateDecision with
    | none =>
      loop.fail context "invalid_planner_decision" (invalidDecisionDetail persisted)
    | some decision =>
      ensureRunEvidence context.runId "planner.decision" persisted context.leaseToken
      return decision

/-- The evidence of an accepted decision; a tool call also names its step. -/
def acceptedFields (index : Nat) (decision : PlannerDecision) : Payload :=
  [("decision_index", Json.nat index), ("outcome", .str "accepted"),
      ("decision", decision.dump)] ++
    match decision with
    | .callTool _ => [("step_id", .str (callStepId index))]
    | _ => []

/-- `_decision_for_index` when the planner has to be asked. -/
def askPlanner (context : RuntimeExecutionContext) (runtimeInput state : Payload)
    (observations : List ToolObservation) (index : Nat) : Plain PlannerDecision := do
  let answer ← Program.attempt (Program.ask (Op.decide
    { runId := context.runId
      threadId := context.threadId
      runtimeInput := runtimeInput
      state := state
      tools := loop.toolDescriptors
      observations := observations
      toolCallCount := observations.length
      maxToolCalls := loop.maxToolCalls }) rfl)
  match answer with
  | .error (.invalidPlannerDecision message) =>
    recordPlannerFailure context index "invalid_planner_decision"
    loop.fail context "invalid_planner_decision"
      ("Planner returned an invalid decision: " ++ message)
  | .error failure =>
    recordPlannerFailure context index "planner_provider_failed"
    loop.fail context "planner_provider_failed"
      ("Planner provider failed: " ++
        match failure with
        | .plannerProvider message => message
        | _ => failure.typeName)
  | .ok raw =>
    match validateDecision raw with
    | none =>
      recordPlannerFailure context index "invalid_planner_decision"
      loop.fail context "invalid_planner_decision" "Planner decision failed schema validation."
    | some decision =>
      recordEvidence context.runId "planner.decision" ("planner:" ++ toString index)
        (acceptedFields index decision) context.leaseToken
      return decision

/-- `_decision_for_index`. -/
def decisionForIndex (context : RuntimeExecutionContext) (runtimeInput state : Payload)
    (observations : List ToolObservation) (index : Nat) : Plain PlannerDecision := do
  let persisted ←
    workflowEvidence context.runId "planner.decision" ("planner:" ++ toString index)
  match persisted with
  | some persisted => loop.restoreDecision context persisted
  | none => loop.askPlanner context runtimeInput state observations index

/-! ### Authorization -/

/-- `_record_policy_denial` and the failure that follows it. -/
def refuseCall {α : Type} (context : RuntimeExecutionContext) (stepId toolName code : String)
    (detail : String) : Plain α := do
  recordEvidence context.runId "policy.decision" ("policy:" ++ stepId)
    [("step_id", .str stepId), ("tool_name", .str toolName), ("outcome", .str "denied"),
      ("error_code", .str code)] context.leaseToken
  loop.fail context code detail

/-- Reconcile the step's dispatched action, if there is one. -/
def reconcileDispatched (context : RuntimeExecutionContext) :
    Option ExternalActionRecord → Plain Unit
  | some action => loop.coordinator.reconcileAction context action
  | none => return

/-- A denial that must not hide a dispatched action. -/
def denyCall {α : Type} (context : RuntimeExecutionContext)
    (dispatched : Option ExternalActionRecord) (stepId toolName code detail : String) :
    Plain α := do
  loop.reconcileDispatched context dispatched
  loop.refuseCall context stepId toolName code detail

/-- The checks of `_authorize_call` for an external write. -/
def authorizeExternalWrite (context : RuntimeExecutionContext) (runtimeInput : Payload)
    (spec : ToolSpec) (dispatched : Option ExternalActionRecord) (stepId toolName : String) :
    Plain Unit := do
  if !allows context.authority "external-actions:execute" then
    loop.denyCall context dispatched stepId toolName "external_action_permission_denied"
      "Execution authority does not allow external actions."
  let requested :=
    match spec.runtimeInputGate with
    | none => true
    | some gate => (gate runtimeInput).getD false
  if !requested then
    loop.denyCall context dispatched stepId toolName "external_action_not_requested"
      "External action requires an explicit runtime-input request."
  match loop.coordinator.providerFor spec with
  | none =>
    loop.denyCall context dispatched stepId toolName "external_action_not_configured"
      "External action provider is not configured."
  | some provider =>
    if spec.retryMode = .providerIdempotent ∧ provider.supportsIdempotency = false then
      loop.denyCall context dispatched stepId toolName "external_action_idempotency_unsupported"
        "External action provider does not support idempotency."

/-- The evidence of an allowed call. -/
def allowedFields (spec : ToolSpec) (stepId toolName : String) : Payload :=
  [("step_id", .str stepId), ("tool_name", .str toolName), ("outcome", .str "allowed"),
      ("error_code", .null)] ++
    if spec.effect = .externalWrite then
      [("effect", .str spec.effect.text), ("retry_mode", .str spec.retryMode.text),
        ("provider_name", textColumn spec.providerName)]
    else []

/-- `_authorize_call`: the normalized arguments of an allowed call. -/
def authorizeCall (context : RuntimeExecutionContext) (runtimeInput : Payload)
    (decision : CallToolDecision) (stepId : String) (toolCallCount : Nat) : Plain Payload := do
  let toolName := decision.toolName
  let dispatched ← ExternalActionCoordinator.dispatchedAction context.runId stepId
  if loop.maxToolCalls ≤ toolCallCount then
    loop.refuseCall context stepId toolName "step_limit_exceeded"
      ("Tool-call limit " ++ toString loop.maxToolCalls ++ " was exceeded.")
  else
    match loop.toolRegistry toolName with
    | none =>
      loop.denyCall context dispatched stepId toolName "unknown_tool"
        "Planner selected a tool outside the runtime allowlist."
    | some spec =>
      if !allows context.authority "tools:execute" then
        loop.denyCall context dispatched stepId toolName "tool_permission_denied"
          "Execution authority does not allow tool execution."
      if spec.effect = .externalWrite then
        loop.authorizeExternalWrite context runtimeInput spec dispatched stepId toolName
      else loop.reconcileDispatched context dispatched
      match spec.inputModel decision.arguments with
      | none =>
        loop.denyCall context dispatched stepId toolName "invalid_tool_arguments"
          "Planner supplied arguments that do not match the tool schema."
      | some normalized =>
        recordEvidence context.runId "policy.decision" ("policy:" ++ stepId)
          (allowedFields spec stepId toolName) context.leaseToken
        return normalized

/-! ### Read-only calls -/

/-- `_tool_error_code`. -/
def toolErrorCode : ToolExecutionStatus → String
  | .denied => "unknown_tool"
  | .capabilityUnsupported => "tool_capability_unsupported"
  | .invalidInput => "invalid_tool_arguments"
  | .timedOut => "tool_timed_out"
  | .failed | .completed => "tool_execution_failed"

/-- `_decode_tool_result_or_fail`. -/
def decodeToolResultOrFail (context : RuntimeExecutionContext) (step : ToolCallRecord) :
    Plain Payload :=
  match decodeToolResult step with
  | .ok result => return result
  | .error (.runtimeExecution code message) => loop.fail context code message
  | .error failure => throw failure

/-- `_record_tool_failure` and `_fail` with one code. -/
def failTool {α : Type} (context : RuntimeExecutionContext) (stepId toolName code : String)
    (detail : String) : Plain α := do
  recordToolFailure context stepId toolName code
  loop.fail context code detail

/-- `_execute_read_only_call` before its claim: what an earlier attempt left of the step. -/
def resumeReadOnlyStep (context : RuntimeExecutionContext) (stepId toolName : String) :
    Option ToolCallRecord → Plain Unit
  | none => return
  | some existing =>
    match existing.status with
    | .failed =>
      if existing.errorCode = some "interrupted" then return
      else
        loop.failTool context stepId toolName
          (existing.errorCode.filter (!·.isEmpty) |>.getD "tool_execution_failed")
          "Tool call previously failed."
    | .running =>
      if !context.recoveredAfterRestart then
        loop.fail context "tool_execution_failed"
          "Tool call is already running without a restart recovery boundary."
      else
        discard <| WorkflowStore.recoverInterruptedStep context.runId stepId context.leaseToken
    | .completed | .pending => return

/-- `_execute_read_only_call` with a claimed step. -/
def runTool (context : RuntimeExecutionContext) (stepId toolName attemptToken : String)
    (normalizedArguments : Payload) : Plain ToolObservation := do
  let failWith (code detail : String) : Plain ToolObservation := do
    discard <| WorkflowStore.failStep context.runId stepId attemptToken code context.leaseToken
    loop.failTool context stepId toolName code detail
  let answer ←
    Program.attempt (Program.ask (Op.executeTool toolName normalizedArguments) rfl)
  match answer with
  | .error failure =>
    failWith "tool_execution_failed" ("Tool executor raised " ++ failure.typeName ++ ".")
  | .ok execution =>
    match execution.status, execution.result with
    | .completed, some result =>
      discard <| WorkflowStore.completeStep context.runId stepId attemptToken
        (canonicalJson result) context.leaseToken
      recordToolSuccess context stepId toolName result
      return ⟨stepId, toolName, normalizedArguments, result, false⟩
    | status, _ =>
      failWith (toolErrorCode status) "Tool execution did not complete successfully."

/-- `_execute_read_only_call`. -/
def executeReadOnlyCall (context : RuntimeExecutionContext) (stepId toolName : String)
    (normalizedArguments : Payload) : Plain ToolObservation := do
  let existing ← WorkflowStore.getStep context.runId stepId
  loop.resumeReadOnlyStep context stepId toolName existing
  let claim ← WorkflowStore.claimStep context.runId stepId toolName
    (loop.stableHash normalizedArguments) 2 context.leaseToken
  match claim.outcome, claim.attemptToken with
  | .cached, _ =>
    if claim.step.resultJson.isNone then throw (.other "AssertionError" "")
    let result ←
      loop.decodeToolResultOrFail context (ToolCallRecord.of context.runId stepId claim.step)
    recordToolSuccess context stepId toolName result
    return ⟨stepId, toolName, normalizedArguments, result, true⟩
  | .inputMismatch, _ | .definitionMismatch, _ =>
    loop.fail context "invalid_planner_decision"
      "Persisted tool-call identity does not match the planner decision."
  | .alreadyRunning, _ | .attemptsExhausted, _ =>
    loop.fail context "tool_execution_failed"
      ("Tool call could not be claimed: " ++ claimOutcomeText claim.outcome ++ ".")
  | .claimed, some attemptToken =>
    loop.runTool context stepId toolName attemptToken normalizedArguments
  | .claimed, none => throw (.other "AssertionError" "")

/-- `_execute_call`. -/
def executeCall (context : RuntimeExecutionContext) (decision : CallToolDecision)
    (stepId : String) (normalizedArguments : Payload) : Runtime ToolObservation := do
  match loop.toolRegistry decision.toolName with
  | none =>
    loop.fail context "unknown_tool" "Authorized tool disappeared from the runtime allowlist."
  | some spec =>
    if spec.effect = .externalWrite then
      loop.coordinator.execute context decision.toolName spec stepId normalizedArguments
    else loop.executeReadOnlyCall context stepId decision.toolName normalizedArguments

/-! ### Restoring observations -/

/-- `_fail_restored_step`. -/
def failRestoredStep {α : Type} (context : RuntimeExecutionContext)
    (action : Option ExternalActionRecord) (code detail : String) : Plain α :=
  loop.coordinator.failRestoredStep context action code detail

/-- `_decision_payload_for_step`. -/
def decisionPayloadForStep (context : RuntimeExecutionContext) (stepId : String)
    (action : Option ExternalActionRecord) : Plain Payload := do
  let events ← WorkflowStore.listEvents context.runId
  let found := events.find? fun event ↦
    event.eventType == "planner.decision" && event.payload.getD "step_id" == .str stepId
  match found with
  | some event => return event.payload
  | none =>
    loop.failRestoredStep context action "invalid_planner_decision"
      ("Tool step " ++ stepId ++ " has no durable planner decision.")

/-- The part that `_restore_observations` repeats for a completed and for a failed step: the tool
and the normalized arguments of the decision behind it. -/
def restoredCall (context : RuntimeExecutionContext) (step : ToolCallRecord)
    (action : Option ExternalActionRecord) (label article : String) :
    Plain (ToolSpec × Payload) := do
  let payload ← loop.decisionPayloadForStep context step.stepId action
  match (payload.get? "decision").bind validateDecision with
  | none =>
    loop.failRestoredStep context action "invalid_planner_decision"
      (invalidDecisionDetail payload)
  | some (.callTool decision) =>
    match loop.toolRegistry decision.toolName with
    | none =>
      loop.failRestoredStep context action "unknown_tool"
        (article ++ " tool is no longer registered.")
    | some spec =>
      match spec.inputModel decision.arguments with
      | none =>
        loop.failRestoredStep context action "invalid_tool_arguments"
          "Persisted tool arguments no longer pass schema validation."
      | some normalized =>
        if step.toolName ≠ decision.toolName ∨ step.inputHash ≠ loop.stableHash normalized then
          loop.failRestoredStep context action "invalid_planner_decision"
            (label ++ " tool evidence does not match its planner decision.")
        else return (spec, normalized)
  | some _ =>
    loop.failRestoredStep context action "invalid_planner_decision"
      (label ++ " tool step is not backed by a CALL_TOOL decision.")

/-- The invocation that a restored step stands for. -/
def restoredInvocation (context : RuntimeExecutionContext) (step : ToolCallRecord)
    (spec : ToolSpec) (normalized : Payload) : Invocation where
  context := context
  spec := spec
  normalizedArguments := normalized
  inputHash := step.inputHash
  idempotencyKey :=
    loop.coordinator.idempotencyKey context step.stepId step.toolName step.inputHash

/-- `_restore_observations` for a completed step. -/
def restoreCompletedStep (context : RuntimeExecutionContext) (step : ToolCallRecord)
    (action : Option ExternalActionRecord) : Plain ToolObservation := do
  let (spec, normalized) ← loop.restoredCall context step action "Completed" "A completed"
  if spec.effect = .externalWrite then
    loop.coordinator.restoreSuccess (loop.restoredInvocation context step spec normalized) step
  else
    if action.isSome then
      loop.failRestoredStep context action "invalid_planner_decision"
        "Read-only completed step unexpectedly has an external action."
    let result ← loop.decodeToolResultOrFail context step
    recordToolSuccess context step.stepId step.toolName result
    return ⟨step.stepId, step.toolName, normalized, result, true⟩

/-- `_restore_observations` for a failed step, which fails the loop again. -/
def restoreFailedStep {α : Type} (context : RuntimeExecutionContext) (step : ToolCallRecord)
    (action : Option ExternalActionRecord) : Plain α := do
  let (spec, normalized) ← loop.restoredCall context step action "Failed" "A failed"
  if spec.effect = .externalWrite then
    loop.coordinator.restoreFailure (loop.restoredInvocation context step spec normalized) step
  else
    if action.isSome then
      loop.failRestoredStep context action "invalid_planner_decision"
        "Read-only failed step unexpectedly has an external action."
    loop.failTool context step.stepId step.toolName
      (step.errorCode.filter (!·.isEmpty) |>.getD "tool_execution_failed")
      "Persisted tool call failed."

/-- The loop of `_restore_observations` over the sorted steps. -/
def restoreSteps (context : RuntimeExecutionContext) :
    List ToolCallRecord → Plain (List ToolObservation)
  | [] => return []
  | step :: rest => do
    let action ← WorkflowStore.getExternalAction context.runId step.stepId
    match step.status with
    | .completed =>
      let observation ← loop.restoreCompletedStep context step action
      return observation :: (← restoreSteps context rest)
    | .failed =>
      if step.errorCode = some "interrupted" then restoreSteps context rest
      else loop.restoreFailedStep context step action
    | .running | .pending => restoreSteps context rest

/-- `_restore_observations`. -/
def restoreObservations (context : RuntimeExecutionContext) : Plain (List ToolObservation) := do
  let steps ← WorkflowStore.listSteps context.runId
  loop.restoreSteps context (steps.insertionSort fun left right ↦ left.stepId ≤ right.stepId)

/-! ### The loop -/

/-- `_complete_loop`. -/
def completeLoop (context : RuntimeExecutionContext) (result : DynamicLoopResult)
    (blockedCode : Option String) : Plain Unit := do
  recordEvidence context.runId "loop.outcome" "loop:outcome"
    [("outcome", .str result.outcome.text), ("message", .str result.message),
      ("validation_errors", .arr (result.validationErrors.map Json.str))] context.leaseToken
  match blockedCode with
  | none =>
    discard <| WorkflowStore.finalizeReady context.runId result.dump context.leaseToken
  | some code =>
    discard <| WorkflowStore.finalizeBlocked context.runId result.dump code context.leaseToken

/-- The exceptions of a finish evaluator that reject its payload. -/
def rejectsFinish : Failure → Bool
  | .invalidPlannerDecision _ | .validation _ => true
  | .other typeName _ => typeName == "ValueError"
  | _ => false

/-- A FINISH decision: the domain evaluates it and the loop records the outcome. -/
def finishLoop (context : RuntimeExecutionContext) (decision : FinishDecision)
    (observations : List ToolObservation) : Plain DynamicLoopResult := do
  match ← Program.attempt (Program.ask (Op.evaluateFinish decision observations) rfl) with
  | .error failure =>
    if rejectsFinish failure then
      loop.fail context "invalid_planner_decision"
        ("FINISH payload was rejected: " ++ failure.typeName)
    else throw failure
  | .ok evaluation =>
    if evaluation.outcome = .clarification then
      loop.fail context "invalid_planner_decision"
        "A FINISH evaluator cannot return clarification."
    else
      let result : DynamicLoopResult :=
        ⟨evaluation.outcome, evaluation.message, evaluation.output, evaluation.validationErrors,
          observations⟩
      completeLoop context result
        (if evaluation.outcome = .blocked then some "domain_validation_failed" else none)
      return result

/-- A REQUEST_CLARIFICATION decision ends the loop with the question. -/
def clarifyLoop (context : RuntimeExecutionContext) (decision : RequestClarificationDecision)
    (observations : List ToolObservation) : Plain DynamicLoopResult := do
  let result : DynamicLoopResult :=
    ⟨.clarification, decision.question, [("question", .str decision.question)], [], observations⟩
  completeLoop context result (some "clarification_required")
  return result

/-- The `while` loop of `_execute_impl`. -/
def iterate (context : RuntimeExecutionContext) (runtimeInput state : Payload) :
    Nat → List ToolObservation → Runtime DynamicLoopResult
  | 0, _ => (Program.ask Op.unfollowed Op.runtime_unfollowed).bind Empty.elim
  | rounds + 1, observations => do
    let index := observations.length + 1
    let decision ← loop.decisionForIndex context runtimeInput state observations index
    match decision with
    | .requestClarification decision => clarifyLoop context decision observations
    | .finish decision => loop.finishLoop context decision observations
    | .callTool decision =>
      let stepId := callStepId index
      let normalized ←
        loop.authorizeCall context runtimeInput decision stepId observations.length
      let observation ← loop.executeCall context decision stepId normalized
      iterate context runtimeInput state rounds (observations ++ [observation])

/-- The input hash of an execution; the trace of a state is not part of it. -/
def executionHash (runtimeInput state : Payload) : String :=
  loop.stableHash
    [("runtime_input", .obj runtimeInput),
      ("state", .obj (state.filter fun field ↦ field.1 ≠ "execution_trace")),
      ("workflow_type", .str loop.workflowType), ("max_tool_calls", Json.nat loop.maxToolCalls)]

/-- `_execute_impl` for an execution that an earlier attempt finished. -/
def replayExecution (execution : ExecutionRow) : Plain DynamicLoopResult :=
  match execution.status with
  | .failed =>
    raiseExecution (execution.errorCode.filter (!·.isEmpty) |>.getD "tool_execution_failed")
      "Dynamic workflow previously failed."
  | _ =>
    match execution.resultJson with
    | none =>
      raiseExecution "invalid_planner_decision" "Terminal dynamic workflow is missing its result."
    | some json =>
      match DynamicLoopResult.parse json with
      | some result => return result
      | none =>
        raiseExecution "invalid_planner_decision"
          "Terminal dynamic workflow has an invalid result."

/-- `_execute_impl` once the execution and its evidence are there. -/
def resumeExecution (context : RuntimeExecutionContext) (runtimeInput state : Payload)
    (execution : ExecutionRow) : Runtime DynamicLoopResult := do
  if execution.status.isTerminal then replayExecution execution
  else
    if execution.status = .pending then
      discard <| WorkflowStore.markRunning context.runId context.leaseToken
    let observations ← loop.restoreObservations context
    loop.iterate context runtimeInput state loop.rounds observations

/-- `_execute_impl`. -/
def executeImpl (context : RuntimeExecutionContext) (runtimeInput state : Payload) :
    Runtime DynamicLoopResult := do
  let claim ← WorkflowStore.createOrGetExecution context.runId loop.workflowType
    (loop.executionHash runtimeInput state) context.leaseToken
  if claim.outcome = .inputMismatch ∨ claim.outcome = .workflowTypeMismatch then
    loop.coordinator.reconcileRun context true
    raiseExecution "invalid_planner_decision"
      "Persisted dynamic workflow identity does not match this execution."
  else
    match ← Program.attempt (mirrorEvidence context : Plain Unit) with
    | .ok () => loop.resumeExecution context runtimeInput state claim.execution
    | .error failure =>
      -- A mirror outage must not replace the stronger outcome of a dispatched action.
      loop.coordinator.reconcileRun context true
      throw failure

/-- The failures that `execute` lets pass its safety net. -/
def passesSafetyNet (failure : Failure) : Bool :=
  match failure with
  | .reconciliationPending => true
  | .runtimeExecution code _ =>
    code == "external_action_outcome_unknown" || code == "external_action_evidence_incomplete"
  | _ => false

/-- `execute`: no unrelated exception escapes while a dispatched action may be in flight. -/
def execute (context : RuntimeExecutionContext) (runtimeInput state : Payload) :
    Runtime DynamicLoopResult :=
  tryCatch (loop.executeImpl context runtimeInput state) fun failure ↦ do
    if passesSafetyNet failure then throw failure
    loop.coordinator.reconcileRun context false
    throw failure

end DynamicToolLoop

end AgentRuntime.Execution
