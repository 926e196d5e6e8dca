import AgentRuntime.Library.Discipline
import AgentRuntime.Execution.Manager

/-!
# What an attempt knows and what it may do

The history of an attempt is all it knows: the rows and events that the stores showed it, and the
operations of its own that were acknowledged. The first part names the facts that can be read off a
history: the evidence of a Run, the rows of its actions and steps, the steps that are known to be
completed, and an authorized tool call with everything that `_authorize_call` checked.

The second part is the conduct of an attempt, a discipline over these facts. A step is claimed,
ended or executed for an authorized call only; evidence is appended after a look at the log that did
not show it; an execution and a Run are only failed with a code that the history warrants, and only
concluded after a decision that ends the loop.
-/

set_option autoImplicit false
set_option relaxedAutoImplicit false

namespace AgentRuntime.Execution

open Library Store

/-- One operation of an attempt with its answer. -/
abbrev Deed : Type := Performed Op.Answer Failure

/-- The deeds of an attempt. -/
abbrev History : Type := List Deed

/-- A call of the workflow store with its answer. -/
def Deed.workflow (call : WorkflowCall) (answer : Except Failure call.Reply) : Deed :=
  ⟨.store (.workflow call), answer⟩

/-- The deed is an operation on a store. -/
def Deed.isStore (deed : Deed) : Bool :=
  match deed.op with
  | .store _ => true
  | _ => false

/-- The deed consulted the planner. -/
def Deed.isConsultation (deed : Deed) : Bool :=
  match deed.op with
  | .decide _ => true
  | _ => false

/-- How often the planner was consulted. -/
def consultations (history : History) : Nat := history.countP Deed.isConsultation

/-! ### Evidence -/

/-- The first event of a type with an evidence id, as `workflow_evidence` finds it. -/
def firstEvidence (events : List EventRow) (eventType evidenceId : String) : Option Payload :=
  (events.find? fun event ↦
    event.eventType == eventType && isEvidence event.payload (.str evidenceId)).map
      EventRow.payload

/-- A look at the workflow log. -/
def Deed.look (runId : String) (events : List EventRow) : Deed :=
  .workflow (.listEvents runId 0) (.ok events)

/-- The history shows the first evidence of a type and an id: in the log, or recorded by itself. -/
inductive Evidenced (runId eventType evidenceId : String) (payload : Payload)
    (history : History) : Prop
  | seen (events : List EventRow) (hdeed : Deed.look runId events ∈ history)
    (hfirst : firstEvidence events eventType evidenceId = some payload)
  | recorded (token : Option String) (event : EventRow) (fields : Payload)
    (hpayload : payload = ("evidence_id", .str evidenceId) :: fields)
    (hdeed : Deed.workflow (.appendEvent runId eventType payload token) (.ok event) ∈ history)

/-- Evidence that was not in the log turned up there without a store operation in between: another
attempt recorded it. -/
def Contested (runId eventType evidenceId : String) (history : History) : Prop :=
  ∃ before events between later rest,
    history = before ++ Deed.look runId events :: between ++ Deed.look runId later :: rest ∧
      (∀ deed ∈ between, deed.isStore = false) ∧
      firstEvidence events eventType evidenceId = none ∧
      firstEvidence later eventType evidenceId ≠ none

/-- The decision that a recorded payload holds. -/
def recordedDecision (payload : Payload) : Option PlannerDecision :=
  (payload.get? "decision").bind validateDecision

/-- The evidence id of the decision with an index. -/
def plannerId (index : Nat) : String := "planner:" ++ toString index

/-- The history shows the decision recorded for an index, unless another attempt recorded it. -/
def Decided (runId : String) (index : Nat) (decision : PlannerDecision) (history : History) :
    Prop :=
  (∃ payload, recordedDecision payload = some decision ∧
    Evidenced runId "planner.decision" (plannerId index) payload history) ∨
  Contested runId "planner.decision" (plannerId index) history

/-- The history shows that the policy allowed a step. -/
def PolicyAllowed (runId stepId : String) (history : History) : Prop :=
  ∃ payload : Payload, (∀ value, payload.get? "outcome" = some value → value = .str "allowed") ∧
    Evidenced runId "policy.decision" ("policy:" ++ stepId) payload history

/-! ### Rows -/

/-- The deed shows the row of an action. -/
inductive ShowsAction (runId stepId : String) (row : ExternalActionRow) : Deed → Prop
  | got : ShowsAction runId stepId row
    (.workflow (.getExternalAction runId stepId) (.ok (some row)))
  | listed (rows : List (String × ExternalActionRow)) (hmem : (stepId, row) ∈ rows) :
    ShowsAction runId stepId row (.workflow (.listExternalActions runId) (.ok rows))
  | prepared (attempt : String) (identity : ExternalActionIdentity) (token : Option String)
    (reply : ExternalActionPrepareResult) (hrow : reply.action = some row) :
    ShowsAction runId stepId row
      (.workflow (.prepareExternalAction runId stepId attempt identity token) (.ok reply))
  | begun (attempt : String) (token : Option String) (reply : ExternalActionDispatchResult)
    (hrow : reply.action = row) : ShowsAction runId stepId row
      (.workflow (.beginExternalActionDispatch runId stepId attempt token) (.ok reply))
  | retried (previous attempt : String) (token : Option String)
    (reply : ExternalActionDispatchResult) (hrow : reply.action = row) :
    ShowsAction runId stepId row
      (.workflow (.retryExternalActionDispatch runId stepId previous attempt token) (.ok reply))

/-- The deed recorded the outcome of an action. -/
inductive Settles (runId stepId : String) : ExternalActionStatus → Deed → Prop
  | succeeded (dispatch attempt : String) (result : Json) (reference : String)
    (code : Option String) (row : ExternalActionRow) : Settles runId stepId .succeeded
      (.workflow (.finalizeExternalActionSucceeded runId stepId dispatch attempt result reference
        code) (.ok row))
  | failed (dispatch attempt code : String) (reference : Option String)
    (row : ExternalActionRow) : Settles runId stepId .failed
      (.workflow (.finalizeExternalActionFailed runId stepId dispatch attempt code reference)
        (.ok row))
  | outcomeUnknown (dispatch attempt code : String) (reference : Option String)
    (row : ExternalActionRow) : Settles runId stepId .outcomeUnknown
      (.workflow (.finalizeExternalActionOutcomeUnknown runId stepId dispatch attempt code
        reference) (.ok row))
  | reconciliationUnknown (dispatch attempt code : String) (reference token : Option String)
    (row : ExternalActionRow) : Settles runId stepId .outcomeUnknown
      (.workflow (.finalizeExternalActionReconciliationUnknown runId stepId dispatch attempt code
        reference token) (.ok row))
  | unsafeInterrupted (dispatch attempt code : String) (token : Option String)
    (row : ExternalActionRow) : Settles runId stepId .outcomeUnknown
      (.workflow (.finalizeUnsafeInterruptedAction runId stepId dispatch attempt code token)
        (.ok row))

/-- The history shows an action in a status. -/
def Reports (runId stepId : String) (status : ExternalActionStatus) (history : History) : Prop :=
  ∃ deed ∈ history, (∃ row, ShowsAction runId stepId row deed ∧ row.status = status) ∨
    Settles runId stepId status deed

/-- The deed shows the row of a step. -/
inductive ShowsStep (runId stepId : String) (row : ToolCallRow) : Deed → Prop
  | got : ShowsStep runId stepId row (.workflow (.getStep runId stepId) (.ok (some row)))
  | listed (rows : List (String × ToolCallRow)) (hmem : (stepId, row) ∈ rows) :
    ShowsStep runId stepId row (.workflow (.listSteps runId) (.ok rows))
  | claimed (toolName inputHash : String) (maxAttempts : Nat) (token : Option String)
    (reply : ClaimResult) (hrow : reply.step = row) : ShowsStep runId stepId row
      (.workflow (.claimStep runId stepId toolName inputHash maxAttempts token) (.ok reply))

/-- The history shows that a step is completed. -/
inductive StepDone (runId stepId : String) (history : History) : Prop
  | seen (deed : Deed) (row : ToolCallRow) (hdeed : deed ∈ history)
    (hshows : ShowsStep runId stepId row deed) (hcompleted : row.status = .completed)
  | cached (toolName inputHash : String) (maxAttempts : Nat) (token : Option String)
    (reply : ClaimResult) (houtcome : reply.outcome = .cached)
    (hdeed : Deed.workflow (.claimStep runId stepId toolName inputHash maxAttempts token)
      (.ok reply) ∈ history)
  | completed (attempt : String) (result : Json) (token : Option String) (row : ToolCallRow)
    (hdeed : Deed.workflow (.completeStep runId stepId attempt result token) (.ok row) ∈ history)
  | settled (deed : Deed) (hdeed : deed ∈ history)
    (hsettles : Settles runId stepId .succeeded deed)

/-- The number of completed steps in a listing. -/
def completedCount (rows : List (String × ToolCallRow)) : Nat :=
  rows.countP fun entry ↦ entry.2.status == .completed

/-- The history shows that the first `count` steps are completed: those that the ledger listed when
the attempt started, and those that it completed since. -/
def Observed (runId : String) (count : Nat) (history : History) : Prop :=
  ∃ rows, Deed.workflow (.listSteps runId) (.ok rows) ∈ history ∧
    ∀ index, completedCount rows < index → index ≤ count →
      StepDone runId (callStepId index) history

/-- The deed shows the row of an execution. -/
inductive ShowsExecution (runId : String) (row : ExecutionRow) : Deed → Prop
  | got : ShowsExecution runId row (.workflow (.getExecution runId) (.ok (some row)))
  | claimed (workflowType inputHash : String) (token : Option String)
    (reply : ExecutionClaimResult) (hrow : reply.execution = row) : ShowsExecution runId row
      (.workflow (.createOrGetExecution runId workflowType inputHash token) (.ok reply))

/-- The execution ended with a result. -/
def isConcluded (status : WorkflowStatus) : Bool := status == .ready || status == .blocked

/-- The history shows that the execution ended with a result. -/
inductive Concluded (runId : String) (history : History) : Prop
  | seen (deed : Deed) (row : ExecutionRow) (hdeed : deed ∈ history)
    (hshows : ShowsExecution runId row deed) (hstatus : isConcluded row.status = true)
  | ready (result : Json) (token : Option String) (row : ExecutionRow)
    (hdeed : Deed.workflow (.finalizeReady runId result token) (.ok row) ∈ history)
  | blocked (result : Json) (code : String) (token : Option String) (row : ExecutionRow)
    (hdeed : Deed.workflow (.finalizeBlocked runId result code token) (.ok row) ∈ history)

/-! ### An authorized call -/

/-- The loop of the runtime that the manager registered for a claimed Run. -/
def Serves (manager : RuntimeManager) (claim : RunLeaseClaim) (loop : DynamicToolLoop) : Prop :=
  ∃ registration, manager.registrationFor claim.run = .ok registration ∧
    registration.loop = loop

/-- The loop input that the runtime prepares from the input of a claimed Run. -/
def LoopInput (manager : RuntimeManager) (claim : RunLeaseClaim) (input : Payload) : Prop :=
  ∃ registration parsed state prepared, manager.registrationFor claim.run = .ok registration ∧
    registration.parseInput claim.run.input = .ok parsed ∧
    registration.prepare state parsed = .ok (input, prepared)

/-- A tool call of the loop: the decision behind it, and the arguments the tool's schema makes of
those the planner gave. -/
structure ToolCall where
  loop : DynamicToolLoop
  input : Payload
  index : Nat
  decision : CallToolDecision
  spec : ToolSpec
  normalized : Payload

namespace ToolCall

def stepId (call : ToolCall) : String := callStepId call.index

def inputHash (call : ToolCall) : String := call.loop.stableHash call.normalized

def isExternal (call : ToolCall) : Bool := call.spec.effect == .externalWrite

/-- An external write was requested by the Run, and its provider can do what the tool needs. -/
structure Requested (call : ToolCall) : Prop where
  gate : ∀ gate, call.spec.runtimeInputGate = some gate → gate call.input = some true
  provider : ∃ provider, call.loop.coordinator.providerFor call.spec = some provider ∧
    (call.spec.retryMode = .providerIdempotent → provider.supportsIdempotency = true)

end ToolCall

/-- The call passed `_authorize_call` in this attempt. -/
structure Authorized (manager : RuntimeManager) (claim : RunLeaseClaim) (history : History)
    (call : ToolCall) : Prop where
  serves : Serves manager claim call.loop
  input : LoopInput manager claim call.input
  decided : Decided claim.run.runId call.index (.callTool call.decision) history
  limit : 1 ≤ call.index ∧ call.index ≤ call.loop.maxToolCalls
  registered : call.loop.toolRegistry call.decision.toolName = some call.spec
  normalized : call.spec.inputModel call.decision.arguments = some call.normalized
  authority : ∃ authority, executionAuthority claim.run = .ok authority ∧
    allows authority "tools:execute" = true ∧
    (call.isExternal = true → allows authority "external-actions:execute" = true)
  requested : call.isExternal = true → call.Requested
  policy : PolicyAllowed claim.run.runId call.stepId history

/-! ### Warranted codes -/

/-- What a failure code says about the action behind it. -/
def reportedStatus : String → Option ExternalActionStatus
  | "external_action_failed" => some .failed
  | "external_action_outcome_unknown" => some .outcomeUnknown
  | "external_action_evidence_incomplete" => some .succeeded
  | _ => none

/-- The history shows a step of a read-only tool that failed with the code. -/
def ReadOnlyCode (manager : RuntimeManager) (claim : RunLeaseClaim) (history : History)
    (stepId code : String) : Prop :=
  ∃ deed ∈ history, ∃ row, ShowsStep claim.run.runId stepId row deed ∧
    row.errorCode = some code ∧
    ((∃ loop spec, Serves manager claim loop ∧ loop.toolRegistry row.toolName = some spec ∧
        spec.effect = .readOnly) ∨
      ∃ call, Authorized manager claim history call ∧ call.stepId = stepId ∧
        call.isExternal = false)

/-- The history warrants that a step is reported with the code. -/
def StepWarranted (manager : RuntimeManager) (claim : RunLeaseClaim) (history : History)
    (stepId code : String) : Prop :=
  ∀ status, reportedStatus code = some status →
    Reports claim.run.runId stepId status history ∨ ReadOnlyCode manager claim history stepId code

/-- Code of the runtime outside the loop raises an error with the code. -/
def Foreign (registration : RuntimeRegistration) (code : String) : Prop :=
  ∃ failure : Failure, failure.code = some code ∧
    ((∃ input, registration.parseInput input = .error failure) ∨
      (∃ state input, registration.prepare state input = .error failure) ∨
      (∃ state input result, registration.conclude state input result = .error failure) ∨
      ∃ policy state memories, registration.memory = some policy ∧
        policy.overlay state memories = .error failure)

/-- Where a failure code comes from, if it is about external actions. -/
inductive Source (manager : RuntimeManager) (claim : RunLeaseClaim) (history : History)
    (code : String) (status : ExternalActionStatus) : Prop
  | action (stepId : String) (hreports : Reports claim.run.runId stepId status history)
  | readOnly (stepId : String) (hcode : ReadOnlyCode manager claim history stepId code)
  | execution (deed : Deed) (row : ExecutionRow) (hdeed : deed ∈ history)
    (hshows : ShowsExecution claim.run.runId row deed) (hfailed : row.status = .failed)
    (hcode : row.errorCode = some code)
  | planner (evidenceId : String) (payload : Payload)
    (hevidenced : Evidenced claim.run.runId "planner.decision" evidenceId payload history)
    (hcode : payload.getD "error_code" = .str code)
  | evaluator (decision : FinishDecision) (observations : List ToolObservation)
    (failure : Failure)
    (hdeed : (⟨.evaluateFinish decision observations, .error failure⟩ : Deed) ∈ history)
    (hcode : failure.code = some code)
  | runtime (registration : RuntimeRegistration)
    (hregistration : manager.registrationFor claim.run = .ok registration)
    (hforeign : Foreign registration code)

/-- The history warrants that the Run is failed with the code. -/
def Warranted (manager : RuntimeManager) (claim : RunLeaseClaim) (history : History)
    (code : String) : Prop :=
  ∀ status, reportedStatus code = some status → Source manager claim history code status

/-! ### Conduct -/

/-- The history shows that a step succeeded. -/
def StepSucceeded (runId stepId : String) (history : History) : Prop :=
  StepDone runId stepId history ∨ Reports runId stepId .succeeded history

/-- Evidence may be appended after a look at the log that did not show it. A rejected decision
carries no code of an external action, a policy decision its outcome, and a tool result only a
warranted code, or none if the step succeeded. -/
structure MayAppend (manager : RuntimeManager) (claim : RunLeaseClaim) (history : History)
    (eventType : String) (payload : Payload) : Prop where
  mirrored : eventType ∈ mirroredEventTypes
  looked : ∃ evidenceId fields before events, payload = ("evidence_id", .str evidenceId) :: fields ∧
    history = before ++ [Deed.look claim.run.runId events] ∧
    firstEvidence events eventType evidenceId = none
  decision : eventType = "planner.decision" →
    ∀ code, payload.getD "error_code" = .str code → reportedStatus code = none
  policy : eventType = "policy.decision" → (payload.get? "outcome").isSome = true
  result : eventType = "tool.result" → ∀ stepId code, payload.getD "step_id" = .str stepId →
    payload.getD "error_code" = .str code → StepWarranted manager claim history stepId code
  completed : eventType = "tool.result" → ∀ stepId, payload.getD "step_id" = .str stepId →
    payload.getD "status" = .str "completed" → StepSucceeded claim.run.runId stepId history

/-- The conduct of an attempt on the workflow store. -/
def MayCall (manager : RuntimeManager) (claim : RunLeaseClaim) (history : History) :
    WorkflowCall → Prop
  | .createOrGetExecution runId _ _ token | .markRunning runId token =>
    runId = claim.run.runId ∧ token = some claim.leaseToken
  | .finalizeReady runId _ token | .finalizeBlocked runId _ _ token =>
    runId = claim.run.runId ∧ token = some claim.leaseToken ∧
      ∃ count decision, Observed runId count history ∧
        Decided runId (count + 1) decision history ∧ ∀ call, decision ≠ .callTool call
  | .finalizeFailed runId code token =>
    runId = claim.run.runId ∧ token = some claim.leaseToken ∧
      Warranted manager claim history code
  | .reuseCompletedStep .. => False
  | .claimStep runId stepId toolName inputHash maxAttempts token =>
    runId = claim.run.runId ∧ token = some claim.leaseToken ∧
      ∃ call : ToolCall, Authorized manager claim history call ∧ stepId = call.stepId ∧
        toolName = call.decision.toolName ∧ inputHash = call.inputHash ∧
        maxAttempts = (if call.isExternal then 1 else 2) ∧
        Observed runId (call.index - 1) history
  | .completeStep runId stepId _ _ token | .recoverInterruptedStep runId stepId token =>
    runId = claim.run.runId ∧ token = some claim.leaseToken ∧
      ∃ call : ToolCall, Authorized manager claim history call ∧ stepId = call.stepId ∧
        call.isExternal = false
  | .failStep runId stepId _ code token =>
    runId = claim.run.runId ∧ token = some claim.leaseToken ∧ reportedStatus code = none ∧
      ∃ call : ToolCall, Authorized manager claim history call ∧ stepId = call.stepId ∧
        call.isExternal = false
  | .prepareExternalAction runId stepId _ identity token =>
    runId = claim.run.runId ∧ token = some claim.leaseToken ∧
      ∃ call : ToolCall, Authorized manager claim history call ∧ stepId = call.stepId ∧
        identity.toolName = call.decision.toolName ∧ call.isExternal = true
  | .beginExternalActionDispatch runId _ _ token
  | .retryExternalActionDispatch runId _ _ _ token =>
    runId = claim.run.runId ∧ token = some claim.leaseToken
  | .appendEvent runId eventType payload token =>
    runId = claim.run.runId ∧ token = some claim.leaseToken ∧
      MayAppend manager claim history eventType payload
  | _ => True

/-- The attempt claimed the step of a call after it was authorized. -/
def HoldsStep (manager : RuntimeManager) (claim : RunLeaseClaim) (history : History)
    (call : ToolCall) : Prop :=
  ∃ before maxAttempts token reply, before ++ [Deed.workflow (.claimStep claim.run.runId
      call.stepId call.decision.toolName call.inputHash maxAttempts token) (.ok reply)] <+:
        history ∧
    Authorized manager claim before call

/-- The deed committed a dispatch of an action. -/
inductive Dispatches (runId stepId : String) (row : ExternalActionRow) : Deed → Prop
  | begun (attempt : String) (token : Option String) (reply : ExternalActionDispatchResult)
    (hrow : reply.action = row) : Dispatches runId stepId row
      (.workflow (.beginExternalActionDispatch runId stepId attempt token) (.ok reply))
  | retried (previous attempt : String) (token : Option String)
    (reply : ExternalActionDispatchResult) (hrow : reply.action = row) :
    Dispatches runId stepId row
      (.workflow (.retryExternalActionDispatch runId stepId previous attempt token) (.ok reply))

/-- The attempt dispatched an action after its call was authorized, and the request is that of the
action. -/
def HoldsRequest (manager : RuntimeManager) (claim : RunLeaseClaim) (history : History)
    (call : ToolCall) (request : ExternalActionRequest) : Prop :=
  ∃ before deed row, before ++ [deed] <+: history ∧ Authorized manager claim before call ∧
    Dispatches claim.run.runId call.stepId row deed ∧
    externalActionRequest (.of claim.run.runId call.stepId row) = .ok request

/-- The history shows the action of a call with the arguments of the call. -/
def Validated (claim : RunLeaseClaim) (history : History) (call : ToolCall) : Prop :=
  ∃ deed ∈ history, ∃ row, ShowsAction claim.run.runId call.stepId row deed ∧
    row.argumentsJson = canonicalJson call.normalized

/-- The conduct of an attempt. -/
def MayPerform (manager : RuntimeManager) (claim : RunLeaseClaim) (history : History) : Op → Prop
  | .store (.workflow call) => MayCall manager claim history call
  | .store (.run (.claimNextRun ..)) => False
  | .store (.run (.commitCompletedRun run token)) =>
    run.runId = claim.run.runId ∧ token = claim.leaseToken ∧ Concluded claim.run.runId history
  | .store (.run (.commitFailedRun run token code _ _ _)) =>
    run.runId = claim.run.runId ∧ token = claim.leaseToken ∧
      Warranted manager claim history code
  | .decide _ => ∃ loop, Serves manager claim loop ∧ consultations history ≤ loop.maxToolCalls
  | .executeTool toolName arguments => ∃ call : ToolCall, call.isExternal = false ∧
      toolName = call.decision.toolName ∧ arguments = call.normalized ∧
      HoldsStep manager claim history call
  | .enterProvider providerName _ request => ∃ call : ToolCall, call.isExternal = true ∧
      call.spec.providerName = some providerName ∧
      HoldsRequest manager claim history call request ∧ Validated claim history call
  | _ => True

/-- Stores raise errors of their own, and the model's own observations raise none. -/
def possibleAnswer : (op : Op) → Except Failure op.Answer → Prop
  | .store _, .error failure => failure.code = none
  | .leaseLost, .error _ | .runtimeEnded _, .error _ | .unfollowed, _ => False
  | _, _ => True

/-- The conduct of an attempt as a discipline. -/
def conduct (manager : RuntimeManager) (claim : RunLeaseClaim) :
    Discipline Op.Answer Failure where
  possible := possibleAnswer
  allowed := MayPerform manager claim

end AgentRuntime.Execution
