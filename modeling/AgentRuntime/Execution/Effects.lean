import AgentRuntime.Library.Program
import AgentRuntime.Store.Calls

/-!
# The operations an attempt performs

An attempt at a Run is a program over the stores, the planner, the tool sandbox, the finish
evaluator and the external-action providers. `Op` lists the operations with their arguments and
`Op.Answer` what each returns; any of them may raise a `Failure`. A call of a provider is two
operations, `enterProvider` and `awaitProvider`, since a worker may be overtaken or crash while it
waits inside.

Four scopes bound what a part of the code may do. `quiet` code reads, appends evidence, keeps
memories and consults oracles; `plain` code may also move the workflow ledger, except to dispatch an
external action or to fail one; `runtime` code may do all that a runtime does; `manager` code may do
everything.
-/

set_option autoImplicit false
set_option relaxedAutoImplicit false

namespace AgentRuntime.Execution

open Library Store

/-! ### Values -/

/-- `RuntimeExecutionContext`. -/
structure RuntimeExecutionContext where
  runId : String
  threadId : String
  recoveredAfterRestart : Bool
  authority : ExecutionAuthority
  leaseToken : Option String

/-- `RuntimeExecutionAuthority.allows`. -/
def allows (authority : ExecutionAuthority) (permission : String) : Bool :=
  authority.permissions.contains permission

/-- `ToolObservation`. -/
structure ToolObservation where
  stepId : String
  toolName : String
  arguments : Payload
  result : Payload
  cached : Bool

/-- `CallToolDecision`. -/
structure CallToolDecision where
  toolName : String
  arguments : Payload
  reason : String

/-- `RequestClarificationDecision`. -/
structure RequestClarificationDecision where
  question : String
  reason : String

/-- `FinishDecision`. -/
structure FinishDecision where
  message : String
  output : Payload
  reason : String

/-- `PlannerDecision`. -/
inductive PlannerDecision where
  | callTool (decision : CallToolDecision)
  | requestClarification (decision : RequestClarificationDecision)
  | finish (decision : FinishDecision)

/-- `PlannerContext`; the tool descriptors are shown as they are serialized. -/
structure PlannerContext where
  runId : String
  threadId : String
  runtimeInput : Payload
  state : Payload
  tools : List Json
  observations : List ToolObservation
  toolCallCount : Nat
  maxToolCalls : Nat

/-- `DynamicLoopOutcome`. -/
inductive DynamicLoopOutcome where
  | finished
  | clarification
  | blocked
  deriving DecidableEq

def DynamicLoopOutcome.text : DynamicLoopOutcome → String
  | finished => "finished"
  | clarification => "clarification"
  | blocked => "blocked"

/-- `FinishEvaluation`. -/
structure FinishEvaluation where
  outcome : DynamicLoopOutcome
  message : String
  output : Payload
  validationErrors : List String

/-- `ToolExecutionStatus`. -/
inductive ToolExecutionStatus where
  | completed
  | denied
  | capabilityUnsupported
  | invalidInput
  | timedOut
  | failed
  deriving DecidableEq

/-- What the loop reads of a `ToolExecutionResult`. -/
structure ToolExecutionResult where
  status : ToolExecutionStatus
  result : Option Payload

/-- `ExternalActionRequest`. -/
structure ExternalActionRequest where
  actionId : String
  runId : String
  stepId : String
  tenantId : String
  subjectId : String
  workflowType : String
  toolName : String
  arguments : Payload
  idempotencyKey : String

/-! ### Exceptions -/

/-- The exceptions of an attempt. A storage failure is whatever the database layer raises, before
or after the transaction commits. -/
inductive Failure where
  | runtimeExecution (code message : String)
  | reconciliationPending
  | store (error : StoreError)
  | storage (message : String)
  | definitive
  | ambiguous
  | invalidPlannerDecision (message : String)
  | plannerProvider (message : String)
  | validation (message : String)
  | other (typeName message : String)

/-- `ExternalActionReconciliationPendingError.CODE`. -/
def reconciliationPendingCode : String := "external_action_reconciliation_pending"

namespace Failure

/-- The stable code of a `RuntimeExecutionError`. -/
def code : Failure → Option String
  | runtimeExecution code _ => some code
  | reconciliationPending => some reconciliationPendingCode
  | _ => none

/-- The exception is a `RunLeaseLostError`. -/
def isLeaseLost : Failure → Bool
  | store (.runLeaseLost _) => true
  | _ => false

/-- `type(exc).__name__`. -/
def typeName : Failure → String
  | runtimeExecution .. => "RuntimeExecutionError"
  | reconciliationPending => "ExternalActionReconciliationPendingError"
  | store (.keyError _) => "KeyError"
  | store (.valueError _) => "ValueError"
  | store (.runtimeError _) => "RuntimeError"
  | store (.integrityError _) => "IntegrityError"
  | store (.runLeaseLost _) => "RunLeaseLostError"
  | store (.threadStateConflict _) => "ThreadStateConflictError"
  | store (.checkpointRevisionConflict ..) => "ThreadCheckpointRevisionConflictError"
  | store (.staleAttempt _) => "StaleAttemptError"
  | store (.staleDispatch _) => "StaleDispatchError"
  | store (.quarantineStalePlan _) => "QuarantineResolutionStalePlanError"
  | store (.quarantineEvidenceIncomplete _) => "QuarantineResolutionEvidenceIncompleteError"
  | storage _ => "OperationalError"
  | definitive => "DefinitiveExternalActionError"
  | ambiguous => "AmbiguousExternalActionError"
  | invalidPlannerDecision _ => "InvalidPlannerDecisionError"
  | plannerProvider _ => "PlannerProviderError"
  | validation _ => "ValidationError"
  | other typeName _ => typeName

/-- `str(exc)`, with the `repr` that `KeyError` shows. -/
def text : Failure → String
  | runtimeExecution _ message => message
  | reconciliationPending => "External action reconciliation requires restart recovery."
  | store (.keyError message) => pyRepr message
  | store (.valueError message) | store (.runtimeError message)
  | store (.runLeaseLost message) | store (.threadStateConflict message)
  | store (.staleAttempt message) | store (.staleDispatch message)
  | store (.quarantineEvidenceIncomplete message) => message
  | store (.integrityError constraint) => "UNIQUE constraint failed: " ++ constraint
  | store (.checkpointRevisionConflict expected observed) =>
    "Thread checkpoint revision mismatch: expected " ++ formatOption expected ++ ", observed "
      ++ toString observed
  | store (.quarantineStalePlan _) => "Quarantine resolution plan is stale"
  | storage message => message
  | definitive => "External action provider definitively failed."
  | ambiguous => "External action provider outcome is unknown."
  | invalidPlannerDecision message | plannerProvider message | validation message
  | other _ message => message

/-- `f"{type(exc).__name__}: {exc}"`. -/
def describe (failure : Failure) : String := failure.typeName ++ ": " ++ failure.text

end Failure

/-! ### Operations -/

/-- `RuntimeResponse`. -/
structure RuntimeResponse where
  message : String
  state : RuntimeState
  validationErrors : List String

/-- How `runtime.execute` ended, as the manager sees it. -/
inductive RuntimeExit where
  | returned (response : RuntimeResponse)
  | raised (failure : Failure)

/-- The operations of an attempt. -/
inductive Op where
  | store (call : Call)
  /-- `planner.decide`. -/
  | decide (context : PlannerContext)
  /-- `tool_sandbox.execute`. -/
  | executeTool (toolName : String) (arguments : Payload)
  /-- The domain's finish evaluator. -/
  | evaluateFinish (decision : FinishDecision) (observations : List ToolObservation)
  /-- `provider.execute` is entered with a request built from the action's dispatch of this
  number. -/
  | enterProvider (providerName : String) (dispatch : Nat) (request : ExternalActionRequest)
  /-- The provider call of that dispatch returns or raises. -/
  | awaitProvider (runId stepId : String) (dispatch : Nat)
  /-- `lease_lost.is_set()`. -/
  | leaseLost
  /-- An observation without effect: `runtime.execute` ended here. -/
  | runtimeEnded (exit : RuntimeExit)
  /-- The model follows a loop of the source no further. -/
  | unfollowed

namespace Op

/-- What each operation returns. -/
def Answer : Op → Type
  | store call => call.Reply
  | decide _ => Json
  | executeTool .. => ToolExecutionResult
  | evaluateFinish .. => FinishEvaluation
  | enterProvider .. => Unit
  | awaitProvider .. => Json
  | leaseLost => Bool
  | runtimeEnded _ => Unit
  | unfollowed => Empty

/-- Reads, evidence, governed memory and oracles. -/
def quiet : Op → Bool
  | store (.run (.appendAttemptEvent ..)) | store (.run (.listEvents ..)) => true
  | store (.workflow (.getExecution ..)) | store (.workflow (.getStep ..))
  | store (.workflow (.listSteps ..)) | store (.workflow (.getExternalAction ..))
  | store (.workflow (.listExternalActions ..)) | store (.workflow (.listEvents ..))
  | store (.workflow (.appendEvent ..)) | store (.memory _) => true
  | decide _ | executeTool .. | evaluateFinish .. | unfollowed => true
  | _ => false

/-- Everything on the workflow ledger but dispatching and failing an external action. -/
def plain : Op → Bool
  | store (.workflow (.beginExternalActionDispatch ..))
  | store (.workflow (.retryExternalActionDispatch ..))
  | store (.workflow (.finalizeExternalActionFailed ..)) => false
  | store (.workflow _) => true
  | op => op.quiet

/-- Everything a runtime does. -/
def runtime : Op → Bool
  | store (.workflow _) | enterProvider .. | awaitProvider .. => true
  | op => op.quiet

/-- Everything the manager does. -/
def manager : Op → Bool := fun _ ↦ true

theorem runtime_unfollowed : runtime unfollowed = true := rfl

theorem plain_of_quiet (op : Op) (hquiet : op.quiet = true) : op.plain = true := by
  unfold plain
  split <;> simp_all [quiet]

theorem runtime_of_plain (op : Op) (hplain : op.plain = true) : op.runtime = true := by
  unfold runtime
  split
  · rfl
  · rfl
  · rfl
  · unfold plain at hplain
    split at hplain <;> simp_all

end Op

abbrev Quiet : Type → Type := Program Op.Answer Failure Op.quiet

abbrev Plain : Type → Type := Program Op.Answer Failure Op.plain

abbrev Runtime : Type → Type := Program Op.Answer Failure Op.runtime

abbrev Manager : Type → Type := Program Op.Answer Failure Op.manager

instance : MonadLift Quiet Plain := ⟨Program.widen Op.plain_of_quiet⟩

instance : MonadLift Plain Runtime := ⟨Program.widen Op.runtime_of_plain⟩

instance : MonadLift Runtime Manager := ⟨Program.widen fun _ _ ↦ rfl⟩

/-- One operation of the workflow store. -/
def workflowCall {scope : Op → Bool} (call : WorkflowCall)
    (hscope : scope (.store (.workflow call)) = true) :
    Program Op.Answer Failure scope call.Reply :=
  Program.ask (Op.store (.workflow call)) hscope

/-- One operation of the Run store. -/
def runCall {scope : Op → Bool} (call : RunCall) (hscope : scope (.store (.run call)) = true) :
    Program Op.Answer Failure scope call.Reply :=
  Program.ask (Op.store (.run call)) hscope

/-- One operation of the memory store. -/
def memoryCall {scope : Op → Bool} (call : MemoryCall)
    (hscope : scope (.store (.memory call)) = true) : Program Op.Answer Failure scope call.Reply :=
  Program.ask (Op.store (.memory call)) hscope

/-- `raise RuntimeExecutionError(code, message)`. -/
def raiseExecution {scope : Op → Bool} {α : Type} (code message : String) :
    Program Op.Answer Failure scope α :=
  .raise (.runtimeExecution code message)

end AgentRuntime.Execution
