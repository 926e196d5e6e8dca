import AgentRuntime.Execution.Effects

/-!
# The stores as an attempt calls them, and `EvidenceProjector`

The first part gives each store operation of an attempt its own program, with the records the source
works with: a step and an action carry their Run and step ids besides their columns. The second part
is the projector that keeps the public Run event stream in step with the durable workflow evidence:
`record` writes the workflow event first and mirrors it, `mirror` repairs the whole stream.
-/

set_option autoImplicit false
set_option relaxedAutoImplicit false

namespace AgentRuntime.Execution

open Library Store

/-- `ToolCallRecord`. -/
structure ToolCallRecord extends ToolCallRow where
  runId : String
  stepId : String

/-- `ExternalActionRecord`. -/
structure ExternalActionRecord extends ExternalActionRow where
  runId : String
  stepId : String

/-- The columns of a step with its key. -/
def ToolCallRecord.of (runId stepId : String) (row : ToolCallRow) : ToolCallRecord :=
  { toToolCallRow := row, runId := runId, stepId := stepId }

/-- The columns of an action with its key. -/
def ExternalActionRecord.of (runId stepId : String) (row : ExternalActionRow) :
    ExternalActionRecord :=
  { toExternalActionRow := row, runId := runId, stepId := stepId }

/-! ### Reads and evidence -/

namespace WorkflowStore

def getExecution (runId : String) : Quiet (Option ExecutionRow) :=
  workflowCall (.getExecution runId) rfl

def getStep (runId stepId : String) : Quiet (Option ToolCallRecord) := do
  let row ← (workflowCall (.getStep runId stepId) rfl : Quiet (Option ToolCallRow))
  return row.map (.of runId stepId)

def listSteps (runId : String) : Quiet (List ToolCallRecord) := do
  let rows ← (workflowCall (.listSteps runId) rfl :
    Quiet (List (String × ToolCallRow)))
  return rows.map fun entry ↦ .of runId entry.1 entry.2

def getExternalAction (runId stepId : String) : Quiet (Option ExternalActionRecord) := do
  let row ← (workflowCall (.getExternalAction runId stepId) rfl :
    Quiet (Option ExternalActionRow))
  return row.map (.of runId stepId)

def listExternalActions (runId : String) : Quiet (List ExternalActionRecord) := do
  let rows ← (workflowCall (.listExternalActions runId) rfl :
    Quiet (List (String × ExternalActionRow)))
  return rows.map fun entry ↦ .of runId entry.1 entry.2

def listEvents (runId : String) : Quiet (List EventRow) :=
  workflowCall (.listEvents runId 0) rfl

def appendEvent (runId eventType : String) (payload : Payload) (leaseToken : Option String) :
    Quiet EventRow :=
  workflowCall (.appendEvent runId eventType payload leaseToken) rfl

end WorkflowStore

/-- `run_event_sink.list_events`. -/
def runEvents (runId : String) : Quiet (List EventRow) :=
  runCall (.listEvents runId 0) rfl

/-- `_append_run_event`: the Run store is a sink that enforces the lease. -/
def appendRunEvent (runId eventType : String) (payload : Payload) (leaseToken : Option String) :
    Quiet EventRow :=
  runCall (.appendAttemptEvent runId leaseToken eventType payload) rfl

/-! ### Ledger operations -/

namespace WorkflowStore

def createOrGetExecution (runId workflowType inputHash : String) (leaseToken : Option String) :
    Plain ExecutionClaimResult :=
  workflowCall (.createOrGetExecution runId workflowType inputHash leaseToken) rfl

def markRunning (runId : String) (leaseToken : Option String) : Plain ExecutionRow :=
  workflowCall (.markRunning runId leaseToken) rfl

def finalizeReady (runId : String) (resultJson : Json) (leaseToken : Option String) :
    Plain ExecutionRow :=
  workflowCall (.finalizeReady runId resultJson leaseToken) rfl

def finalizeBlocked (runId : String) (resultJson : Json) (errorCode : String)
    (leaseToken : Option String) : Plain ExecutionRow :=
  workflowCall (.finalizeBlocked runId resultJson errorCode leaseToken) rfl

def finalizeFailed (runId errorCode : String) (leaseToken : Option String) :
    Plain ExecutionRow :=
  workflowCall (.finalizeFailed runId errorCode leaseToken) rfl

def claimStep (runId stepId toolName inputHash : String) (maxAttempts : Nat)
    (leaseToken : Option String) : Plain ClaimResult :=
  workflowCall (.claimStep runId stepId toolName inputHash maxAttempts leaseToken) rfl

def completeStep (runId stepId attemptToken : String) (resultJson : Json)
    (leaseToken : Option String) : Plain ToolCallRow :=
  workflowCall (.completeStep runId stepId attemptToken resultJson leaseToken) rfl

def failStep (runId stepId attemptToken errorCode : String) (leaseToken : Option String) :
    Plain ToolCallRow :=
  workflowCall (.failStep runId stepId attemptToken errorCode leaseToken) rfl

def recoverInterruptedStep (runId stepId : String) (leaseToken : Option String) :
    Plain ToolCallRow :=
  workflowCall (.recoverInterruptedStep runId stepId leaseToken) rfl

def prepareExternalAction (runId stepId toolAttemptToken : String)
    (identity : ExternalActionIdentity) (leaseToken : Option String) :
    Plain ExternalActionPrepareResult :=
  workflowCall (.prepareExternalAction runId stepId toolAttemptToken identity leaseToken) rfl

def beginExternalActionDispatch (runId stepId toolAttemptToken : String)
    (leaseToken : Option String) : Runtime ExternalActionDispatchResult :=
  workflowCall (.beginExternalActionDispatch runId stepId toolAttemptToken leaseToken) rfl

def retryExternalActionDispatch (runId stepId previousDispatchToken toolAttemptToken : String)
    (leaseToken : Option String) : Runtime ExternalActionDispatchResult :=
  workflowCall (.retryExternalActionDispatch runId stepId previousDispatchToken
    toolAttemptToken leaseToken) rfl

def finalizeExternalActionSucceeded (runId stepId dispatchToken toolAttemptToken : String)
    (resultJson : Json) (providerReference : String) : Plain ExternalActionRow :=
  workflowCall (.finalizeExternalActionSucceeded runId stepId dispatchToken
    toolAttemptToken resultJson providerReference none) rfl

def finalizeExternalActionFailed (runId stepId dispatchToken toolAttemptToken errorCode : String) :
    Runtime ExternalActionRow :=
  workflowCall (.finalizeExternalActionFailed runId stepId dispatchToken
    toolAttemptToken errorCode none) rfl

def finalizeExternalActionOutcomeUnknown
    (runId stepId dispatchToken toolAttemptToken errorCode : String) : Plain ExternalActionRow :=
  workflowCall (.finalizeExternalActionOutcomeUnknown runId stepId dispatchToken
    toolAttemptToken errorCode none) rfl

def finalizeExternalActionReconciliationUnknown
    (runId stepId dispatchToken toolAttemptToken errorCode : String)
    (leaseToken : Option String) : Plain ExternalActionRow :=
  workflowCall (.finalizeExternalActionReconciliationUnknown runId stepId dispatchToken
    toolAttemptToken errorCode none leaseToken) rfl

def finalizeUnsafeInterruptedAction (runId stepId dispatchToken toolAttemptToken : String)
    (leaseToken : Option String) : Plain ExternalActionRow :=
  workflowCall (.finalizeUnsafeInterruptedAction runId stepId dispatchToken
    toolAttemptToken "external_action_outcome_unknown" leaseToken) rfl

end WorkflowStore

/-! ### The projector -/

/-- The event types besides `external_action.*` that are mirrored. -/
def mirroredEventTypes : List String :=
  ["planner.decision", "policy.decision", "tool.result", "loop.outcome"]

/-- The event belongs into the public stream. -/
def isMirrored (eventType : String) : Bool :=
  "external_action.".toList.isPrefixOf eventType.toList || mirroredEventTypes.contains eventType

/-- The payload is the evidence with this id. -/
def isEvidence (payload : Payload) (evidenceId : Json) : Bool :=
  (payload.getD "evidence_id").pyEq evidenceId

/-- `workflow_evidence`. -/
def workflowEvidence (runId eventType evidenceId : String) : Quiet (Option Payload) := do
  let events ← WorkflowStore.listEvents runId
  let found := events.find? fun event ↦
    event.eventType == eventType && isEvidence event.payload (.str evidenceId)
  return found.map EventRow.payload

/-- `ensure_run_evidence`. -/
def ensureRunEvidence (runId eventType : String) (payload : Payload)
    (leaseToken : Option String) : Quiet Unit := do
  let events ← runEvents runId
  let present := events.any fun event ↦
    event.eventType == eventType && isEvidence event.payload (payload.getD "evidence_id")
  if present then return
  discard <| appendRunEvent runId eventType payload leaseToken

/-- `record`, for a payload that starts with its evidence id. -/
def recordEvidence (runId eventType evidenceId : String) (fields : Payload)
    (leaseToken : Option String) : Quiet Unit := do
  let payload : Payload := ("evidence_id", .str evidenceId) :: fields
  match ← workflowEvidence runId eventType evidenceId with
  | none =>
    discard <| WorkflowStore.appendEvent runId eventType payload leaseToken
    ensureRunEvidence runId eventType payload leaseToken
  | some existing =>
    if (Json.obj existing).pyEq (.obj payload) then
      ensureRunEvidence runId eventType existing leaseToken
    else
      raiseExecution "invalid_planner_decision"
        ("Durable evidence mismatch for " ++ evidenceId ++ ".")

/-- `_run_evidence_index`: the types and ids of the evidence in the Run stream. -/
def runEvidenceIndex (runId : String) : Quiet (List (String × String)) := do
  let events ← runEvents runId
  return events.filterMap fun event ↦
    match event.payload.get? "evidence_id" with
    | some (.str evidenceId) => some (event.eventType, evidenceId)
    | _ => none

/-- The loop of `mirror`; the index is read once, when the first text id is met. -/
def mirrorEvents (runId : String) (leaseToken : Option String) :
    List EventRow → Option (List (String × String)) → Quiet Unit
  | [], _ => return
  | event :: rest, mirrored =>
    match isMirrored event.eventType, event.payload.get? "evidence_id" with
    | false, _ | true, none => mirrorEvents runId leaseToken rest mirrored
    | true, some (.str evidenceId) => do
      let index ←
        match mirrored with
        | some index => pure index
        | none => runEvidenceIndex runId
      if index.contains (event.eventType, evidenceId) then
        mirrorEvents runId leaseToken rest (some index)
      else
        discard <| appendRunEvent runId event.eventType event.payload leaseToken
        mirrorEvents runId leaseToken rest (some ((event.eventType, evidenceId) :: index))
    | true, some _ => do
      ensureRunEvidence runId event.eventType event.payload leaseToken
      mirrorEvents runId leaseToken rest mirrored

/-- `mirror`. -/
def mirrorEvidence (context : RuntimeExecutionContext) : Quiet Unit := do
  let events ← WorkflowStore.listEvents context.runId
  mirrorEvents context.runId context.leaseToken events none

/-- `record_tool_success`. -/
def recordToolSuccess (context : RuntimeExecutionContext) (stepId toolName : String)
    (result : Payload) : Quiet Unit :=
  recordEvidence context.runId "tool.result" ("tool-result:" ++ stepId)
    [("step_id", .str stepId), ("tool_name", .str toolName), ("status", .str "completed"),
      ("result", .obj result), ("error_code", .null)] context.leaseToken

/-- `record_tool_failure`. -/
def recordToolFailure (context : RuntimeExecutionContext) (stepId toolName errorCode : String) :
    Quiet Unit :=
  recordEvidence context.runId "tool.result" ("tool-result:" ++ stepId)
    [("step_id", .str stepId), ("tool_name", .str toolName), ("status", .str "failed"),
      ("result", .null), ("error_code", .str errorCode)] context.leaseToken

end AgentRuntime.Execution
