import Mathlib.Data.List.Sort
import AgentRuntime.Store.RunOperations

/-!
# Quarantine resolution

`plan_quarantine_resolution` and `apply_quarantine_resolution`: from one snapshot of the Run, its
checkpoint, its events and its workflow ledger derive a plan, and terminalize the Run only under
an eligible plan whose id the operator confirmed. The two SHA-256 digests are the parameter
`Hasher`; nothing below depends on which functions they are.
-/

set_option autoImplicit false
set_option relaxedAutoImplicit false

namespace AgentRuntime.Store

open Library

/-- `sha256(…).hexdigest()` of a canonical JSON text and of a serialized state. -/
structure Hasher where
  canonicalHash : Json → String
  stateHash : StateJson → String

/-! ### Evidence of one Run -/

/-- `SELECT * FROM external_actions WHERE run_id = ? ORDER BY created_at, action_id`, each row
with its step. -/
def actionRows (db : Database) (runId : String) : List (String × ExternalActionRow) :=
  ((db.externalActions.rows.filter fun entry ↦ entry.1.1 == runId).map
    fun entry ↦ (entry.1.2, entry.2)).insertionSort
      fun left right ↦ toLex (left.2.createdAt, left.2.actionId) ≤
        toLex (right.2.createdAt, right.2.actionId)

/-- `SELECT * FROM tool_calls WHERE run_id = ? ORDER BY created_at, call_id`, each row with its
step. -/
def stepRows (db : Database) (runId : String) : List (String × ToolCallRow) :=
  ((db.toolCalls.rows.filter fun entry ↦ entry.1.1 == runId).map
    fun entry ↦ (entry.1.2, entry.2)).insertionSort
      fun left right ↦ toLex (left.2.createdAt, left.2.callId) ≤
        toLex (right.2.createdAt, right.2.callId)

/-- The events of a Run in one of the event tables, with their ids. They are appended with
increasing sequences. -/
def eventRows (events : List EventRow) (runId : String) : List (EventRow × Nat) :=
  events.zipIdx.filter fun entry ↦ entry.1.runId == runId

/-- An optional text column. -/
def textColumn : Option String → Json := Json.ofOption Json.str

/-- An optional column that holds a JSON text. The text `null` is not an absent column. -/
def jsonColumn : Option Json → Json := Json.ofOption fun value ↦ .arr [value]

/-- `_resolution_row_material` of an execution. -/
def executionMaterial (runId : String) (row : ExecutionRow) : Json :=
  .obj [("run_id", .str runId), ("workflow_type", .str row.workflowType),
    ("input_hash", .str row.inputHash), ("status", .str row.status.text),
    ("result_json", jsonColumn row.resultJson), ("error_code", textColumn row.errorCode),
    ("created_at", .str row.createdAt), ("updated_at", .str row.updatedAt),
    ("completed_at", textColumn row.completedAt)]

/-- `_resolution_row_material` of a step. -/
def stepMaterial (runId stepId : String) (row : ToolCallRow) : Json :=
  .obj [("call_id", .str row.callId), ("run_id", .str runId), ("step_id", .str stepId),
    ("tool_name", .str row.toolName), ("input_hash", .str row.inputHash),
    ("status", .str row.status.text), ("attempt_count", Json.nat row.attemptCount),
    ("attempt_token", textColumn row.attemptToken), ("result_json", jsonColumn row.resultJson),
    ("error_code", textColumn row.errorCode), ("created_at", .str row.createdAt),
    ("updated_at", .str row.updatedAt)]

/-- `_resolution_row_material` of an external action. -/
def actionMaterial (runId stepId : String) (row : ExternalActionRow) : Json :=
  .obj [("action_id", .str row.actionId), ("run_id", .str runId), ("step_id", .str stepId),
    ("tenant_id", .str row.tenantId), ("subject_id", .str row.subjectId),
    ("workflow_type", .str row.workflowType), ("tool_name", .str row.toolName),
    ("provider_name", .str row.providerName), ("provider_identity", .str row.providerIdentity),
    ("input_hash", .str row.inputHash), ("arguments_json", row.argumentsJson),
    ("retry_mode", .str row.retryMode.text), ("idempotency_key", .str row.idempotencyKey),
    ("status", .str row.status.text), ("dispatch_count", Json.nat row.dispatchCount),
    ("dispatch_token", textColumn row.dispatchToken),
    ("provider_reference", textColumn row.providerReference),
    ("result_json", jsonColumn row.resultJson), ("error_code", textColumn row.errorCode),
    ("created_at", .str row.createdAt), ("updated_at", .str row.updatedAt),
    ("dispatched_at", textColumn row.dispatchedAt), ("finalized_at", textColumn row.finalizedAt)]

/-- `_resolution_row_material` of a workflow event. -/
def eventMaterial (entry : EventRow × Nat) : Json :=
  .obj [("event_id", Json.nat (entry.2 + 1)), ("run_id", .str entry.1.runId),
    ("sequence", Json.nat entry.1.sequence), ("event_type", .str entry.1.eventType),
    ("payload_json", .obj entry.1.payload), ("created_at", .str entry.1.createdAt)]

/-- `_workflow_evidence_fingerprint`. -/
def workflowEvidenceFingerprint (hasher : Hasher) (db : Database) (runId : String) : String :=
  hasher.canonicalHash (.obj
    [("execution", Json.ofOption (executionMaterial runId) (db.executions.find runId)),
      ("steps", .arr ((stepRows db runId).map fun entry ↦ stepMaterial runId entry.1 entry.2)),
      ("actions",
        .arr ((actionRows db runId).map fun entry ↦ actionMaterial runId entry.1 entry.2)),
      ("events", .arr ((eventRows db.workflowEvents runId).map eventMaterial))])

/-- `_checkpoint_evidence_fingerprint`. -/
def checkpointEvidenceFingerprint (hasher : Hasher) (db : Database) (tenantId threadId : String) :
    String :=
  let checkpoint := db.threadStates.find (tenantId, threadId)
  hasher.canonicalHash (.obj
    [("revision", Json.nat (threadRevision db tenantId threadId)),
      ("state_fingerprint",
        textColumn (checkpoint.map fun row ↦ hasher.stateHash row.stateJson))])

/-- `_checkpoint_progress_is_valid`. -/
def checkpointProgressIsValid (baselineRevision : Nat) (baselineFingerprint : String)
    (observedRevision : Nat) (observedFingerprint : String) : Bool :=
  if observedRevision < baselineRevision then false
  else if observedRevision = baselineRevision then observedFingerprint == baselineFingerprint
  else true

/-- The last `checkpoint.conflict` event that records a quarantine. -/
def conflictEvent (db : Database) (runId : String) : Option EventRow :=
  (db.runEvents.filter fun event ↦
    event.runId == runId && event.eventType == "checkpoint.conflict" &&
      event.payload.getD "disposition" ==
        .str "external_action_reconciliation_quarantined").getLast?

/-- The action's row and its step agree on the recorded outcome. -/
def rowConsistent (action : ExternalActionRow) (step : ToolCallRow) : Bool :=
  if action.status = .succeeded then
    (action.providerReference.getD "") != "" && (action.resultJson matches some (.obj _)) &&
      action.errorCode.isNone && step.status == .completed &&
      step.resultJson == action.resultJson && step.errorCode.isNone
  else
    action.resultJson.isNone && (action.errorCode.getD "") != "" && step.status == .failed &&
      step.resultJson.isNone && step.errorCode == action.errorCode

/-- The terminal event of an action repeats its row. -/
def actionEventConsistent (stepId : String) (action : ExternalActionRow) (event : EventRow) :
    Bool :=
  event.eventType == "external_action." ++ action.status.text &&
    event.payload.getD "step_id" == .str stepId &&
    event.payload.getD "tool_name" == .str action.toolName &&
    event.payload.getD "provider_name" == .str action.providerName &&
    event.payload.getD "status" == .str action.status.text &&
    (event.payload.getD "dispatch_count").eqInt action.dispatchCount &&
    (event.payload.getD "provider_reference").eqOptionText action.providerReference &&
    (event.payload.getD "error_code").eqOptionText action.errorCode

/-- The terminal event of a step repeats its row. -/
def stepEventConsistent (action : ExternalActionRow) (step : ToolCallRow) (event : EventRow) :
    Bool :=
  event.eventType == (if action.status = .succeeded then "step.completed" else "step.failed") &&
    event.payload.getD "tool_name" == .str step.toolName &&
    (event.payload.getD "attempt_count").eqInt step.attemptCount &&
    (event.payload.getD "error_code").eqOptionText step.errorCode &&
    event.payload.getD "outcome" ==
      .str (if action.status = .succeeded then "completed" else "failed")

/-- Exactly one event of the list, and it passes the check. -/
def singleEvent (events : List EventRow) (check : EventRow → Bool) : Bool :=
  match events with
  | [event] => check event
  | _ => false

/-- One iteration of `_terminal_external_action_evidence_is_consistent`. -/
def actionEvidenceConsistent (db : Database) (runId tenantId : String) (execution : ExecutionRow)
    (stepId : String) (action : ExternalActionRow) : Bool :=
  let events := db.workflowEvents.filter fun event ↦ event.runId == runId
  action.status.isTerminal && action.tenantId == tenantId &&
    action.workflowType == execution.workflowType && action.providerName != "" &&
    action.providerIdentity != "" && action.idempotencyKey != "" &&
    (action.argumentsJson matches .obj _) && decide (1 ≤ action.dispatchCount) &&
    action.dispatchToken.isSome &&
    match db.toolCalls.find (runId, stepId) with
    | none => false
    | some step =>
      step.toolName == action.toolName && step.inputHash == action.inputHash &&
        rowConsistent action step &&
        singleEvent (events.filter fun event ↦
            (event.eventType == "external_action.succeeded" ||
              event.eventType == "external_action.failed" ||
              event.eventType == "external_action.outcome_unknown") &&
              event.payload.getD "action_id" == .str action.actionId)
          (actionEventConsistent stepId action) &&
        singleEvent (events.filter fun event ↦
            (event.eventType == "step.completed" || event.eventType == "step.failed") &&
              event.payload.getD "step_id" == .str stepId)
          (stepEventConsistent action step)

/-- `_terminal_external_action_evidence_is_consistent`. -/
def terminalExternalActionEvidenceIsConsistent (db : Database) (runId tenantId : String) : Bool :=
  match db.executions.find runId with
  | none => false
  | some execution =>
    (actionRows db runId).all fun entry ↦
      actionEvidenceConsistent db runId tenantId execution entry.1 entry.2

/-! ### The plan -/

/-- The number of actions in a status. -/
def countStatus (actions : List (String × ExternalActionRow)) (status : ExternalActionStatus) :
    Nat :=
  actions.countP fun entry ↦ entry.2.status == status

/-- The status counts of the actions of a Run. -/
def actionSummary (actions : List (String × ExternalActionRow)) : ExternalActionStatusSummary where
  total := actions.length
  prepared := countStatus actions .prepared
  dispatching := countStatus actions .dispatching
  succeeded := countStatus actions .succeeded
  failed := countStatus actions .failed
  outcomeUnknown := countStatus actions .outcomeUnknown
  unrecognized := 0

/-- Every reason that makes a plan ineligible, in the order they are collected. -/
def ineligibilityReasons (db : Database) (runId tenantId : String) (run : RunRow) : List String :=
  let observed := threadRevision db tenantId run.threadId
  let actions := actionRows db runId
  let summary := actionSummary actions
  (if run.status ≠ .running ∨ run.errorCode ≠ some threadCheckpointReconciliationBlockedCode then
    ["run_not_quarantined"] else []) ++
  (if !run.leaseCleared then ["execution_authority_present"] else []) ++
  (match conflictEvent db runId with
    | none => ["checkpoint_conflict_event_missing"]
    | some event =>
      if !(event.payload.getD "expected_revision").eqOptionNat run.checkpointBaseRevision ||
          !(event.payload.getD "observed_revision").eqInt observed then
        ["checkpoint_conflict_event_mismatch"]
      else []) ++
  (if run.checkpointBaseRevision = some observed then ["checkpoint_revision_not_drifted"]
    else []) ++
  (if (db.executions.find runId).isNone then ["workflow_execution_missing"] else []) ++
  (if actions.isEmpty then ["external_action_evidence_missing"] else []) ++
  (if summary.prepared ≠ 0 ∨ summary.dispatching ≠ 0 then ["external_action_nonterminal"]
    else []) ++
  (if !actions.isEmpty && !terminalExternalActionEvidenceIsConsistent db runId tenantId then
    ["external_action_evidence_inconsistent"] else [])

/-- `target.model_dump(mode="json")`. -/
def targetJson : QuarantineResolutionTarget → Json
  | .run runId => .obj [("run_id", .str runId), ("action_id", .null)]
  | .action actionId => .obj [("run_id", .null), ("action_id", .str actionId)]

/-- `action_summary.model_dump(mode="json")`. -/
def summaryJson (summary : ExternalActionStatusSummary) : Json :=
  .obj [("total", Json.nat summary.total), ("prepared", Json.nat summary.prepared),
    ("dispatching", Json.nat summary.dispatching), ("succeeded", Json.nat summary.succeeded),
    ("failed", Json.nat summary.failed), ("outcome_unknown", Json.nat summary.outcomeUnknown),
    ("unrecognized", Json.nat summary.unrecognized)]

/-- The hash input of a plan id. -/
def planMaterial (hasher : Hasher) (db : Database) (runId tenantId : String) (run : RunRow)
    (target : QuarantineResolutionTarget) (resolution : QuarantineResolutionKind) : Json :=
  .obj [("contract", .str "quarantine-resolution-plan-v1"), ("tenant_id", .str tenantId),
    ("target", targetJson target), ("resolution", .str resolution.text),
    ("run", .obj [("status", .str run.status.text), ("error_code", textColumn run.errorCode),
      ("attempt", .int run.attempt), ("cancel_requested", .bool run.cancelRequested),
      ("checkpoint_base_revision", Json.ofOption Json.nat run.checkpointBaseRevision),
      ("updated_at", .str run.updatedAt), ("lease_cleared", .bool run.leaseCleared)]),
    ("checkpoint", .obj [("revision", Json.nat (threadRevision db tenantId run.threadId)),
      ("evidence_fingerprint",
        .str (checkpointEvidenceFingerprint hasher db tenantId run.threadId))]),
    ("checkpoint_conflict", Json.ofOption (fun event : EventRow ↦
      .obj [("sequence", Json.nat event.sequence), ("created_at", .str event.createdAt),
        ("phase", event.payload.getD "phase"),
        ("expected_revision", event.payload.getD "expected_revision"),
        ("observed_revision", event.payload.getD "observed_revision"),
        ("disposition", event.payload.getD "disposition")]) (conflictEvent db runId)),
    ("workflow_evidence_fingerprint", .str (workflowEvidenceFingerprint hasher db runId)),
    ("external_action_status_summary", summaryJson (actionSummary (actionRows db runId)))]

/-- `_derive_quarantine_plan_with_connection`, without the model's own pattern checks on digests. -/
def deriveQuarantinePlan (hasher : Hasher) (db : Database) (runId tenantId : String)
    (target : QuarantineResolutionTarget) (resolution : QuarantineResolutionKind) :
    Except StoreError QuarantineResolutionPlan :=
  if target.identifier ≠ runId then
    .error (.valueError "Quarantine target identity does not match run_id")
  else
    match findRunForTenant db runId tenantId with
    | none => .error (.keyError ("Run not found: " ++ runId))
    | some run =>
      let reasons := ineligibilityReasons db runId tenantId run
      let eligible := reasons.isEmpty
      let summary := actionSummary (actionRows db runId)
      .ok
        { target := target
          resolution := resolution
          eligible := eligible
          planId :=
            if eligible then
              some ("qrp_" ++
                hasher.canonicalHash (planMaterial hasher db runId tenantId run target resolution))
            else none
          thread :=
            match target with
            | .run _ =>
              { tenantId := tenantId, referenceKind := "thread_id", reference := run.threadId }
            | .action actionId =>
              { tenantId := tenantId, referenceKind := "action_id", reference := actionId }
          currentRunStatus := run.status
          currentQuarantineCode := run.errorCode
          cancelRequested := run.cancelRequested
          checkpointBaseRevision := run.checkpointBaseRevision
          observedCheckpointRevision := threadRevision db tenantId run.threadId
          externalActions := summary
          workflowReconciliationRequired :=
            decide (summary.prepared ≠ 0 ∨ summary.dispatching ≠ 0)
          plannedRunTransition := if eligible then "running -> failed" else "no change"
          newAuditEvents :=
            if eligible then ["quarantine.resolution_applied", "run.failed"] else []
          threadDisposition :=
            if eligible then "released_after_atomic_commit" else "remains_blocked"
          ineligibilityReasons := reasons }

/-- `plan_quarantine_resolution`. -/
def planQuarantineResolution (hasher : Hasher) (db : Database) (runId tenantId : String)
    (target : QuarantineResolutionTarget) (resolution : QuarantineResolutionKind) :
    Except StoreError QuarantineResolutionPlan :=
  deriveQuarantinePlan hasher db runId tenantId target resolution

/-! ### The audit event -/

/-- `plan.model_dump(mode="json")`. -/
def planJson (plan : QuarantineResolutionPlan) : Json :=
  .obj [("target", targetJson plan.target), ("resolution", .str plan.resolution.text),
    ("eligible", .bool plan.eligible), ("plan_id", textColumn plan.planId),
    ("thread", .obj [("tenant_id", .str plan.thread.tenantId),
      ("reference_kind", .str plan.thread.referenceKind),
      ("reference", .str plan.thread.reference)]),
    ("current_run_status", .str plan.currentRunStatus.text),
    ("current_quarantine_code", textColumn plan.currentQuarantineCode),
    ("cancel_requested", .bool plan.cancelRequested),
    ("checkpoint_base_revision", Json.ofOption Json.nat plan.checkpointBaseRevision),
    ("observed_checkpoint_revision", Json.nat plan.observedCheckpointRevision),
    ("external_actions", summaryJson plan.externalActions),
    ("workflow_reconciliation_required", .bool plan.workflowReconciliationRequired),
    ("planned_run_transition", .str plan.plannedRunTransition),
    ("checkpoint_disposition", .str "preserved"),
    ("external_evidence_disposition", .str "preserved"), ("provider_calls", .int 0),
    ("new_audit_events", .arr (plan.newAuditEvents.map Json.str)),
    ("thread_disposition", .str plan.threadDisposition),
    ("ineligibility_reasons", .arr (plan.ineligibilityReasons.map Json.str))]

namespace Decode

/-- The fields of an object. -/
def object : Json → Option Payload
  | .obj fields => some fields
  | _ => none

/-- A text. -/
def text : Json → Option String
  | .str value => some value
  | _ => none

/-- A text or `null`. -/
def optionText : Json → Option (Option String)
  | .null => some none
  | .str value => some (some value)
  | _ => none

/-- A Boolean. -/
def bool : Json → Option Bool
  | .bool value => some value
  | _ => none

/-- An integer that is not negative. -/
def nat : Json → Option Nat
  | .int (.ofNat value) => some value
  | _ => none

/-- An integer that is not negative, or `null`. -/
def optionNat : Json → Option (Option Nat)
  | .null => some none
  | .int (.ofNat value) => some (some value)
  | _ => none

/-- A list of texts. -/
def texts : Json → Option (List String)
  | .arr items => items.mapM text
  | _ => none

/-- A Run status. -/
def runStatus : Json → Option RunStatus
  | .str "queued" => some .queued
  | .str "running" => some .running
  | .str "completed" => some .completed
  | .str "failed" => some .failed
  | .str "cancelled" => some .cancelled
  | _ => none

/-- A resolution kind. -/
def resolution : Json → Option QuarantineResolutionKind
  | .str "terminalize_failed_preserving_checkpoint" =>
    some .terminalizeFailedPreservingCheckpoint
  | _ => none

/-- A resolution target: exactly one identifier. -/
def target (value : Json) : Option QuarantineResolutionTarget := do
  let fields ← object value
  match fields.getD "run_id", fields.getD "action_id" with
  | .str runId, .null => some (.run runId)
  | .null, .str actionId => some (.action actionId)
  | _, _ => none

/-- A status summary. -/
def summary (value : Json) : Option ExternalActionStatusSummary := do
  let fields ← object value
  some
    { total := ← nat (fields.getD "total")
      prepared := ← nat (fields.getD "prepared")
      dispatching := ← nat (fields.getD "dispatching")
      succeeded := ← nat (fields.getD "succeeded")
      failed := ← nat (fields.getD "failed")
      outcomeUnknown := ← nat (fields.getD "outcome_unknown")
      unrecognized := ← nat (fields.getD "unrecognized") }

/-- A thread reference. -/
def thread (value : Json) : Option QuarantineThreadReference := do
  let fields ← object value
  some
    { tenantId := ← text (fields.getD "tenant_id")
      referenceKind := ← text (fields.getD "reference_kind")
      reference := ← text (fields.getD "reference") }

/-- `QuarantineResolutionPlan.model_validate` on the encoding `planJson` writes. -/
def plan (value : Json) : Option QuarantineResolutionPlan := do
  let fields ← object value
  let decoded : QuarantineResolutionPlan :=
    { target := ← target (fields.getD "target")
      resolution := ← resolution (fields.getD "resolution")
      eligible := ← bool (fields.getD "eligible")
      planId := ← optionText (fields.getD "plan_id")
      thread := ← thread (fields.getD "thread")
      currentRunStatus := ← runStatus (fields.getD "current_run_status")
      currentQuarantineCode := ← optionText (fields.getD "current_quarantine_code")
      cancelRequested := ← bool (fields.getD "cancel_requested")
      checkpointBaseRevision := ← optionNat (fields.getD "checkpoint_base_revision")
      observedCheckpointRevision := ← nat (fields.getD "observed_checkpoint_revision")
      externalActions := ← summary (fields.getD "external_actions")
      workflowReconciliationRequired := ← bool (fields.getD "workflow_reconciliation_required")
      plannedRunTransition := ← text (fields.getD "planned_run_transition")
      newAuditEvents := ← texts (fields.getD "new_audit_events")
      threadDisposition := ← text (fields.getD "thread_disposition")
      ineligibilityReasons := ← texts (fields.getD "ineligibility_reasons") }
  -- `validate_eligibility_shape`
  if decoded.eligible then
    if decoded.planId.isNone || !decoded.ineligibilityReasons.isEmpty then none else some decoded
  else if decoded.planId.isSome then none
  else some decoded

end Decode

/-- The payload of the `quarantine.resolution_applied` event. -/
def auditPayload (plan : QuarantineResolutionPlan) (target : QuarantineResolutionTarget)
    (resolution : QuarantineResolutionKind) (expectedPlanId operatorSubjectId : String)
    (operatorCredentialId workflowFingerprint checkpointFingerprint : String) : Payload :=
  [("resolution", .str resolution.text), ("plan_id", .str expectedPlanId),
    ("target_kind", .str target.kindText),
    ("source_quarantine_code", textColumn plan.currentQuarantineCode),
    ("checkpoint_base_revision", Json.ofOption Json.nat plan.checkpointBaseRevision),
    ("observed_checkpoint_revision", Json.nat plan.observedCheckpointRevision),
    ("checkpoint_disposition", .str "preserved"),
    ("external_evidence_disposition", .str "preserved"), ("provider_calls", .int 0),
    ("operator_subject_id", .str operatorSubjectId),
    ("operator_credential_id", .str operatorCredentialId),
    ("workflow_evidence_fingerprint", .str workflowFingerprint),
    ("checkpoint_evidence_fingerprint", .str checkpointFingerprint), ("plan", planJson plan)]

/-- A stored resolution: its plan and the two fingerprints it was committed under. -/
structure StoredResolution where
  plan : QuarantineResolutionPlan
  workflowFingerprint : String
  checkpointFingerprint : String

/-- `_matching_resolution_events`. -/
def matchingResolutionEvents (db : Database) (runId planId : String) : List EventRow :=
  db.runEvents.filter fun event ↦
    event.runId == runId && event.eventType == "quarantine.resolution_applied" &&
      event.payload.getD "plan_id" == .str planId

/-- `_find_resolution_event_with_connection`. -/
def findResolutionEvent (db : Database) (runId expectedPlanId : String) :
    Except StoreError (Option StoredResolution) :=
  match matchingResolutionEvents db runId expectedPlanId with
  | [] => .ok none
  | [event] =>
    match Decode.plan (event.payload.getD "plan"),
        Decode.text (event.payload.getD "workflow_evidence_fingerprint"),
        Decode.text (event.payload.getD "checkpoint_evidence_fingerprint") with
    | some plan, some workflowFingerprint, some checkpointFingerprint =>
      if event.payload.getD "resolution" ≠ .str plan.resolution.text ∨
          event.payload.getD "target_kind" ≠ .str plan.target.kindText ∨
          plan.planId ≠ some expectedPlanId then
        .error (.quarantineEvidenceIncomplete
          "Quarantine resolution audit identity is inconsistent")
      else .ok (some ⟨plan, workflowFingerprint, checkpointFingerprint⟩)
    | _, _, _ =>
      .error (.quarantineEvidenceIncomplete "Quarantine resolution audit evidence is invalid")
  | _ => .error (.quarantineEvidenceIncomplete "Duplicate quarantine resolution audit evidence")

/-! ### Applying a plan -/

/-- The message of a resolved quarantine. -/
def resolutionError : String :=
  "An operator terminalized an eligible quarantined Run while preserving the authoritative "
    ++ "checkpoint and external-action evidence."

/-- The row is quarantined: RUNNING, marked, and without lease authority. -/
def RunRow.quarantined (row : RunRow) : Bool :=
  row.status == .running && row.errorCode == some threadCheckpointReconciliationBlockedCode &&
    row.leaseCleared

/-- `apply_quarantine_resolution`. -/
def applyQuarantineResolution (hasher : Hasher) (db : Database) (reading : Reading)
    (runId tenantId : String) (target : QuarantineResolutionTarget)
    (resolution : QuarantineResolutionKind)
    (expectedPlanId operatorSubjectId operatorCredentialId : String) :
    Except StoreError (QuarantineResolutionCommit × Database) :=
  match findResolutionEvent db runId expectedPlanId with
  | .error error => .error error
  | .ok existing =>
    match deriveQuarantinePlan hasher db runId tenantId target resolution with
    | .error error => .error error
    | .ok plan =>
      let threadId := ((findRunForTenant db runId tenantId).map RunRow.threadId).getD ""
      let workflowFingerprint := workflowEvidenceFingerprint hasher db runId
      let checkpointFingerprint := checkpointEvidenceFingerprint hasher db tenantId threadId
      match existing with
      | some stored =>
        if stored.plan.target ≠ target ∨ stored.plan.resolution ≠ resolution ∨
            stored.workflowFingerprint ≠ workflowFingerprint ∨
            ¬ checkpointProgressIsValid stored.plan.observedCheckpointRevision
              stored.checkpointFingerprint plan.observedCheckpointRevision
              checkpointFingerprint then
          .error (.quarantineEvidenceIncomplete
            "Committed quarantine resolution evidence is inconsistent")
        else
          .ok ({ plan := stored.plan
                 reused := true
                 workflowEvidenceFingerprint := stored.workflowFingerprint
                 checkpointEvidenceFingerprint := stored.checkpointFingerprint }, db)
      | none =>
        if !plan.eligible || plan.planId != some expectedPlanId then
          .error (.quarantineStalePlan plan)
        else
          match (findRunForTenant db runId tenantId).filter RunRow.quarantined with
          | none => .error (.quarantineStalePlan plan)
          | some _ =>
            let updated := updateRun db runId fun row ↦
              failedRow row threadCheckpointConflictCode resolutionError (reading.utcNow 0)
            let audited := appendRunEvent updated runId "quarantine.resolution_applied"
              (auditPayload plan target resolution expectedPlanId operatorSubjectId
                operatorCredentialId workflowFingerprint checkpointFingerprint) (reading.utcNow 1)
            .ok ({ plan := plan
                   reused := false
                   workflowEvidenceFingerprint := workflowFingerprint
                   checkpointEvidenceFingerprint := checkpointFingerprint },
              appendRunEvent audited runId "run.failed"
                (failedPayload threadCheckpointConflictCode resolutionError none ++
                  [("resolution", .str resolution.text), ("plan_id", .str expectedPlanId)])
                (reading.utcNow 2))

/-! ### Reading a resolution back -/

/-- `_matching_resolution_failed_events`. -/
def matchingResolutionFailedEvents (db : Database) (runId planId : String) : List EventRow :=
  db.runEvents.filter fun event ↦
    event.runId == runId && event.eventType == "run.failed" &&
      event.payload.getD "plan_id" == .str planId

/-- The durable outcome that `verify_quarantine_resolution` looks for. -/
def resolutionVerified (hasher : Hasher) (db : Database) (runId planId : String) (row : RunRow)
    (commit : QuarantineResolutionCommit) : Bool :=
  row.status == .failed && row.errorCode == some threadCheckpointConflictCode &&
    row.leaseCleared &&
    checkpointProgressIsValid commit.plan.observedCheckpointRevision
      commit.checkpointEvidenceFingerprint (threadRevision db row.tenantId row.threadId)
      (checkpointEvidenceFingerprint hasher db row.tenantId row.threadId) &&
    workflowEvidenceFingerprint hasher db runId == commit.workflowEvidenceFingerprint &&
    (matchingResolutionEvents db runId planId).length == 1 &&
    (matchingResolutionFailedEvents db runId planId).length == 1

/-- `verify_quarantine_resolution`. -/
def verifyQuarantineResolution (hasher : Hasher) (db : Database)
    (commit : QuarantineResolutionCommit) : Except StoreError Unit :=
  match commit.plan.planId with
  | none => .error (.quarantineEvidenceIncomplete
      "Committed quarantine resolution lost its plan ID")
  | some planId =>
    let runId := commit.plan.target.identifier
    match findRunForTenant db runId commit.plan.thread.tenantId with
    | none => .error (.quarantineEvidenceIncomplete "Resolved Run is not durably visible")
    | some row =>
      if resolutionVerified hasher db runId planId row commit then .ok ()
      else .error (.quarantineEvidenceIncomplete
        "Quarantine resolution durable evidence is incomplete")

end AgentRuntime.Store
