import AgentRuntime.Library.PyText
import AgentRuntime.Graph.WorkflowDag
import AgentRuntime.Execution.Effects

/-!
# `ReleaseValidationWorkflow`

The release-validation workflow runs six registered tools in the order of a fixed graph over the
workflow ledger, reuses what a replay may reuse, checks the results and finalizes the execution. The
program of one call performs the operations of the workflow store and enters tools; `run` follows
the source statement by statement, its `try` block with the two `except` clauses included.

A tool entry names the step and the attempt it belongs to, which the sandbox does not see. The hash
of a canonical JSON text, the classifier of failures and the rendering of a value inside a message
are fields of the workflow.
-/

set_option autoImplicit false
set_option relaxedAutoImplicit false

namespace AgentRuntime.Release

open Library Store Execution AgentRuntime.Graph

/-! ### Manifests -/

/-- `BuildArtifact`. -/
structure BuildArtifact where
  name : String
  checksum : String
  deriving DecidableEq

/-- `ReleaseManifest`. -/
structure ReleaseManifest where
  releaseId : String
  applicationName : String
  releaseVersion : String
  requiredArtifacts : List String
  availableArtifacts : List BuildArtifact
  requiredTestSuite : String
  executedTestSuite : String
  testsPassed : Bool
  requiredPythonVersions : List String
  testedPythonVersions : List String
  deploymentEnvironment : String
  configurationRequirements : List String
  actualConfigurationKeys : List String
  evidenceChecksIncluded : List String
  deriving DecidableEq

/-- The key by which artifacts are sorted. -/
def BuildArtifact.le (left right : BuildArtifact) : Bool :=
  left.name < right.name || left.name == right.name && left.checksum ≤ right.checksum

/-- `_canonicalize_manifest`. -/
def canonicalizeManifest (manifest : ReleaseManifest) : ReleaseManifest :=
  { manifest with
    requiredArtifacts := pySorted manifest.requiredArtifacts
    requiredPythonVersions := pySorted manifest.requiredPythonVersions
    testedPythonVersions := pySorted manifest.testedPythonVersions
    configurationRequirements := pySorted manifest.configurationRequirements
    actualConfigurationKeys := pySorted manifest.actualConfigurationKeys
    evidenceChecksIncluded := pySorted manifest.evidenceChecksIncluded
    availableArtifacts := manifest.availableArtifacts.insertionSort (BuildArtifact.le · ·) }

def texts (values : List String) : Json := .arr (values.map .str)

/-- `model_dump` of an artifact. -/
def BuildArtifact.dump (artifact : BuildArtifact) : Json :=
  .obj [("name", .str artifact.name), ("checksum", .str artifact.checksum)]

/-- `model_dump` of a manifest. -/
def ReleaseManifest.dump (manifest : ReleaseManifest) : Payload :=
  [("release_id", .str manifest.releaseId), ("application_name", .str manifest.applicationName),
    ("release_version", .str manifest.releaseVersion),
    ("required_artifacts", texts manifest.requiredArtifacts),
    ("available_artifacts", .arr (manifest.availableArtifacts.map BuildArtifact.dump)),
    ("required_test_suite", .str manifest.requiredTestSuite),
    ("executed_test_suite", .str manifest.executedTestSuite),
    ("tests_passed", .bool manifest.testsPassed),
    ("required_python_versions", texts manifest.requiredPythonVersions),
    ("tested_python_versions", texts manifest.testedPythonVersions),
    ("deployment_environment", .str manifest.deploymentEnvironment),
    ("configuration_requirements", texts manifest.configurationRequirements),
    ("actual_configuration_keys", texts manifest.actualConfigurationKeys),
    ("evidence_checks_included", texts manifest.evidenceChecksIncluded)]

/-- `SelectiveReplayRequest`, as its validators leave it. -/
structure SelectiveReplayRequest where
  sourceRunId : String
  stepIds : List String
  named : sourceRunId ≠ ""
  chosen : stepIds ≠ []
  filled : "" ∉ stepIds
  unique : stepIds.Nodup
  sorted : pySorted stepIds = stepIds

/-- `model_dump` of a replay request. -/
def SelectiveReplayRequest.dump (replay : SelectiveReplayRequest) : Json :=
  .obj [("source_run_id", .str replay.sourceRunId), ("step_ids", texts replay.stepIds)]

/-- The payload whose hash identifies an execution. -/
def identityPayload (manifest : ReleaseManifest) : Option SelectiveReplayRequest → Payload
  | none => manifest.dump
  | some replay => [("manifest", .obj manifest.dump), ("replay", replay.dump)]

/-! ### Steps -/

/-- `StepDefinition`; no step of this workflow reads the results of others. -/
structure StepDefinition where
  stepId : String
  toolName : String
  buildArguments : ReleaseManifest → Payload
  dependencies : List String

def manifestArguments (manifest : ReleaseManifest) : Payload :=
  [("release_id", .str manifest.releaseId), ("application_name", .str manifest.applicationName),
    ("release_version", .str manifest.releaseVersion),
    ("required_artifacts", texts manifest.requiredArtifacts),
    ("required_test_suite", .str manifest.requiredTestSuite),
    ("required_python_versions", texts manifest.requiredPythonVersions),
    ("deployment_environment", .str manifest.deploymentEnvironment),
    ("configuration_requirements", texts manifest.configurationRequirements)]

def artifactsArguments (manifest : ReleaseManifest) : Payload :=
  [("required_artifacts", texts manifest.requiredArtifacts),
    ("available_artifacts", .arr (manifest.availableArtifacts.map BuildArtifact.dump))]

def unitTestArguments (manifest : ReleaseManifest) : Payload :=
  [("required_test_suite", .str manifest.requiredTestSuite),
    ("executed_suite", .str manifest.executedTestSuite),
    ("tests_passed", .bool manifest.testsPassed)]

def compatibilityArguments (manifest : ReleaseManifest) : Payload :=
  [("required_python_versions", texts manifest.requiredPythonVersions),
    ("tested_python_versions", texts manifest.testedPythonVersions)]

def deploymentArguments (manifest : ReleaseManifest) : Payload :=
  [("configuration_requirements", texts manifest.configurationRequirements),
    ("actual_configuration_keys", texts manifest.actualConfigurationKeys)]

def evidenceArguments (manifest : ReleaseManifest) : Payload :=
  [("release_id", .str manifest.releaseId),
    ("include_checks", texts manifest.evidenceChecksIncluded)]

/-- `STEP_DEFINITIONS`. -/
def stepDefinitions : List StepDefinition :=
  [⟨"load_manifest", "load_release_manifest", manifestArguments, []⟩,
    ⟨"inspect_artifacts", "inspect_build_artifacts", artifactsArguments, []⟩,
    ⟨"run_unit_tests", "run_unit_test_check", unitTestArguments, []⟩,
    ⟨"run_compatibility", "run_compatibility_check", compatibilityArguments, []⟩,
    ⟨"inspect_deployment", "inspect_deployment_configuration", deploymentArguments, []⟩,
    ⟨"generate_evidence", "generate_release_evidence", evidenceArguments,
      ["load_manifest", "inspect_artifacts", "run_unit_tests", "run_compatibility",
        "inspect_deployment"]⟩]

/-- The nodes of `RELEASE_VALIDATION_DAG`. -/
def releaseNodes : List WorkflowNode :=
  stepDefinitions.map fun step ↦ ⟨step.stepId, step.dependencies⟩

/-- `RELEASE_VALIDATION_DAG`. -/
def releaseDag : WorkflowDag := ⟨releaseNodes, nodeIds releaseNodes⟩

theorem build_releaseDag : WorkflowDag.build .insertion releaseNodes = .ok releaseDag := by
  decide +kernel

/-- `STEP_SEQUENCE`. -/
def stepSequence : List StepDefinition :=
  releaseDag.topologicalOrder.filterMap fun stepId ↦
    stepDefinitions.find? fun step ↦ step.stepId == stepId

/-! ### Exceptions and operations -/

/-- What a sandbox execution tells the workflow. -/
structure ToolRun where
  status : ToolExecutionStatus
  result : Option Payload
  error : Option String

/-- The value of a `ToolExecutionStatus`. -/
def toolStatusText : ToolExecutionStatus → String
  | .completed => "completed"
  | .denied => "denied"
  | .capabilityUnsupported => "capability_unsupported"
  | .invalidInput => "invalid_input"
  | .timedOut => "timed_out"
  | .failed => "failed"

/-- The exceptions of a call. `store` is what a store operation raises of its own, `storage` what
the database layer raises, and `other` any other Python exception. -/
inductive ReleaseFailure where
  | workflowTypeMismatch (message : String)
  | executionInputMismatch (message : String)
  | workflowExecutionFailed (runId : String) (errorCode : Option String)
  | selectiveReplay (message : String)
  | stepAlreadyRunning (message : String)
  | stepInputMismatch (message : String)
  | stepDefinitionMismatch (message : String)
  | stepAttemptsExhausted (message : String)
  | stepPermanentFailure (message : String)
  | runtimeError (message : String)
  | store (error : StoreError)
  | storage (message : String)
  | other (typeName message : String)

namespace ReleaseFailure

/-- `type(exc).__name__`. -/
def typeName : ReleaseFailure → String
  | workflowTypeMismatch _ => "WorkflowTypeMismatchError"
  | executionInputMismatch _ => "ExecutionInputMismatchError"
  | workflowExecutionFailed .. => "WorkflowExecutionFailedError"
  | selectiveReplay _ => "SelectiveReplayError"
  | stepAlreadyRunning _ => "StepAlreadyRunningError"
  | stepInputMismatch _ => "StepInputMismatchError"
  | stepDefinitionMismatch _ => "StepDefinitionMismatchError"
  | stepAttemptsExhausted _ => "StepAttemptsExhaustedError"
  | stepPermanentFailure _ => "StepPermanentFailureError"
  | runtimeError _ => "RuntimeError"
  | store error => Failure.typeName (.store error)
  | storage _ => "OperationalError"
  | other typeName _ => typeName

/-- `repr` of an optional text. -/
def reprOption : Option String → String
  | none => "None"
  | some text => pyRepr text

/-- `str(exc)`. -/
def text : ReleaseFailure → String
  | workflowTypeMismatch message | executionInputMismatch message | selectiveReplay message
  | stepAlreadyRunning message | stepInputMismatch message | stepDefinitionMismatch message
  | stepAttemptsExhausted message | stepPermanentFailure message | runtimeError message
  | storage message | other _ message => message
  | workflowExecutionFailed runId errorCode =>
    "execution " ++ pyRepr runId ++ " already finalized as FAILED (error_code="
      ++ reprOption errorCode ++ ")"
  | store error => Failure.text (.store error)

/-- `f"{type(exc).__name__}: {exc}"`. -/
def describe (failure : ReleaseFailure) : String := failure.typeName ++ ": " ++ failure.text

/-- The exceptions that `run` passes on without finalizing anything. -/
def passesOn : ReleaseFailure → Bool
  | executionInputMismatch _ | workflowTypeMismatch _ | workflowExecutionFailed ..
  | stepAlreadyRunning _ => true
  | _ => false

end ReleaseFailure

/-- The operations of a call: one of the workflow store, or a tool entered for an attempt of a
step. -/
inductive ReleaseOp where
  | store (call : WorkflowCall)
  | executeTool (stepId : String) (attempt : Nat) (toolName : String) (arguments : Payload)

/-- What each operation returns. -/
def ReleaseOp.Answer : ReleaseOp → Type
  | store call => call.Reply
  | executeTool .. => ToolRun

/-- Everything a call does. -/
def ReleaseOp.all : ReleaseOp → Bool := fun _ ↦ true

abbrev ReleaseProgram : Type → Type := Program ReleaseOp.Answer ReleaseFailure ReleaseOp.all

/-- One operation of the workflow store. -/
def storeCall (call : WorkflowCall) : ReleaseProgram call.Reply :=
  Program.ask (ReleaseOp.store call) rfl

/-! ### Readiness -/

/-- `ValidationFinding`. -/
structure ValidationFinding where
  ruleId : String
  message : String
  deriving DecidableEq

/-- The message of the `TypeError` that indexing with a text raises. -/
def indexError : Json → String
  | .null => "'NoneType' object is not subscriptable"
  | .bool _ => "'bool' object is not subscriptable"
  | .int _ => "'int' object is not subscriptable"
  | .number _ => "'float' object is not subscriptable"
  | .str _ => "string indices must be integers, not 'str'"
  | .arr _ => "list indices must be integers or slices, not str"
  | .obj _ => ""

/-- `value[key]` of a decoded JSON value. -/
def field (value : Json) (key : String) : Except ReleaseFailure Json :=
  match value with
  | .obj fields =>
    match Payload.get? fields key with
    | some found => .ok found
    | none => .error (.other "KeyError" (pyRepr key))
  | other => .error (.other "TypeError" (indexError other))

/-- `step_results`: the results of the steps so far. -/
abbrev StepResults : Type := List (String × Json)

/-- `step_results[step_id]`. -/
def StepResults.get (results : StepResults) (stepId : String) : Except ReleaseFailure Json :=
  match Json.lookup results stepId with
  | some result => .ok result
  | none => .error (.other "KeyError" (pyRepr stepId))

/-- The finding of a rule over the result of one step. `broken` evaluates the condition of the rule
and `message` the text of its finding. -/
def ruleFinding (results : StepResults) (stepId ruleId : String)
    (broken : Json → Except ReleaseFailure Bool) (message : Json → Except ReleaseFailure String) :
    Except ReleaseFailure (List ValidationFinding) := do
  let result ← results.get stepId
  if ← broken result then
    let text ← message result
    return [⟨ruleId, text⟩]
  else return []

/-- `first or second`, the second read only when needed. -/
def eitherOf (first second : Except ReleaseFailure Bool) : Except ReleaseFailure Bool := do
  if ← first then return true else second

/-- The truth value of a field. -/
def isSet (key : String) (result : Json) : Except ReleaseFailure Bool := do
  return truthy (← field result key)

/-- The falsehood of a field. -/
def isUnset (key : String) (result : Json) : Except ReleaseFailure Bool := do
  return !truthy (← field result key)

/-- `validate_release_readiness`; `format` renders a decoded value inside a message. -/
def validateReleaseReadiness (format : Json → String) (results : StepResults) :
    Except ReleaseFailure (List ValidationFinding) := do
  let artifacts ← ruleFinding results "inspect_artifacts" "artifacts_present_and_valid"
    (fun result ↦ eitherOf (isSet "missing_artifacts" result) (isSet "invalid_checksums" result))
    fun result ↦ do
      return "missing=" ++ format (← field result "missing_artifacts") ++ " invalid_checksums="
        ++ format (← field result "invalid_checksums")
  let tests ← ruleFinding results "run_unit_tests" "unit_test_suite_passed"
    (fun result ↦ eitherOf (isUnset "matches_required_suite" result) (isUnset "passed" result))
    fun result ↦ do
      return "suite=" ++ format (← field result "suite_name") ++ " matches_required="
        ++ format (← field result "matches_required_suite") ++ " passed="
        ++ format (← field result "passed")
  let compatibility ← ruleFinding results "run_compatibility" "python_versions_covered"
    (isSet "missing_versions") fun result ↦ do
      return "missing_versions=" ++ format (← field result "missing_versions")
  let deployment ← ruleFinding results "inspect_deployment" "deployment_configuration_present"
    (isSet "missing_keys") fun result ↦ do
      return "missing_keys=" ++ format (← field result "missing_keys")
  let evidence ← ruleFinding results "generate_evidence" "evidence_complete"
    (isUnset "evidence_complete") fun result ↦ do
      return "referenced_checks=" ++ format (← field result "referenced_checks")
  return artifacts ++ tests ++ compatibility ++ deployment ++ evidence

/-! ### Results -/

/-- `ReleaseValidationStatus`. -/
inductive ReleaseValidationStatus where
  | ready
  | blocked
  | failed
  deriving DecidableEq

def ReleaseValidationStatus.text : ReleaseValidationStatus → String
  | ready => "ready"
  | blocked => "blocked"
  | failed => "failed"

/-- `SelectiveReplaySummary`. -/
structure SelectiveReplaySummary where
  sourceRunId : String
  requestedStepIds : List String
  replayedStepIds : List String
  reusedStepIds : List String
  automaticallyInvalidatedStepIds : List String
  deriving DecidableEq

/-- `ReleaseValidationResult`. -/
structure ReleaseValidationResult where
  runId : String
  status : ReleaseValidationStatus
  findings : List ValidationFinding
  replay : Option SelectiveReplaySummary
  deriving DecidableEq

/-- `model_dump_json`. -/
def SelectiveReplaySummary.dump (summary : SelectiveReplaySummary) : Json :=
  .obj [("source_run_id", .str summary.sourceRunId),
    ("requested_step_ids", texts summary.requestedStepIds),
    ("replayed_step_ids", texts summary.replayedStepIds),
    ("reused_step_ids", texts summary.reusedStepIds),
    ("automatically_invalidated_step_ids", texts summary.automaticallyInvalidatedStepIds)]

def ValidationFinding.dump (finding : ValidationFinding) : Json :=
  .obj [("rule_id", .str finding.ruleId), ("message", .str finding.message)]

/-- `model_dump_json`. -/
def ReleaseValidationResult.dump (result : ReleaseValidationResult) : Json :=
  .obj [("run_id", .str result.runId), ("status", .str result.status.text),
    ("findings", .arr (result.findings.map ValidationFinding.dump)),
    ("replay", Json.ofOption SelectiveReplaySummary.dump result.replay)]

/-- A list of texts, as a model validates it. -/
def parseTexts : Json → Option (List String)
  | .arr values => values.mapM fun
    | .str text => some text
    | _ => none
  | _ => none

def parseStatus : Json → Option ReleaseValidationStatus
  | .str "ready" => some .ready
  | .str "blocked" => some .blocked
  | .str "failed" => some .failed
  | _ => none

def parseText : Json → Option String
  | .str text => some text
  | _ => none

def parseFinding : Json → Option ValidationFinding
  | .obj fields => do
    let ruleId ← parseText (← Payload.get? fields "rule_id")
    let message ← parseText (← Payload.get? fields "message")
    return ⟨ruleId, message⟩
  | _ => none

def parseSummary : Json → Option (Option SelectiveReplaySummary)
  | .null => some none
  | .obj fields => do
    let source ← parseText (← Payload.get? fields "source_run_id")
    let requested ← parseTexts (← Payload.get? fields "requested_step_ids")
    let replayed ← parseTexts (← Payload.get? fields "replayed_step_ids")
    let reused ← parseTexts (← Payload.get? fields "reused_step_ids")
    let automatic ← parseTexts (← Payload.get? fields "automatically_invalidated_step_ids")
    return some ⟨source, requested, replayed, reused, automatic⟩
  | _ => none

/-- `ReleaseValidationResult.model_validate_json`; the two fields with defaults may be missing. -/
def parseResult : Json → Option ReleaseValidationResult
  | .obj fields => do
    let runId ← parseText (← Payload.get? fields "run_id")
    let status ← parseStatus (← Payload.get? fields "status")
    let findings ←
      match Payload.get? fields "findings" with
      | none => some []
      | some (.arr values) => values.mapM parseFinding
      | some _ => none
    let replay ← parseSummary ((Payload.get? fields "replay").getD .null)
    return ⟨runId, status, findings, replay⟩
  | _ => none

/-! ### One step -/

/-- `MAX_ATTEMPTS`. -/
def maxAttempts : Nat := 2

/-- `_STEP_LOOP_GUARD`. -/
def stepLoopGuard : Nat := maxAttempts + 3

/-- `WORKFLOW_TYPE`. -/
def workflowType : String := "release_validation"

/-- `ReleaseValidationWorkflow`. -/
structure ReleaseValidationWorkflow where
  isTransientFailure : ToolRun → Bool
  sha256 : Json → String
  format : Json → String

/-- `_default_is_transient_failure`. -/
def defaultIsTransientFailure (execution : ToolRun) : Bool :=
  decide (execution.status = .timedOut)

/-- `_step_error_code`. -/
def stepErrorCode (status : ToolExecutionStatus) (error : Option String) : String :=
  match status, error with
  | .failed, some text =>
    if text.isEmpty then toolStatusText status
    else String.ofList ((strip text).toList.take 200)
  | _, _ => toolStatusText status

/-- How `run` was called. -/
structure CallArguments where
  manifest : ReleaseManifest
  resumeInterrupted : Bool
  replay : Option SelectiveReplayRequest
  legacyFixedOrder : Bool
  leaseToken : Option String

namespace ReleaseValidationWorkflow

variable (workflow : ReleaseValidationWorkflow)

/-- `_stable_hash`. -/
def stableHash (payload : Payload) : String := workflow.sha256 (Json.obj payload).sortKeys

/-- The step and its Run in a message. -/
def stepPath (runId : String) (step : StepDefinition) : String := runId ++ "/" ++ step.stepId

/-- What `_run_step` does with an attempt it claimed: `none` asks for another claim. -/
def runAttempt (runId : String) (call : CallArguments) (step : StepDefinition) (arguments : Payload)
    (attempt : Nat) (attemptToken : String) : ReleaseProgram (Option Json) := do
  let execution : ToolRun ←
    Program.ask (ReleaseOp.executeTool step.stepId attempt step.toolName arguments) rfl
  if execution.status = .completed then
    discard <| storeCall (.completeStep runId step.stepId attemptToken
      (Json.ofOption Json.obj execution.result) call.leaseToken)
    match execution.result with
    | some result => return some (.obj result)
    | none => throw (.other "AssertionError" "")
  else
    discard <| storeCall (.failStep runId step.stepId attemptToken
      (stepErrorCode execution.status execution.error) call.leaseToken)
    if workflow.isTransientFailure execution then return none
    else
      throw (.stepPermanentFailure ("tool " ++ step.toolName ++ " failed permanently for "
        ++ stepPath runId step ++ ": " ++ toolStatusText execution.status ++ ": "
        ++ execution.error.getD "None"))

/-- A completed step is read from the ledger. -/
def reuseCached (runId : String) (call : CallArguments) (step : StepDefinition)
    (record : ToolCallRow) : ReleaseProgram Json := do
  match record.resultJson with
  | none => throw (.other "AssertionError" "")
  | some result =>
    discard <| storeCall (.appendEvent runId "step.cache_reused"
      [("step_id", .str step.stepId), ("tool_name", .str step.toolName),
        ("attempt_count", Json.nat record.attemptCount), ("outcome", .str "cached")]
      call.leaseToken)
    return result

/-- The loop of `_run_step`, for the rounds its guard has left. -/
def runStepRounds (runId : String) (call : CallArguments) (step : StepDefinition)
    (arguments : Payload) : Nat → ReleaseProgram Json
  | 0 =>
    throw (.runtimeError ("step " ++ stepPath runId step ++ " did not resolve within "
      ++ toString stepLoopGuard
      ++ " claim attempts; this indicates an internal logic error, not a normal retry"))
  | rounds + 1 => do
    let claim ← storeCall (.claimStep runId step.stepId step.toolName
      (workflow.stableHash arguments) maxAttempts call.leaseToken)
    match claim.outcome, claim.attemptToken with
    | .cached, _ => reuseCached runId call step claim.step
    | .inputMismatch, _ =>
      throw (.stepInputMismatch ("step " ++ stepPath runId step
        ++ " was previously claimed with different arguments"))
    | .definitionMismatch, _ =>
      throw (.stepDefinitionMismatch ("step " ++ stepPath runId step
        ++ " was previously claimed by tool " ++ pyRepr claim.step.toolName ++ ", not "
        ++ pyRepr step.toolName))
    | .attemptsExhausted, _ =>
      throw (.stepAttemptsExhausted ("step " ++ stepPath runId step ++ " exhausted "
        ++ toString maxAttempts ++ " attempts"))
    | .alreadyRunning, _ =>
      if call.resumeInterrupted then
        discard <| storeCall (.recoverInterruptedStep runId step.stepId call.leaseToken)
        runStepRounds runId call step arguments rounds
      else
        throw (.stepAlreadyRunning ("step " ++ stepPath runId step
          ++ " is already running; pass resume_interrupted=True to explicitly recover it"))
    | .claimed, none => throw (.other "AssertionError" "")
    | .claimed, some attemptToken =>
      match ← workflow.runAttempt runId call step arguments claim.step.attemptCount
        attemptToken with
      | some result => return result
      | none => runStepRounds runId call step arguments rounds

/-- `_run_step`. -/
def runStep (runId : String) (call : CallArguments) (step : StepDefinition) (arguments : Payload) :
    ReleaseProgram Json :=
  workflow.runStepRounds runId call step arguments stepLoopGuard

/-! ### The steps in order -/

/-- The variables of the loop over the steps. -/
structure StepLoop where
  results : StepResults
  invalidated : Finset String
  replayed : List String
  reused : List String
  automatic : List String

/-- Before the loop. -/
def StepLoop.start (invalidated : Finset String) : StepLoop := ⟨[], invalidated, [], [], []⟩

/-- `RELEASE_VALIDATION_DAG.descendants`, with the error that `run` makes of an unknown step. -/
def descendants (stepIds : List String) : Except ReleaseFailure (Finset String) :=
  match releaseDag.descendants .insertion stepIds true with
  | .ok found => .ok found
  | .error error => .error (.selectiveReplay error.message)

/-- A value or the exception that computing it raised. -/
def ofExcept {α : Type} : Except ReleaseFailure α → ReleaseProgram α
  | .ok value => .done value
  | .error failure => .raise failure

/-- The check before a step that its dependencies are done. -/
def requireDependencies (call : CallArguments) (step : StepDefinition) (loop : StepLoop) :
    Except ReleaseFailure Unit :=
  if call.legacyFixedOrder then .ok ()
  else
    let missing := (dependencies releaseNodes step.stepId).filter
      fun stepId ↦ !loop.results.any fun entry ↦ entry.1 == stepId
    if missing.isEmpty then .ok ()
    else .error (.runtimeError ("scheduler selected " ++ pyRepr step.stepId
      ++ " before dependencies " ++ pyReprTexts (pySorted missing) ++ " completed"))

/-- A step of a replay that may be reused: the reused result, or that it has to be executed. -/
def reuseStep (runId : String) (call : CallArguments) (replay : SelectiveReplayRequest)
    (step : StepDefinition) (arguments : Payload) : ReleaseProgram (Option Json) := do
  let reuse ← storeCall (.reuseCompletedStep replay.sourceRunId runId step.stepId step.toolName
    (workflow.stableHash arguments) call.leaseToken)
  match reuse.outcome, reuse.step with
  | .notReusable, _ => return none
  | _, some row =>
    match row.resultJson with
    | some result => return some result
    | none => throw (.other "AssertionError" "")
  | _, none => throw (.other "AssertionError" "")

/-- The loop after a step was executed. -/
def StepLoop.executed (loop : StepLoop) (call : CallArguments) (stepId : String) (result : Json) :
    StepLoop :=
  { loop with
    results := loop.results ++ [(stepId, result)]
    replayed := if call.replay.isSome then loop.replayed ++ [stepId] else loop.replayed }

/-- The loop after a step was reused. -/
def StepLoop.taken (loop : StepLoop) (stepId : String) (result : Json) : StepLoop :=
  { loop with
    results := loop.results ++ [(stepId, result)]
    reused := loop.reused ++ [stepId] }

/-- The loop after a step turned out not to be reusable. -/
def StepLoop.invalidate (loop : StepLoop) (stepId : String) (found : Finset String) : StepLoop :=
  { loop with
    automatic := loop.automatic ++ [stepId]
    invalidated := loop.invalidated ∪ found }

/-- The body of the loop over the steps. -/
def takeStep (runId : String) (call : CallArguments) (manifest : ReleaseManifest)
    (loop : StepLoop) (step : StepDefinition) : ReleaseProgram StepLoop := do
  ofExcept (requireDependencies call step loop)
  let arguments := step.buildArguments manifest
  let execute (loop : StepLoop) : ReleaseProgram StepLoop := do
    let result ← workflow.runStep runId call step arguments
    return loop.executed call step.stepId result
  match call.replay with
  | none => execute loop
  | some replay =>
    if step.stepId ∈ loop.invalidated then execute loop
    else
      match ← workflow.reuseStep runId call replay step arguments with
      | some result => return loop.taken step.stepId result
      | none =>
        let found ← ofExcept (descendants [step.stepId])
        execute (loop.invalidate step.stepId found)

/-- The loop over the steps. -/
def takeSteps (runId : String) (call : CallArguments) (manifest : ReleaseManifest) :
    List StepDefinition → StepLoop → ReleaseProgram StepLoop
  | [], loop => return loop
  | step :: rest, loop => do
    let next ← workflow.takeStep runId call manifest loop step
    takeSteps runId call manifest rest next

/-! ### One call -/

/-- `_validate_replay_request`. -/
def validateReplayRequest (runId : String) (replay : SelectiveReplayRequest) :
    ReleaseProgram Unit := do
  if replay.sourceRunId = runId then
    throw (.selectiveReplay "selective replay must create a new target run_id")
  match ← storeCall (.getExecution replay.sourceRunId) with
  | none =>
    throw (.selectiveReplay ("selective replay source not found: " ++ pyRepr replay.sourceRunId))
  | some source =>
    if source.workflowType ≠ workflowType then
      throw (.selectiveReplay ("selective replay source " ++ pyRepr replay.sourceRunId
        ++ " has workflow_type " ++ pyRepr source.workflowType ++ ", not " ++ pyRepr workflowType))
    else if source.status ≠ .ready ∧ source.status ≠ .blocked then
      throw (.selectiveReplay ("selective replay source " ++ pyRepr replay.sourceRunId
        ++ " must be READY or BLOCKED, not " ++ pyRepr source.status.text))

/-- The steps that a replay has to execute in any case. -/
def requestedSteps (runId : String) (call : CallArguments) : ReleaseProgram (Finset String) := do
  match call.replay with
  | none => return ∅
  | some replay =>
    validateReplayRequest runId replay
    ofExcept (descendants replay.stepIds)

/-- The summary of a replay. -/
def replaySummary (call : CallArguments) (loop : StepLoop) : Option SelectiveReplaySummary :=
  call.replay.map fun replay ↦
    let ordered (chosen : List String) : List String :=
      releaseDag.topologicalOrder.filter fun stepId ↦ chosen.contains stepId
    { sourceRunId := replay.sourceRunId
      requestedStepIds := replay.stepIds
      replayedStepIds := ordered loop.replayed
      reusedStepIds := ordered loop.reused
      automaticallyInvalidatedStepIds := ordered loop.automatic }

/-- `_reuse_terminal_result`. -/
def reuseTerminalResult (runId : String) (call : CallArguments) (record : ExecutionRow) :
    ReleaseProgram ReleaseValidationResult := do
  match record.resultJson with
  | none =>
    throw (.runtimeError ("terminal execution " ++ pyRepr runId ++ " (status="
      ++ record.status.text ++ ") has no persisted result_json to reuse"))
  | some json =>
    match parseResult json with
    | none => throw (.other "ValidationError" "")
    | some result =>
      if result.status.text ≠ record.status.text then
        throw (.runtimeError ("persisted result status " ++ pyRepr result.status.text
          ++ " does not match execution status " ++ pyRepr record.status.text ++ " for "
          ++ pyRepr runId))
      else
        discard <| storeCall (.appendEvent runId "workflow.result_reused"
          [("run_id", .str runId), ("persisted_status", .str record.status.text),
            ("outcome", .str "reused")] call.leaseToken)
        return result

/-- `_settle_finalize`. -/
def settleFinalize (runId : String) (call : CallArguments) (candidate : ReleaseValidationResult)
    (record : ExecutionRow) : ReleaseProgram ReleaseValidationResult :=
  if record.status.text = candidate.status.text then return candidate
  else
    match record.status with
    | .ready | .blocked => reuseTerminalResult runId call record
    | .failed => throw (.workflowExecutionFailed runId record.errorCode)
    | .pending | .running =>
      throw (.runtimeError ("finalize for " ++ pyRepr runId
        ++ " did not reach a terminal status as expected (persisted status="
        ++ pyRepr record.status.text ++ "); internal consistency error"))

/-- The end of the `try` block: the results are checked and the execution is finalized. -/
def concludeCall (runId : String) (call : CallArguments) (loop : StepLoop) :
    ReleaseProgram ReleaseValidationResult := do
  let findings ← ofExcept (validateReleaseReadiness workflow.format loop.results)
  let summary := replaySummary call loop
  if findings.isEmpty then
    let candidate : ReleaseValidationResult := ⟨runId, .ready, [], summary⟩
    let record ← storeCall (.finalizeReady runId candidate.dump call.leaseToken)
    settleFinalize runId call candidate record
  else
    let candidate : ReleaseValidationResult := ⟨runId, .blocked, findings, summary⟩
    let record ← storeCall (.finalizeBlocked runId candidate.dump "readiness_requirements_unmet"
      call.leaseToken)
    settleFinalize runId call candidate record

/-- The `try` block of `run`. -/
def runBody (runId : String) (call : CallArguments) (manifest : ReleaseManifest) :
    ReleaseProgram ReleaseValidationResult := do
  if call.legacyFixedOrder && call.replay.isSome then
    throw (.selectiveReplay "release-validation:1.0.0 does not support selective replay")
  let invalidated ← requestedSteps runId call
  let scheduled := if call.legacyFixedOrder then stepDefinitions else stepSequence
  let loop ← workflow.takeSteps runId call manifest scheduled (.start invalidated)
  workflow.concludeCall runId call loop

/-- The second `except` clause of `run`. -/
def failCall (runId : String) (call : CallArguments) (failure : ReleaseFailure) :
    ReleaseProgram ReleaseValidationResult := do
  let record ← storeCall (.finalizeFailed runId failure.describe call.leaseToken)
  if record.status ≠ .failed then
    throw (.runtimeError ("finalize_failed did not apply for " ++ pyRepr runId
      ++ "; persisted status is " ++ pyRepr record.status.text ++ ", not FAILED as expected"))
  else throw failure

/-- `run` once the execution is its own and not terminal. -/
def runExecution (runId : String) (call : CallArguments) (manifest : ReleaseManifest) :
    ReleaseProgram ReleaseValidationResult :=
  (workflow.runBody runId call manifest).handle fun failure ↦
    if failure.passesOn then throw failure else failCall runId call failure

/-- `run`. -/
def run (runId : String) (call : CallArguments) : ReleaseProgram ReleaseValidationResult := do
  let manifest := canonicalizeManifest call.manifest
  let claim ← storeCall (.createOrGetExecution runId workflowType
    (workflow.stableHash (identityPayload manifest call.replay)) call.leaseToken)
  let execution := claim.execution
  match claim.outcome with
  | .workflowTypeMismatch =>
    throw (.workflowTypeMismatch ("run_id " ++ pyRepr runId
      ++ " was previously used for workflow_type " ++ pyRepr execution.workflowType ++ ", not "
      ++ pyRepr workflowType))
  | .inputMismatch =>
    throw (.executionInputMismatch ("run_id " ++ pyRepr runId
      ++ " was already started with a different manifest"))
  | .created | .existing =>
    match execution.status with
    | .ready | .blocked => reuseTerminalResult runId call execution
    | .failed => throw (.workflowExecutionFailed runId execution.errorCode)
    | .pending =>
      discard <| storeCall (.markRunning runId call.leaseToken)
      workflow.runExecution runId call manifest
    | .running => workflow.runExecution runId call manifest

end ReleaseValidationWorkflow

end AgentRuntime.Release
