import AgentRuntime.Execution.Manager

/-!
# Submitting Runs and Actions

`RuntimeManager.submit` looks for a Run with the client's request id, creates one, and looks again
when the unique index refused it. `DurableActionGateway.submit` wraps it for webhook Actions: it
hashes the idempotency key into a reserved request id, looks for the Run itself first, and compares
the request with the input that the Run persisted. Each store call is one transaction; the manager's
lock does not reach other processes, so it is left out and any two submissions may interleave
between any two calls.

What `ActionProjector.project` makes of the Run and its workflow ledger is left open: it only reads,
and any answer or exception is allowed.
-/

set_option autoImplicit false
set_option relaxedAutoImplicit false

namespace AgentRuntime.Gateway

open Library Store Execution

/-! ### Requests -/

/-- `TenantContext`. -/
structure TenantContext where
  tenantId : String
  subjectId : String
  permissions : List String

/-- `TenantContext.execution_authority`. -/
def TenantContext.executionAuthority (context : TenantContext) : ExecutionAuthority :=
  ⟨context.tenantId, context.subjectId, context.permissions⟩

/-- `RunCreateRequest`. -/
structure RunCreateRequest where
  threadId : String
  agentId : String
  agentVersion : String
  input : Payload
  state : Option RuntimeState
  clientRequestId : Option String

/-- The `uuid4` and the default timestamps of a new record. -/
structure Draw where
  uuid : String
  createdAt : String
  updatedAt : String

/-- `ActionCreateRequest`. -/
structure ActionCreateRequest where
  actionType : String
  destination : String
  idempotencyKey : String
  payload : Payload

/-- `DurableActionInput`; its contract and action type are constants. -/
structure DurableActionInput where
  destination : String
  idempotencyKey : String
  payload : Payload

def actionAgentId : String := "durable-action-gateway"

def actionAgentVersion : String := "1.0.0"

def actionContract : String := "durable-action:1"

def actionDomainId : String := "durable-action"

def actionSchemaVersion : String := "1"

def webhookSend : String := "webhook.send"

/-- `runtime_input.model_dump(mode="json")`. -/
def DurableActionInput.dump (input : DurableActionInput) : Payload :=
  [("contract", .str actionContract), ("action_type", .str webhookSend),
    ("destination", .str input.destination), ("idempotency_key", .str input.idempotencyKey),
    ("input", .obj [("payload", .obj input.payload)])]

/-- `to_durable_action_input`. -/
def toDurableActionInput (request : ActionCreateRequest) : DurableActionInput :=
  ⟨request.destination, request.idempotencyKey, request.payload⟩

/-- `ACTION_DESTINATION_PATTERN`. -/
def validDestination (destination : String) : Bool :=
  match destination.toList with
  | [] => false
  | first :: rest =>
    first.isAlphanum && rest.all (fun c ↦ c.isAlphanum || c == '.' || c == '_' || c == '-') &&
      decide (rest.length ≤ 199)

/-- The length bounds of an idempotency key. -/
def validKey (key : String) : Bool := decide (1 ≤ key.length ∧ key.length ≤ 200)

/-- A literal field with its default. -/
def literalField (payload : Payload) (key expected : String) : Bool :=
  match payload.get? key with
  | none => true
  | some value => value == .str expected

/-- `DurableActionInput.model_validate`; `acceptsPayload` is `validate_payload`. -/
def DurableActionInput.validate (acceptsPayload : Payload → Bool) (raw : Payload) :
    Option DurableActionInput :=
  let known := raw.all fun field ↦
    field.1 ∈ ["contract", "action_type", "destination", "idempotency_key", "input"]
  match raw.get? "destination", raw.get? "idempotency_key", raw.get? "input" with
  | some (.str destination), some (.str key), some (.obj input) =>
    let payload : Option Payload :=
      match Payload.get? input "payload" with
      | none => some []
      | some (.obj payload) => some payload
      | some _ => none
    match payload with
    | none => none
    | some payload =>
      if known && literalField raw "contract" actionContract &&
          literalField raw "action_type" webhookSend && validDestination destination &&
          validKey key && input.all (fun field ↦ field.1 == "payload") &&
          acceptsPayload payload then
        some ⟨destination, key, payload⟩
      else none
  | _, _, _ => none

/-- `ActionCreateRequest` as validated: the fields that its model shares with the Action input. -/
def ActionCreateRequest.Valid (acceptsPayload : Payload → Bool) (request : ActionCreateRequest) :
    Prop :=
  validDestination request.destination = true ∧ validKey request.idempotencyKey = true ∧
    acceptsPayload request.payload = true

/-- What was dumped is validated to itself. -/
theorem validate_dump {acceptsPayload : Payload → Bool} {request : ActionCreateRequest}
    (hvalid : request.Valid acceptsPayload) :
    DurableActionInput.validate acceptsPayload (toDurableActionInput request).dump =
      some (toDurableActionInput request) := by
  obtain ⟨hdestination, hkey, hpayload⟩ := hvalid
  simp [DurableActionInput.validate, DurableActionInput.dump, toDurableActionInput, literalField,
    Payload.get?, Json.lookup, hdestination, hkey, hpayload]

/-! ### Operations and exceptions -/

/-- What a submission raises. -/
inductive SubmitError where
  | failure (failure : Failure)
  | referencedRunNotFound
  | actionTypeNotRegistered
  | destinationNotRegistered
  | idempotencyKeyReused
  | actionEvidenceIncomplete (message : String)

/-- `is_run_store_integrity_error`. -/
def SubmitError.isIntegrityError : SubmitError → Bool
  | failure (.store (.integrityError _)) => true
  | _ => false

/-- What `ActionProjector._resource` takes from the ledger. -/
structure ActionProjection where
  status : String
  providerReference : Option String
  errorCode : Option String
  updatedAt : String
  completedAt : Option String

/-- `ActionResource`. -/
structure ActionResource where
  actionId : String
  destination : String
  idempotencyKey : String
  createdAt : String
  projection : ActionProjection

/-- `SubmittedAction`. -/
structure SubmittedAction where
  resource : ActionResource
  existed : Bool

/-- `DurableActionGateway`. `destinations` says which aliases the provider registry resolves,
`sha256Text` hashes a text and `sha256` the canonical JSON text of a value. The Action agent is
registered with the Action input. -/
structure DurableActionGateway where
  manager : RuntimeManager
  destinations : String → Bool
  sha256Text : String → String
  sha256 : Json → String
  acceptsPayload : Payload → Bool
  registered : ∀ registration,
    manager.registry actionAgentId actionAgentVersion = some registration →
    registration.domainId = actionDomainId ∧ registration.schemaVersion = actionSchemaVersion ∧
    ∀ raw, registration.parseInput raw =
      match DurableActionInput.validate acceptsPayload raw with
      | some input => .ok input.dump
      | none => .error (.validation "DurableActionInput")

/-- A call of one of the two `submit` methods. -/
inductive Submission where
  | run (manager : RuntimeManager) (request : RunCreateRequest) (context : TenantContext)
    (draw : Draw)
  | action (gateway : DurableActionGateway) (request : ActionCreateRequest)
    (hvalid : request.Valid gateway.acceptsPayload) (context : TenantContext) (draw : Draw)

/-- What a submission returns. -/
inductive SubmitReply where
  | run (record : RunRecord)
  | action (submitted : SubmittedAction)

/-- The operations of a submission. -/
inductive SubmitOp where
  | store (call : RunCall)
  /-- `projector.project`, after its identity checks. -/
  | project (run : RunRecord)
  /-- An observation without effect: the call ended here. -/
  | ended (submission : Submission) (result : Except SubmitError SubmitReply)

/-- What each operation returns. -/
def SubmitOp.Answer : SubmitOp → Type
  | store call => call.Reply
  | project _ => ActionProjection
  | ended .. => Unit

abbrev Submitting : Type → Type := Program SubmitOp.Answer SubmitError fun _ ↦ true

/-- One operation of the Run store. -/
def storeCall (call : RunCall) : Submitting call.Reply := Program.ask (SubmitOp.store call) rfl

/-- `store.get_run_by_client_request_id`. -/
def findByClientRequest (tenantId clientRequestId : String) : Submitting (Option RunRecord) :=
  storeCall (.getRunByClientRequestId tenantId clientRequestId)

/-! ### `RuntimeManager.submit` -/

/-- `_assert_referenced_runs_visible`. -/
def assertReferencedRunsVisible (tenantId : String) : List String → Submitting Unit
  | [] => return ()
  | runId :: rest => do
    let found : Option RunRecord ← storeCall (.getRunForTenant runId tenantId)
    match found with
    | none => throw .referencedRunNotFound
    | some _ => assertReferencedRunsVisible tenantId rest

/-- The client request id, where the source tests it for truth. -/
def clientKey (clientRequestId : Option String) : Option String :=
  clientRequestId.filter fun key ↦ !key.isEmpty

/-- The record of a new Run. -/
def submittedRecord (registration : RuntimeRegistration) (request : RunCreateRequest)
    (runtimeInput : Payload) (state : Option RuntimeState) (context : TenantContext)
    (draw : Draw) : RunRecord :=
  submittedRun ("run_" ++ draw.uuid) context.tenantId request.threadId request.agentId
    request.agentVersion registration.domainId registration.schemaVersion runtimeInput state
    (some context.executionAuthority) request.clientRequestId draw.createdAt draw.updatedAt

/-- The payload of `run.queued`. -/
def queuedPayload (run : RunRecord) (subjectId : String) : Payload :=
  [("agent_id", .str run.agentId), ("agent_version", .str run.agentVersion),
    ("domain_id", .str run.domainId), ("schema_version", .str run.schemaVersion),
    ("tenant_id", .str run.tenantId), ("subject_id", .str subjectId),
    ("thread_id", .str run.threadId),
    ("client_request_id", Json.ofOption Json.str run.clientRequestId)]

/-- The `except` block around the insert. -/
def findAfterConflict (run : RunRecord) (error : SubmitError) : Submitting RunRecord :=
  if error.isIntegrityError then
    match clientKey run.clientRequestId with
    | none => throw error
    | some key => do
      match ← findByClientRequest run.tenantId key with
      | none => throw error
      | some existing => return existing
  else throw error

/-- Insert the Run, or find the one that took its client request id. -/
def createOrFind (run : RunRecord) (subjectId : String) : Submitting RunRecord :=
  tryCatch (do
      discard <| storeCall (.createRunWithEvent run "run.queued" (queuedPayload run subjectId))
      return run)
    (findAfterConflict run)

/-- The state of a request, parsed and checked against its thread. -/
def submittedState (registration : RuntimeRegistration) (request : RunCreateRequest) :
    Except SubmitError (Option RuntimeState) :=
  match request.state with
  | none => .ok none
  | some raw =>
    match registration.parseState raw with
    | none => .error (.failure (.validation "state"))
    | some state =>
      if state.threadId ≠ request.threadId then
        .error (.failure (.store (.valueError "state.thread_id must match request.thread_id")))
      else .ok (some state)

/-- An exception of a pure step. -/
def ofExcept {α : Type} : Except SubmitError α → Submitting α
  | .ok value => return value
  | .error error => throw error

/-- `RuntimeManager.submit`. -/
def submit (manager : RuntimeManager) (request : RunCreateRequest) (context : TenantContext)
    (draw : Draw) : Submitting RunRecord :=
  match manager.registry request.agentId request.agentVersion with
  | none => throw (.failure (.store (.keyError
      ("Unknown agent version: " ++ request.agentId ++ ":" ++ request.agentVersion))))
  | some registration => do
    let runtimeInput ← ofExcept ((registration.parseInput request.input).mapError .failure)
    assertReferencedRunsVisible context.tenantId (registration.referencedRunIds runtimeInput)
    let state ← ofExcept (submittedState registration request)
    let run := submittedRecord registration request runtimeInput state context draw
    match clientKey request.clientRequestId with
    | none => createOrFind run context.subjectId
    | some key =>
      match ← findByClientRequest context.tenantId key with
      | some existing => return existing
      | none => createOrFind run context.subjectId

/-! ### `DurableActionGateway.submit` -/

/-- `is_action_run`. -/
def isActionRun (run : RunRecord) : Bool :=
  run.agentId == actionAgentId && run.agentVersion == actionAgentVersion &&
    run.domainId == actionDomainId && run.schemaVersion == actionSchemaVersion

namespace DurableActionGateway

variable (gateway : DurableActionGateway)

/-- `action_fingerprint`. -/
def actionFingerprint (input : DurableActionInput) : String :=
  gateway.sha256 (Json.sortKeys (.obj
    [("contract", .str actionContract), ("action_type", .str webhookSend),
      ("destination", .str input.destination), ("input", .obj [("payload", .obj input.payload)])]))

/-- `action_client_request_id`. -/
def actionClientRequestId (idempotencyKey : String) : String :=
  "action-request:v1:" ++ gateway.sha256Text idempotencyKey

/-- `action_thread_id`. -/
def actionThreadId (tenantId actionType idempotencyKey : String) : String :=
  "action_thread_v1_" ++ gateway.sha256 (.arr
    [.str "action-thread-v1", .str tenantId, .str actionType, .str idempotencyKey])

/-- `persisted_action_input`. -/
def persistedActionInput (run : RunRecord) : Option DurableActionInput :=
  DurableActionInput.validate gateway.acceptsPayload run.input

/-- `_assert_same_request`. -/
def assertSameRequest (run : RunRecord) (expected : DurableActionInput) : Except SubmitError Unit :=
  if !isActionRun run then
    .error (.actionEvidenceIncomplete "Reserved Action namespace is owned by a non-Action Run")
  else
    match gateway.persistedActionInput run with
    | none => .error (.actionEvidenceIncomplete "Persisted Action input is invalid")
    | some persisted =>
      if persisted.idempotencyKey ≠ expected.idempotencyKey ∨
          gateway.actionFingerprint persisted ≠ gateway.actionFingerprint expected then
        .error .idempotencyKeyReused
      else .ok ()

/-- `projector.project`: the identity checks, and the rest of the resource as the ledger has it. -/
def project (run : RunRecord) : Submitting ActionResource :=
  if !isActionRun run then
    throw (.actionEvidenceIncomplete "Run is not an Action resource")
  else
    match gateway.persistedActionInput run with
    | none => throw (.actionEvidenceIncomplete "Persisted Action input is invalid")
    | some input =>
      if run.clientRequestId ≠ some (gateway.actionClientRequestId input.idempotencyKey) ∨
          run.threadId ≠
            gateway.actionThreadId run.tenantId webhookSend input.idempotencyKey then
        throw (.actionEvidenceIncomplete "Persisted Action identity is invalid")
      else do
        let projection : ActionProjection ← Program.ask (SubmitOp.project run) rfl
        return ⟨run.runId, input.destination, input.idempotencyKey, run.createdAt, projection⟩

/-- The Run request of an Action. -/
def runRequest (request : ActionCreateRequest) (context : TenantContext) : RunCreateRequest where
  threadId := gateway.actionThreadId context.tenantId request.actionType request.idempotencyKey
  agentId := actionAgentId
  agentVersion := actionAgentVersion
  input := (toDurableActionInput request).dump
  state := none
  clientRequestId := some (gateway.actionClientRequestId request.idempotencyKey)

/-- The Run of the key is there: compare and report it. -/
def submitFound (request : ActionCreateRequest) (existing : RunRecord) :
    Submitting SubmittedAction :=
  if request.actionType ≠ webhookSend then throw .idempotencyKeyReused
  else do
    ofExcept (gateway.assertSameRequest existing (toDurableActionInput request))
    let resource ← gateway.project existing
    return ⟨resource, true⟩

/-- There was no Run of the key: submit one. -/
def submitNew (request : ActionCreateRequest) (context : TenantContext) (draw : Draw) :
    Submitting SubmittedAction :=
  if request.actionType ≠ webhookSend then throw .actionTypeNotRegistered
  else if !gateway.destinations request.destination then throw .destinationNotRegistered
  else do
    let run ← submit gateway.manager (gateway.runRequest request context) context draw
    ofExcept (gateway.assertSameRequest run (toDurableActionInput request))
    let resource ← gateway.project run
    return ⟨resource, false⟩

/-- `DurableActionGateway.submit`. -/
def submitAction (request : ActionCreateRequest) (context : TenantContext) (draw : Draw) :
    Submitting SubmittedAction := do
  match ← findByClientRequest context.tenantId
      (gateway.actionClientRequestId request.idempotencyKey) with
  | some existing => gateway.submitFound request existing
  | none => gateway.submitNew request context draw

end DurableActionGateway

/-- The code of a submission. -/
def Submission.code : Submission → Submitting SubmitReply
  | run manager request context draw =>
    return .run (← submit manager request context draw)
  | action gateway request _ context draw =>
    return .action (← gateway.submitAction request context draw)

/-- A submission and the observation of its end. -/
def Submission.program (submission : Submission) : Submitting Unit := do
  let result ← submission.code.attempt
  Program.ask (SubmitOp.ended submission result) rfl

end AgentRuntime.Gateway
