import AgentRuntime.Gateway.Submission
import AgentRuntime.Execution.HonestAttempts

/-!
# `DurableActionGatewayRuntime`

The runtime behind the Action API has one step: send the webhook envelope to the registered provider
of its destination, under the durable state machine of `ExternalActionCoordinator`. It restores a
READY execution from its stored result, and whatever fails first reconciles a dispatched action.

`attempt` is the attempt of a server that serves it next to the registered tool loops. Its
coordinator keeps the accounting protocol, so dispatches are accounted for as they are for the
loops; and it is honest, where the only result to trust is a reference of the shape that
`WebhookSendOutput` allows.
-/

set_option autoImplicit false
set_option relaxedAutoImplicit false

namespace AgentRuntime.Gateway

open Library Store Execution

def actionWorkflowType : String := "durable-action:webhook.send:1"

def actionStepId : String := "dispatch"

/-! ### The tool -/

/-- The pattern of `WebhookSendOutput.provider_reference`. -/
def validReference (reference : String) : Bool :=
  match reference.toList with
  | [] => false
  | first :: rest =>
    first.isAlphanum &&
      rest.all (fun c ↦ c.isAlphanum || c == '.' || c == '_' || c == ':' || c == '-') &&
      decide (rest.length ≤ 199)

/-- `WebhookSendOutput`, dumped. -/
def webhookSendOutput (reference : String) : Payload := [("provider_reference", .str reference)]

/-- `WebhookSendOutput.model_validate`: a reference of the pattern and nothing else. -/
def validateWebhookSendOutput : Payload → Option String
  | [(name, .str reference)] =>
    if name = "provider_reference" ∧ validReference reference = true then some reference else none
  | _ => none

/-- `WebhookSendInput.model_validate` and its dump. -/
def validateWebhookSendInput (acceptsPayload : Payload → Bool) : Payload → Option Payload
  | [] => if acceptsPayload [] then some [("payload", .obj [])] else none
  | [(name, .obj payload)] =>
    if name = "payload" ∧ acceptsPayload payload = true then some [("payload", .obj payload)]
    else none
  | _ => none

/-- `runtime_input.input.model_dump(mode="json")`. -/
def DurableActionInput.arguments (input : DurableActionInput) : Payload :=
  [("payload", .obj input.payload)]

/-! ### The runtime -/

/-- `_FAILURE_MESSAGES`. -/
def actionFailureMessages : String → Option String
  | "external_action_not_configured" => some "The Action destination is not configured."
  | "external_action_permission_denied" =>
    some "Execution authority does not allow external actions."
  | "tool_permission_denied" => some "Execution authority does not allow tool execution."
  | "external_action_failed" => some "The external action failed definitively."
  | "external_action_outcome_unknown" =>
    some "The external action outcome is unknown and was not retried again."
  | "external_action_evidence_incomplete" =>
    some "Durable external-action evidence is incomplete."
  | "run_cancel_requested" => some "The Action was cancelled before dispatch."
  | _ => none

/-- `_safe_message`. -/
def safeMessage (code : String) : String :=
  (actionFailureMessages code).getD "The Action could not be completed."

/-- `_fail`. -/
def failAction (context : RuntimeExecutionContext) (code _unsafeDetail : String) : Plain Empty := do
  match ← WorkflowStore.getExecution context.runId with
  | some execution =>
    if execution.status = .running then
      discard <| WorkflowStore.finalizeFailed context.runId code context.leaseToken
  | none => pure ()
  raiseExecution code (safeMessage code)

/-- `DurableActionGatewayRuntime`, with the gateway whose Runs it executes. `registry` resolves the
destinations of the gateway, and the `while` loop of a dispatch is followed for `rounds` rounds. -/
structure DurableActionGatewayRuntime where
  gateway : DurableActionGateway
  registry : ProviderRegistry
  rounds : Nat
  resolves : ∀ destination, gateway.destinations destination = (registry destination).isSome

namespace DurableActionGatewayRuntime

variable (runtime : DurableActionGatewayRuntime)

def coordinator : ExternalActionCoordinator where
  dispatcher := some runtime.registry
  workflowType := actionWorkflowType
  maxDispatches := 2
  failureMessages := actionFailureMessages
  onFail := failAction
  sha256 := runtime.gateway.sha256
  rounds := runtime.rounds

/-- The `ToolSpec` of a destination. -/
def webhookSpec (destination : String) (provider : ExternalActionProvider) : ToolSpec where
  name := webhookSend
  effect := .externalWrite
  retryMode := if provider.supportsIdempotency then .providerIdempotent else .unsafeRetry
  providerName := some destination
  inputModel := validateWebhookSendInput runtime.gateway.acceptsPayload
  outputModel := some fun _ fields ↦ (validateWebhookSendOutput fields).map webhookSendOutput
  runtimeInputGate := none

/-- The response of a sent Action. -/
def completed (state : RuntimeState) (reference : String) : RuntimeResponse where
  message := "Action completed."
  state := { state with fields := state.fields.set "result" (.obj (webhookSendOutput reference)) }
  validationErrors := []

/-- `_restore_ready`. -/
def restoreReady (state : RuntimeState) (resultJson : Option Json) : Plain RuntimeResponse :=
  let invalid : Plain RuntimeResponse :=
    raiseExecution "external_action_evidence_incomplete"
      (safeMessage "external_action_evidence_incomplete")
  match resultJson with
  | some (.obj fields) =>
    match validateWebhookSendOutput fields with
    | some reference => return completed state reference
    | none => invalid
  | _ => invalid

/-- The checks before the dispatch: the permissions and the provider of the destination. -/
def authorize (input : DurableActionInput) (context : RuntimeExecutionContext) :
    Plain ExternalActionProvider := do
  if !allows context.authority "tools:execute" then
    runtime.coordinator.fail context "tool_permission_denied"
      "The persisted authority does not include tools:execute."
  if !allows context.authority "external-actions:execute" then
    runtime.coordinator.fail context "external_action_permission_denied"
      "The persisted authority does not include external-actions:execute."
  match runtime.registry input.destination with
  | some provider => return provider
  | none =>
    runtime.coordinator.reconcileRun context true
    runtime.coordinator.fail context "external_action_not_configured"
      "The destination alias has no registered provider."

/-- The end of `_execute_impl`: the observation becomes the result of the execution. -/
def finish (state : RuntimeState) (context : RuntimeExecutionContext)
    (observation : ToolObservation) : Plain RuntimeResponse := do
  match validateWebhookSendOutput observation.result with
  | none =>
    runtime.coordinator.fail context "external_action_evidence_incomplete"
      "Completed provider evidence failed the Action output contract."
  | some reference =>
    let record ← WorkflowStore.finalizeReady context.runId
      (canonicalJson (webhookSendOutput reference)) context.leaseToken
    if record.status ≠ .ready then
      runtime.coordinator.reconcileRun context true
      runtime.coordinator.fail context "external_action_evidence_incomplete"
        "Action workflow finalization did not preserve the provider outcome."
    return completed state reference

/-- The dispatch of a PENDING or RUNNING execution. -/
def dispatch (state : RuntimeState) (input : DurableActionInput)
    (context : RuntimeExecutionContext) : Runtime RuntimeResponse := do
  let provider ← runtime.authorize input context
  let observation ← runtime.coordinator.execute context webhookSend
    (runtime.webhookSpec input.destination provider) actionStepId input.arguments
  runtime.finish state context observation

/-- `_execute_impl`. -/
def executeImpl (state : RuntimeState) (input : DurableActionInput)
    (context : RuntimeExecutionContext) : Runtime RuntimeResponse := do
  let claim ← WorkflowStore.createOrGetExecution context.runId actionWorkflowType
    (runtime.gateway.actionFingerprint input) context.leaseToken
  if claim.outcome = .inputMismatch ∨ claim.outcome = .workflowTypeMismatch then
    runtime.coordinator.reconcileRun context true
    runtime.coordinator.fail context "external_action_evidence_incomplete"
      "Persisted Action workflow identity does not match its Run input."
  else
    match claim.execution.status with
    | .ready => restoreReady state claim.execution.resultJson
    | .blocked | .failed =>
      runtime.coordinator.reconcileRun context true
      let code := (claim.execution.errorCode.filter fun code ↦ !code.isEmpty).getD
        "external_action_evidence_incomplete"
      raiseExecution code (safeMessage code)
    | .pending =>
      discard <| WorkflowStore.markRunning context.runId context.leaseToken
      runtime.dispatch state input context
    | .running => runtime.dispatch state input context

/-- `execute`: whatever fails first reconciles a dispatched action. -/
def execute (state : RuntimeState) (input : DurableActionInput)
    (context : RuntimeExecutionContext) : Runtime RuntimeResponse :=
  tryCatch (runtime.executeImpl state input context) fun failure ↦
    match failure with
    | .reconciliationPending => throw failure
    | .runtimeExecution .. => do
      runtime.coordinator.reconcileRun context false
      throw failure
    | _ => do
      runtime.coordinator.reconcileRun context false
      runtime.coordinator.fail context "external_action_evidence_incomplete"
        "The private Action workflow failed outside a proven provider outcome."

/-! ### The server -/

/-- What the server executes: Action Runs by this runtime, other Runs by their registered loop. The
registration of the Action agent has parsed the input. -/
def executor : Executor := fun run registration state runtimeInput context ↦
  if run.agentId = actionAgentId ∧ run.agentVersion = actionAgentVersion then
    match DurableActionInput.validate runtime.gateway.acceptsPayload runtimeInput with
    | some input => runtime.execute state input context
    | none => throw (.validation "DurableActionInput")
  else registration.execute state runtimeInput context

/-- An attempt of the server. -/
def attempt (claim : RunLeaseClaim) : Manager Unit :=
  runtime.gateway.manager.executeOwnedRunWith runtime.executor claim

/-! ### The accounting protocol -/

/-- The servers of a deployment run the Action runtime and the loops with one configuration. -/
structure Deployed (deployment : Deployment) : Prop where
  maxDispatches : deployment.maxDispatches = 2
  dispatcher : deployment.dispatcher = some runtime.registry
  loops : ∀ agentId agentVersion registration,
    ¬ (agentId = actionAgentId ∧ agentVersion = actionAgentVersion) →
    runtime.gateway.manager.registry agentId agentVersion = some registration →
      deployment.Configures registration.loop

section Safety

variable {runtime} {hasher : Hasher} {deployment : Deployment} {worker : Nat} {world : World}

theorem safe_dispatch (hdeployed : runtime.Deployed deployment) (state : RuntimeState)
    (input : DurableActionInput) (context : RuntimeExecutionContext) :
    Safe hasher deployment worker (runtime.dispatch state input context) world := by
  unfold dispatch
  simp only [Program.bind_eq_bind]
  refine safe_bind (safe_plain _) fun provider later _ ↦ ?_
  refine safe_bind (safe_execute hdeployed.maxDispatches.symm hdeployed.dispatcher.symm ..)
    fun observation last _ ↦ ?_
  exact safe_plain _

/-- The runtime keeps the protocol; apart from the coordinator, its code is plain. -/
theorem safe_executeAction (hdeployed : runtime.Deployed deployment) (state : RuntimeState)
    (input : DurableActionInput) (context : RuntimeExecutionContext) :
    Safe hasher deployment worker (runtime.execute state input context) world := by
  have himpl (later : World) :
      Safe hasher deployment worker (runtime.executeImpl state input context) later := by
    unfold executeImpl
    simp only [Program.bind_eq_bind, Program.discard_eq_bind, Program.bind_bind,
      Program.done_bind]
    refine safe_bind (safe_plain _) fun claim _ _ ↦ ?_
    split_ifs
    · exact safe_bind (safe_plain _) fun _ _ _ ↦ safe_plain _
    · split
      · exact safe_plain _
      · exact safe_bind (safe_plain _) fun _ _ _ ↦ safe_raise _
      · exact safe_bind (safe_plain _) fun _ _ _ ↦ safe_raise _
      · exact safe_bind (safe_plain _) fun _ _ _ ↦ safe_dispatch hdeployed ..
      · exact safe_dispatch hdeployed ..
  unfold execute
  simp only [Program.tryCatch_eq_handle, Program.bind_eq_bind, Program.throw_eq_raise]
  refine Program.wp_handle (Program.wp_mono (himpl _) fun result later _ _ ↦ ?_)
  cases result with
  | ok response => trivial
  | error failure =>
    dsimp only
    split
    · exact safe_raise _
    · exact safe_bind (safe_plain _) fun _ _ _ ↦ safe_raise _
    · exact safe_bind (safe_plain _) fun _ _ _ ↦ safe_plain _

/-- A whole attempt of the server keeps the protocol. -/
theorem safe_attempt (hdeployed : runtime.Deployed deployment) (claim : RunLeaseClaim) :
    Safe hasher deployment worker (runtime.attempt claim) world := by
  refine RuntimeManager.safe_executeOwnedRunWith
    (fun run registration hregistration state runtimeInput context later ↦ ?_) claim
  unfold executor
  by_cases haction : run.agentId = actionAgentId ∧ run.agentVersion = actionAgentVersion
  · rw [if_pos haction]
    split
    · exact safe_executeAction hdeployed _ _ _
    · exact safe_raise _
  · rw [if_neg haction]
    refine safe_registration (hdeployed.loops _ _ _ haction ?_) _ _ _
    unfold RuntimeManager.registrationFor at hregistration
    split at hregistration
    · cases hregistration
    · next found hfound =>
      split_ifs at hregistration
      rw [hfound, Except.ok.inj hregistration]

end Safety

/-! ### Honesty -/

/-- The reference that a provider gave has the allowed shape and is all that is stored. -/
def WebhookAnswer (raw result : Json) (reference : String) : Prop :=
  ∃ answer, validateProviderResult raw = some answer ∧ reference = answer.providerReference ∧
    validReference reference = true ∧ result = canonicalJson (webhookSendOutput reference)

/-- What the attempts of the server trust. -/
def trust (claim : RunLeaseClaim) : AnswerTrust :=
  if claim.run.agentId = actionAgentId ∧ claim.run.agentVersion = actionAgentVersion then
    WebhookAnswer
  else TrustedAnswer runtime.gateway.manager claim

/-- Where a set field is the only one, it has the value that was set. -/
theorem value_of_set_singleton {payload : Payload} {key : String} {value other : Json}
    (hset : payload.set key value = [(key, other)]) : other = value := by
  unfold Payload.set at hset
  split_ifs at hset with hsome
  · obtain ⟨field, hpayload, hfield⟩ := List.map_eq_singleton_iff.mp hset
    have hkey : field.1 = key := by
      split_ifs at hfield with hkey
      · exact hkey
      · exact congrArg Prod.fst hfield
    rw [if_pos hkey] at hfield
    exact (congrArg Prod.snd hfield).symm
  · have hlast := congrArg List.getLast? hset
    rw [List.getLast?_append] at hlast
    simp only [List.getLast?_singleton, Option.some_or, Option.some.injEq, Prod.mk.injEq] at hlast
    exact hlast.2.symm

variable {runtime} in
theorem trusts_webhookSpec (destination : String) (provider : ExternalActionProvider) :
    Trusts WebhookAnswer (runtime.webhookSpec destination provider) := by
  intro outputModel invocation raw answer payload houtput hvalid htrusted
  obtain rfl := Option.some.inj houtput
  simp only [ExternalActionCoordinator.trustedResult] at htrusted
  split_ifs at htrusted
  split at htrusted
  · cases htrusted
  · next normalized hnormalized =>
    split_ifs at htrusted
    obtain rfl := Option.some.inj htrusted
    obtain ⟨reference, hreference, rfl⟩ := Option.map_eq_some_iff.mp hnormalized
    unfold validateWebhookSendOutput at hreference
    split at hreference
    · next name found hfields =>
      split_ifs at hreference with hshape
      obtain rfl := Option.some.inj hreference
      rw [hshape.1] at hfields
      obtain rfl : found = answer.providerReference :=
        Json.str.inj (value_of_set_singleton hfields)
      exact ⟨answer, hvalid, rfl, hshape.2, rfl⟩
    · cases hreference

section Honesty

variable {runtime} {lease : Option String} {α : Type} {answers : AnswerTrust}

theorem honest_failAction (context : RuntimeExecutionContext) (code detail : String) :
    Honest answers lease (failAction context code detail) := by
  unfold failAction
  simp only [Program.bind_eq_bind, Program.discard_eq_bind, Program.bind_bind, Program.done_bind]
  refine Program.conforms_bind (honest_quiet _) fun execution ↦ ?_
  split
  · split_ifs
    · exact Program.conforms_bind (Program.conforms_ask fun _ ↦ trivial) fun _ ↦
        honest_raiseExecution _ _
    · exact honest_raiseExecution _ _
  · exact honest_raiseExecution _ _

theorem honest_failWith (context : RuntimeExecutionContext) (code detail : String) :
    Honest answers lease (runtime.coordinator.fail context code detail : Plain α) :=
  honest_fail honest_failAction context code detail

theorem honest_reconcileWith (context : RuntimeExecutionContext) (includeTerminal : Bool) :
    Honest answers lease (runtime.coordinator.reconcileRun context includeTerminal) :=
  honest_reconcileRun honest_failAction context includeTerminal

theorem honest_restoreReady (state : RuntimeState) (resultJson : Option Json) :
    Honest answers lease (restoreReady state resultJson) := by
  unfold restoreReady
  split
  · split
    · exact Program.conforms_done _
    · exact honest_raiseExecution _ _
  · exact honest_raiseExecution _ _

theorem honest_authorize (input : DurableActionInput) (context : RuntimeExecutionContext) :
    Honest answers lease (runtime.authorize input context) := by
  unfold authorize
  simp only [Program.bind_eq_bind, Program.pure_eq_done]
  repeat' first
    | exact honest_failWith ..
    | exact Program.conforms_done _
    | split
    | refine Program.conforms_bind (honest_failWith ..) fun _ ↦ ?_
    | refine Program.conforms_bind (honest_reconcileWith ..) fun _ ↦ ?_

theorem honest_finish (state : RuntimeState) (context : RuntimeExecutionContext)
    (observation : ToolObservation) :
    Honest answers lease (runtime.finish state context observation) := by
  unfold finish
  simp only [Program.bind_eq_bind, Program.pure_eq_done]
  split
  · exact honest_failWith ..
  · refine Program.conforms_bind (Program.conforms_ask fun _ ↦ trivial) fun record ↦ ?_
    split_ifs
    · refine Program.conforms_bind (honest_reconcileWith ..) fun _ ↦ ?_
      exact Program.conforms_bind (honest_failWith ..) fun _ ↦ Program.conforms_done _
    · exact Program.conforms_done _

theorem honest_dispatch (state : RuntimeState) (input : DurableActionInput)
    {context : RuntimeExecutionContext} (hlease : context.leaseToken = lease) :
    Honest WebhookAnswer lease (runtime.dispatch state input context) := by
  unfold dispatch
  simp only [Program.bind_eq_bind]
  refine Program.conforms_bind (honest_plain (honest_authorize ..)) fun provider ↦ ?_
  refine Program.conforms_bind (Execution.honest_executeAction honest_failAction hlease _
    (trusts_webhookSpec input.destination provider) ..) fun observation ↦ ?_
  exact honest_plain (honest_finish ..)

/-- The runtime stores nothing but a provider's reference and dispatches under its lease. -/
theorem honest_execute (state : RuntimeState) (input : DurableActionInput)
    {context : RuntimeExecutionContext} (hlease : context.leaseToken = lease) :
    Honest WebhookAnswer lease (runtime.execute state input context) := by
  have himpl : Honest WebhookAnswer lease (runtime.executeImpl state input context) := by
    unfold executeImpl
    simp only [Program.bind_eq_bind, Program.discard_eq_bind, Program.bind_bind,
      Program.done_bind]
    refine Program.conforms_bind (honest_plain (Program.conforms_ask fun _ ↦ trivial))
      fun claim ↦ ?_
    have hreconcile : Honest WebhookAnswer lease
        (runtime.coordinator.reconcileRun context true : Runtime Unit) :=
      honest_plain (honest_reconcileWith ..)
    split_ifs
    · exact Program.conforms_bind hreconcile fun _ ↦ honest_plain (honest_failWith ..)
    · split
      · exact honest_plain (honest_restoreReady ..)
      · exact Program.conforms_bind hreconcile fun _ ↦ honest_raiseExecution _ _
      · exact Program.conforms_bind hreconcile fun _ ↦ honest_raiseExecution _ _
      · exact Program.conforms_bind (honest_plain (Program.conforms_ask fun _ ↦ trivial)) fun _ ↦
          honest_dispatch state input hlease
      · exact honest_dispatch state input hlease
  refine Program.conforms_handle himpl fun failure ↦ ?_
  simp only [Program.bind_eq_bind, Program.throw_eq_raise]
  split
  · exact Program.conforms_raise _
  · exact Program.conforms_bind (honest_plain (honest_reconcileWith ..)) fun _ ↦
      Program.conforms_raise _
  · exact Program.conforms_bind (honest_plain (honest_reconcileWith ..)) fun _ ↦
      honest_plain (honest_failWith ..)

/-- A whole attempt of the server is honest. -/
theorem honest_attempt (claim : RunLeaseClaim) :
    Honest (runtime.trust claim) (some claim.leaseToken) (runtime.attempt claim) := by
  refine honest_executeOwnedRunWith fun registration hregistration state runtimeInput context
    hlease ↦ ?_
  unfold executor trust
  by_cases haction : claim.run.agentId = actionAgentId ∧
      claim.run.agentVersion = actionAgentVersion
  · rw [if_pos haction, if_pos haction]
    split
    · exact honest_execute state _ hlease
    · exact Program.conforms_raise _
  · rw [if_neg haction, if_neg haction]
    exact honest_executeRegistered (trusts_registered hregistration) hlease state runtimeInput

end Honesty

end DurableActionGatewayRuntime

end AgentRuntime.Gateway
