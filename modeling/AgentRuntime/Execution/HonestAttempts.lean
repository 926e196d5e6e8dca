import AgentRuntime.Execution.ServedRuntimes
import AgentRuntime.Execution.AttemptSystem

/-!
# Attempts that invent no success

`finalize_external_action_succeeded` stores whatever result and reference its caller hands it, and a
dispatch is claimed under whatever lease its caller names. The discipline `honesty` allows an
attempt to record a success only with the answer of a provider in its own history: validated, with
the provider's reference in it, and as a trusted output schema returns it; and to claim a dispatch
only under its own lease. The code is followed once, function by function. Only
`_dispatch_external_action` has anything to show for a success, all other code conforms because it
never records one.
-/

set_option autoImplicit false
set_option relaxedAutoImplicit false

namespace AgentRuntime.Execution

open Library Store

/-! ### The discipline -/

/-- The provider's answer `raw` is stored as this result and reference, under the output schema of a
tool that the loop of the claimed Run registers. -/
def TrustedAnswer (manager : RuntimeManager) (claim : RunLeaseClaim) (raw result : Json)
    (reference : String) : Prop :=
  ∃ loop toolName spec outputModel invocation answer payload,
    Serves manager claim loop ∧ loop.toolRegistry toolName = some spec ∧
    spec.outputModel = some outputModel ∧ validateProviderResult raw = some answer ∧
    ExternalActionCoordinator.trustedResult invocation outputModel answer = some payload ∧
    reference = answer.providerReference ∧ result = canonicalJson payload

/-- Which answers of a provider may be stored as which result and reference. -/
abbrev AnswerTrust : Type := Json → Json → String → Prop

/-- What the output schema of a tool makes of a provider's answer is trusted. -/
def Trusts (trust : AnswerTrust) (spec : ToolSpec) : Prop :=
  ∀ outputModel invocation raw answer payload, spec.outputModel = some outputModel →
    validateProviderResult raw = some answer →
    ExternalActionCoordinator.trustedResult invocation outputModel answer = some payload →
      trust raw (canonicalJson payload) answer.providerReference

/-- The history holds a provider's answer for the step that is stored as this result. -/
def ProviderSaid (trust : AnswerTrust) (history : History) (runId stepId : String) (result : Json)
    (reference : String) : Prop :=
  ∃ dispatch raw, (⟨.awaitProvider runId stepId dispatch, .ok raw⟩ : Deed) ∈ history ∧
    trust raw result reference

/-- A success is recorded as a provider said, and a dispatch is claimed under the lease. -/
def MayRecord (trust : AnswerTrust) (lease : Option String) (history : History) : Op → Prop
  | .store (.workflow (.finalizeExternalActionSucceeded runId stepId _ _ result reference _)) =>
    ProviderSaid trust history runId stepId result reference
  | .store (.workflow (.beginExternalActionDispatch _ _ _ given)) => given = lease
  | .store (.workflow (.retryExternalActionDispatch _ _ _ _ given)) => given = lease
  | _ => True

/-- The discipline of an attempt that invents no success and dispatches under its lease. -/
def honesty (trust : AnswerTrust) (lease : Option String) : Discipline Op.Answer Failure where
  possible _ _ := True
  allowed := MayRecord trust lease

/-- The code keeps the discipline, whatever happened before. -/
abbrev Honest (trust : AnswerTrust) (lease : Option String) {scope : Op → Bool} {α : Type}
    (program : Program Op.Answer Failure scope α) : Prop :=
  program.Conforms (honesty trust lease)

section Conduct

variable {trust : AnswerTrust} {lease : Option String} {α : Type}

theorem mayRecord_of_quiet {op : Op} (hquiet : op.quiet = true) (history : History) :
    MayRecord trust lease history op := by
  unfold MayRecord
  split
  · cases hquiet
  · cases hquiet
  · cases hquiet
  · trivial

theorem honest_quietly (program : Quiet α) : Honest trust lease program :=
  Program.conforms_of_scope program fun _ hquiet ↦ mayRecord_of_quiet hquiet

theorem honest_quiet (program : Quiet α) : Honest trust lease (program : Plain α) :=
  Program.conforms_widen (honest_quietly program)

theorem honest_plain {program : Plain α} (hhonest : Honest trust lease program) :
    Honest trust lease (program : Runtime α) :=
  Program.conforms_widen hhonest

theorem honest_runtime {program : Runtime α} (hhonest : Honest trust lease program) :
    Honest trust lease (program : Manager α) :=
  Program.conforms_widen hhonest

theorem honest_ofExcept {scope : Op → Bool} (value : Except Failure α) :
    Honest trust lease (ofExcept value : Program Op.Answer Failure scope α) := by
  cases value with
  | ok value => exact Program.conforms_done value
  | error failure => exact Program.conforms_raise failure

theorem honest_raiseExecution {scope : Op → Bool} (code message : String) :
    Honest trust lease (raiseExecution code message : Program Op.Answer Failure scope α) :=
  Program.conforms_raise _

/-- Where the model follows a loop no further. -/
theorem honest_unfollowed : Honest trust lease
    ((Program.ask Op.unfollowed Op.runtime_unfollowed).bind Empty.elim : Runtime α) :=
  Program.conforms_bind (Program.conforms_ask fun _ ↦ trivial) fun impossible ↦ impossible.elim

/-! ### Failing -/

theorem honest_closeFailed (context : RuntimeExecutionContext) (code message : String) :
    Honest trust lease (closeFailed context code message) := by
  unfold closeFailed
  simp only [Program.bind_eq_bind, Program.discard_eq_bind, Program.bind_bind,
    Program.done_bind]
  refine Program.conforms_bind (honest_quiet _) fun execution ↦ ?_
  split
  · split_ifs
    · exact Program.conforms_bind (Program.conforms_ask fun _ ↦ trivial) fun _ ↦
        honest_raiseExecution _ _
    · exact honest_raiseExecution _ _
  · exact honest_raiseExecution _ _

theorem honest_failLoop (context : RuntimeExecutionContext) (code detail : String) :
    Honest trust lease (failLoop context code detail) := by
  unfold failLoop
  simp only [Program.bind_eq_bind]
  refine Program.conforms_bind (honest_quiet _) fun existing ↦ ?_
  split
  · exact Program.conforms_bind (honest_quiet _) fun _ ↦ honest_closeFailed ..
  · split_ifs
    · exact honest_raiseExecution _ _
    · split
      · split_ifs
        · exact honest_raiseExecution _ _
        · exact Program.conforms_bind (honest_quiet _) fun _ ↦ honest_closeFailed ..
      · exact honest_raiseExecution _ _

/-! ### The coordinator -/

section Coordinator

variable {coordinator : ExternalActionCoordinator}
  (hfail : ∀ context code detail, Honest trust lease (coordinator.onFail context code detail))

include hfail

theorem honest_fail (context : RuntimeExecutionContext) (code detail : String) :
    Honest trust lease (coordinator.fail context code detail : Plain α) :=
  Program.conforms_bind (hfail context code detail) fun impossible ↦ impossible.elim

theorem honest_failKeepingCode (context : RuntimeExecutionContext) (code detail : String) :
    Honest trust lease (coordinator.failKeepingCode context code detail : Plain α) := by
  refine Program.conforms_handle (honest_fail hfail context code detail) fun failure ↦ ?_
  split_ifs
  · exact Program.conforms_raise _
  · exact honest_raiseExecution _ _

theorem honest_raiseExternalOutcomeUnknown (context : RuntimeExecutionContext)
    (step : ToolCallRecord) (dispatchToken attemptToken : String)
    {finalizer : Plain ExternalActionRow} (hfinalizer : Honest trust lease finalizer) :
    Honest trust lease (coordinator.raiseExternalOutcomeUnknown context step dispatchToken
      attemptToken finalizer : Plain α) := by
  have hlast : Honest trust lease
      ((Program.attempt (do
        mirrorEvidence context
        recordToolFailure context step.stepId step.toolName "external_action_outcome_unknown" :
          Plain Unit)).bind fun _ ↦
        (coordinator.failKeepingCode context "external_action_outcome_unknown"
          "External action outcome could not be durably proven." : Plain α)) :=
    Program.conforms_bind (Program.conforms_attempt
      (Program.conforms_bind (honest_quiet _) fun _ ↦ honest_quiet _)) fun _ ↦
        honest_failKeepingCode hfail ..
  unfold ExternalActionCoordinator.raiseExternalOutcomeUnknown
  simp only [Program.bind_eq_bind, Program.throw_eq_raise,
    Program.discard_eq_bind, Program.bind_bind, Program.done_bind, Program.raise_bind]
  refine Program.conforms_bind (Program.conforms_attempt hfinalizer) fun recorded ↦ ?_
  split
  · exact hlast
  · split_ifs
    · exact Program.conforms_raise _
    · refine Program.conforms_bind (honest_quiet _) fun committed ↦ ?_
      split_ifs
      · exact hlast
      · exact Program.conforms_raise _

theorem honest_failExternalDispatchBinding (context : RuntimeExecutionContext)
    (step : ToolCallRecord) (action : ExternalActionRecord) : Honest trust lease
      (coordinator.failExternalDispatchBinding context step action : Plain α) := by
  unfold ExternalActionCoordinator.failExternalDispatchBinding
  split
  · exact honest_raiseExternalOutcomeUnknown hfail _ _ _ _ (Program.conforms_ask fun _ ↦ trivial)
  · exact Program.conforms_raise _

theorem honest_finalizeProviderUnknown (context : RuntimeExecutionContext) (step : ToolCallRecord)
    (dispatchToken attemptToken : String) : Honest trust lease
      (coordinator.finalizeProviderUnknown context step dispatchToken attemptToken : Plain α) :=
  honest_raiseExternalOutcomeUnknown hfail _ _ _ _ (Program.conforms_ask fun _ ↦ trivial)

theorem honest_finalizeReconciliationUnknown (context : RuntimeExecutionContext)
    (step : ToolCallRecord) (dispatchToken attemptToken : String) : Honest trust lease
      (coordinator.finalizeReconciliationUnknown context step dispatchToken attemptToken :
        Plain α) :=
  honest_raiseExternalOutcomeUnknown hfail _ _ _ _ (Program.conforms_ask fun _ ↦ trivial)

theorem honest_resolveAction (context : RuntimeExecutionContext) (action : ExternalActionRecord) :
    Honest trust lease (coordinator.resolveAction context action) := by
  unfold ExternalActionCoordinator.resolveAction
  simp only [Program.bind_eq_bind, Program.throw_eq_raise]
  split
  · refine Program.conforms_bind (honest_quiet _) fun step ↦ ?_
    split
    · exact Program.conforms_raise _
    · exact honest_failExternalDispatchBinding hfail ..
  · exact honest_failKeepingCode hfail ..
  · exact honest_failKeepingCode hfail ..
  · exact honest_failKeepingCode hfail ..
  · exact Program.conforms_raise _

theorem honest_reconcile (context : RuntimeExecutionContext) (target : Reconciliation) :
    Honest trust lease (coordinator.reconcile context target) := by
  cases target with
  | nothing => exact Program.conforms_done _
  | pending =>
    refine Program.conforms_bind (Program.conforms_attempt (honest_quiet _)) fun mirrored ↦ ?_
    simp only [Program.bind_eq_bind, Program.throw_eq_raise,
      Program.raise_bind]
    split
    · exact Program.conforms_raise _
    · split_ifs <;> exact Program.conforms_raise _
  | resolve action =>
    refine Program.conforms_bind (Program.conforms_attempt (honest_quiet _)) fun mirrored ↦ ?_
    simp only [Program.bind_eq_bind, Program.throw_eq_raise,
      Program.raise_bind]
    split
    · exact honest_resolveAction hfail context action
    · split_ifs
      · exact Program.conforms_raise _
      · exact honest_resolveAction hfail context action

theorem honest_reconcileRun (context : RuntimeExecutionContext) (includeTerminal : Bool) :
    Honest trust lease (coordinator.reconcileRun context includeTerminal) :=
  Program.conforms_bind (honest_quiet _) fun _ ↦ honest_reconcile hfail ..

theorem honest_failRestoredStep (context : RuntimeExecutionContext)
    (action : Option ExternalActionRecord) (code detail : String) : Honest trust lease
      (coordinator.failRestoredStep context action code detail : Plain α) := by
  unfold ExternalActionCoordinator.failRestoredStep
  simp only [Program.bind_eq_bind]
  split
  · split_ifs
    · exact Program.conforms_bind (honest_reconcile hfail ..) fun _ ↦ honest_fail hfail ..
    · exact honest_fail hfail ..
  · exact honest_fail hfail ..

theorem honest_validateExternalActionBinding (invocation : Invocation) (step : ToolCallRecord)
    (action : ExternalActionRecord) (providerIdentity : Option String) : Honest trust lease
      (coordinator.validateExternalActionBinding invocation step action providerIdentity) := by
  unfold ExternalActionCoordinator.validateExternalActionBinding
  simp only [Program.bind_eq_bind, Program.pure_eq_done]
  -- Both checks end in the same calls, whichever of them fails.
  repeat' first
    | exact honest_fail hfail ..
    | exact Program.conforms_done _
    | split
    | refine Program.conforms_bind (honest_failExternalDispatchBinding hfail ..) fun _ ↦ ?_
    | refine Program.conforms_bind (honest_reconcile hfail ..) fun _ ↦ ?_
    | refine Program.conforms_bind (honest_fail hfail ..) fun _ ↦ ?_

theorem honest_raiseExternalTerminalFailure (context : RuntimeExecutionContext)
    (step : ToolCallRecord) (errorCode : String) : Honest trust lease
      (coordinator.raiseExternalTerminalFailure context step errorCode : Plain α) := by
  unfold ExternalActionCoordinator.raiseExternalTerminalFailure
  simp only [Program.bind_eq_bind, Program.discard_eq_bind, Program.bind_bind,
    Program.done_bind]
  refine Program.conforms_bind (Program.conforms_attempt (honest_quiet _)) fun recorded ↦ ?_
  split
  · exact honest_failKeepingCode hfail ..
  · exact Program.conforms_bind (Program.conforms_attempt (honest_quiet _)) fun _ ↦
      honest_failKeepingCode hfail ..

theorem honest_restoreSuccess (invocation : Invocation) (step : ToolCallRecord) :
    Honest trust lease (coordinator.restoreSuccess invocation step) := by
  unfold ExternalActionCoordinator.restoreSuccess
  simp only [Program.bind_eq_bind, Program.pure_eq_done]
  refine Program.conforms_bind (honest_quiet _) fun found ↦ ?_
  split
  · exact honest_fail hfail ..
  · refine Program.conforms_bind (honest_validateExternalActionBinding hfail ..) fun _ ↦ ?_
    split
    · exact honest_failRestoredStep hfail ..
    · exact Program.conforms_bind (honest_quiet _) fun _ ↦ Program.conforms_done _

theorem honest_restoreFailure (invocation : Invocation) (step : ToolCallRecord) :
    Honest trust lease (coordinator.restoreFailure invocation step : Plain α) := by
  unfold ExternalActionCoordinator.restoreFailure
  simp only [Program.bind_eq_bind]
  refine Program.conforms_bind (honest_quiet _) fun found ↦ ?_
  split
  · exact honest_fail hfail ..
  · refine Program.conforms_bind (honest_validateExternalActionBinding hfail ..) fun _ ↦ ?_
    split
    · split_ifs
      · exact honest_raiseExternalTerminalFailure hfail ..
      · exact honest_failRestoredStep hfail ..
    · exact honest_failRestoredStep hfail ..

theorem honest_handleExternalTerminal (invocation : Invocation) (step : ToolCallRecord)
    (action : ExternalActionRecord) :
    Honest trust lease (coordinator.handleExternalTerminal invocation step action) := by
  unfold ExternalActionCoordinator.handleExternalTerminal
  simp only [Program.bind_eq_bind]
  refine Program.conforms_bind (honest_quiet _) fun found ↦ ?_
  split
  · exact honest_fail hfail ..
  · split
    · exact honest_restoreSuccess hfail ..
    · exact honest_restoreFailure hfail ..
    · exact honest_restoreFailure hfail ..
    · exact honest_fail hfail ..
    · exact honest_fail hfail ..

/-! Dispatching. -/

/-- A rotated dispatch is one of the same action. -/
theorem obeys_retryAfterAmbiguousResult {invocation : Invocation}
    (hlease : invocation.context.leaseToken = lease) (step : ToolCallRecord)
    (action : ExternalActionRecord) (dispatchToken attemptToken : String) (history : History) :
    (coordinator.retryAfterAmbiguousResult invocation step action dispatchToken
      attemptToken).Obeys (honesty trust lease)
      (fun result _ ↦ ∀ rotated token, result = .ok (some (rotated, token)) →
        rotated.runId = invocation.context.runId ∧ rotated.stepId = step.stepId) history := by
  have hfailed (code detail : String) (later : History) :
      (coordinator.fail invocation.context code detail :
        Plain (Option (ExternalActionRecord × String))).Obeys (honesty trust lease)
        (fun result _ ↦ ∀ rotated token, result = .ok (some (rotated, token)) →
          rotated.runId = invocation.context.runId ∧ rotated.stepId = step.stepId) later :=
    Program.obeys_seq (fun _ _ ↦ True) ((hfail _ _ _).obeys later)
      (fun impossible ↦ impossible.elim) fun _ _ _ _ _ _ hresult ↦ by cases hresult
  unfold ExternalActionCoordinator.retryAfterAmbiguousResult
  simp only [Program.bind_eq_bind, Program.pure_eq_done]
  split_ifs
  · intro rotated token hresult
    cases Except.ok.inj hresult
  refine Program.obeys_seq (fun _ _ ↦ True) (Program.obeys_ask hlease fun _ _ ↦ trivial)
    (fun retry later _ _ ↦ ?_) fun _ _ _ _ _ _ hresult ↦ by cases hresult
  refine Program.obeys_seq (fun _ _ ↦ True) ((honest_plain (honest_quiet _)).obeys later)
    (fun _ last _ _ ↦ ?_) fun _ _ _ _ _ _ hresult ↦ by cases hresult
  split
  · intro rotated token hresult
    obtain ⟨rfl, -⟩ := Prod.mk.inj (Option.some.inj (Except.ok.inj hresult))
    exact ⟨rfl, rfl⟩
  · exact Program.obeys_widen (hfailed _ _ last)
  · intro rotated token hresult
    cases Except.ok.inj hresult
  · exact Program.obeys_widen (hfailed _ _ last)

theorem honest_recordDefinitiveFailure (context : RuntimeExecutionContext) (step : ToolCallRecord)
    (action : ExternalActionRecord) (dispatchToken attemptToken : String) : Honest trust lease
      (coordinator.recordDefinitiveFailure context step action dispatchToken attemptToken :
        Runtime α) := by
  unfold ExternalActionCoordinator.recordDefinitiveFailure
  simp only [Program.bind_eq_bind]
  refine Program.conforms_bind (Program.conforms_attempt (Program.conforms_ask fun _ ↦ trivial))
    fun recorded ↦ ?_
  split
  · exact honest_plain (honest_raiseExternalTerminalFailure hfail ..)
  · refine Program.conforms_bind (honest_plain (honest_quiet _)) fun committed ↦ ?_
    split_ifs
    · exact honest_plain (honest_raiseExternalTerminalFailure hfail ..)
    · exact Program.conforms_bind (honest_plain (honest_finalizeProviderUnknown hfail ..)) fun _ ↦
        honest_plain (honest_raiseExternalTerminalFailure hfail ..)

theorem honest_retryOrUnknown {invocation : Invocation}
    (hlease : invocation.context.leaseToken = lease) (step : ToolCallRecord) (attemptToken : String)
    {again : ExternalActionRecord → String → Runtime ToolObservation}
    (hagain : ∀ rotated token, rotated.runId = invocation.context.runId →
      rotated.stepId = step.stepId → Honest trust lease (again rotated token))
    (action : ExternalActionRecord) (dispatchToken : String) : Honest trust lease
      (coordinator.retryOrUnknown invocation step attemptToken again action dispatchToken) := by
  refine ⟨fun history ↦ ?_⟩
  refine Program.obeys_seq _ (obeys_retryAfterAmbiguousResult hfail hlease step action
    dispatchToken attemptToken history) (fun retry later _ hretry ↦ ?_) fun _ _ _ _ ↦ trivial
  split
  · exact (honest_plain (honest_finalizeProviderUnknown hfail ..)).obeys later
  · next rotated token =>
    obtain ⟨hrunId, hstepId⟩ := hretry rotated token rfl
    exact (hagain rotated token hrunId hstepId).obeys later

/-- A trusted result is recorded after the provider said so. -/
theorem obeys_recordTrustedResult (invocation : Invocation) (step : ToolCallRecord)
    (action : ExternalActionRecord) (dispatchToken attemptToken : String) {trusted : Payload}
    {providerReference : String} {history : History}
    (hsaid : ProviderSaid trust history invocation.context.runId step.stepId
      (canonicalJson trusted) providerReference) :
    (coordinator.recordTrustedResult invocation step action dispatchToken attemptToken trusted
      providerReference).Obeys (honesty trust lease) (fun _ _ ↦ True) history := by
  unfold ExternalActionCoordinator.recordTrustedResult
  simp only [Program.bind_eq_bind, Program.pure_eq_done]
  refine Program.obeys_try (fun _ _ ↦ True)
    (Program.obeys_ask hsaid fun _ _ ↦ trivial) fun recorded later _ _ ↦ ?_
  have hevidence : Honest trust lease
      ((coordinator.recordExternalSuccessEvidence invocation.context step trusted :
        Plain Unit).bind fun _ ↦ (.done ⟨step.stepId, step.toolName,
          invocation.normalizedArguments, trusted, false⟩ : Plain ToolObservation)) :=
    Program.conforms_bind (honest_quiet _) fun _ ↦ Program.conforms_done _
  split
  · exact hevidence.obeys later
  · refine (Program.conforms_bind (honest_quiet _) fun committed ↦ ?_).obeys later
    split_ifs
    · exact hevidence
    · exact Program.conforms_bind (honest_finalizeProviderUnknown hfail ..) fun _ ↦ hevidence

omit hfail in
/-- What `dispatchRequest` returns is a validated answer of the provider, and the history holds
it. -/
theorem obeys_dispatchRequest (registry : ProviderRegistry) (providerName : String)
    (retryMode : ExternalActionRetryMode) (dispatch : Nat) (request : ExternalActionRequest)
    (history : History) :
    (dispatchRequest registry providerName retryMode dispatch request).Obeys (honesty trust lease)
      (fun result later ↦ ∀ answer, result = .ok answer → ∃ raw,
        (⟨.awaitProvider request.runId request.stepId dispatch, .ok raw⟩ : Deed) ∈ later ∧
          validateProviderResult raw = some answer) history := by
  unfold dispatchRequest
  split
  · intro answer hanswer
    cases hanswer
  · simp only [Program.throw_eq_raise, Program.bind_eq_bind, Program.pure_eq_done,
      Program.discard_eq_bind, Program.bind_bind, Program.done_bind, Program.raise_bind]
    split_ifs
    · intro answer hanswer
      cases hanswer
    · refine Program.obeys_try (fun result later ↦ ∀ raw, result = .ok raw →
          (⟨.awaitProvider request.runId request.stepId dispatch, .ok raw⟩ : Deed) ∈ later) ?_ ?_
      · refine Program.obeys_seq (fun _ _ ↦ True) (Program.obeys_ask trivial fun _ _ ↦ trivial)
          (fun _ later _ _ ↦ ?_) fun _ _ _ _ _ hraw ↦ by cases hraw
        refine Program.obeys_ask trivial fun answer _ raw hraw ↦ ?_
        subst hraw
        exact List.mem_append_right _ (List.mem_singleton_self _)
      · intro result later _ hresult
        split
        · intro answer hanswer
          cases hanswer
        · intro answer hanswer
          cases hanswer
        · next raw =>
          split
          · next valid hvalid =>
            intro answer hanswer
            obtain rfl := Except.ok.inj hanswer
            exact ⟨raw, hresult raw rfl, hvalid⟩
          · intro answer hanswer
            cases hanswer

/-- `_dispatch_external_action` records what its provider said, by induction on its rounds. -/
theorem honest_dispatchExternalAction (registry : ProviderRegistry) (providerName : String)
    {invocation : Invocation} (hspec : Trusts trust invocation.spec)
    (hlease : invocation.context.leaseToken = lease) (step : ToolCallRecord) (attemptToken : String)
    (rounds : Nat) {action : ExternalActionRecord}
    (hrunId : action.runId = invocation.context.runId) (hstepId : action.stepId = step.stepId)
    (dispatchToken : String) : Honest trust lease
      (coordinator.dispatchExternalAction registry providerName invocation step attemptToken rounds
        action dispatchToken) := by
  induction rounds generalizing action dispatchToken with
  | zero => exact honest_unfollowed
  | succ rounds ih =>
    have hretry : Honest trust lease
        (coordinator.retryOrUnknown invocation step attemptToken
          (coordinator.dispatchExternalAction registry providerName invocation step attemptToken
            rounds) action dispatchToken) :=
      honest_retryOrUnknown hfail hlease step attemptToken
        (fun _ token hrun hstep ↦ ih hrun hstep token) action dispatchToken
    unfold ExternalActionCoordinator.dispatchExternalAction
    simp only [Program.bind_eq_bind]
    split_ifs
    · exact honest_plain (honest_finalizeReconciliationUnknown hfail ..)
    refine ⟨fun history ↦ ?_⟩
    cases hrequest : externalActionRequest action with
    | error failure => trivial
    | ok request =>
      obtain ⟨hrun, hstep⟩ := externalActionRequest_key hrequest
      refine Program.obeys_try _ (obeys_dispatchRequest registry providerName
        invocation.spec.retryMode action.dispatchCount request history)
        fun answer later _ hanswer ↦ ?_
      split
      · exact (honest_recordDefinitiveFailure hfail ..).obeys later
      · exact hretry.obeys later
      · trivial
      · next result outputModel houtput =>
        split
        · next trusted htrusted =>
          obtain ⟨raw, hdeed, hvalid⟩ := hanswer result rfl
          rw [hrun, hstep, hrunId, hstepId] at hdeed
          exact Program.obeys_widen (obeys_recordTrustedResult hfail _ _ _ _ _
            ⟨action.dispatchCount, raw, hdeed,
              hspec outputModel invocation raw result trusted houtput hvalid htrusted⟩)
        · exact hretry.obeys later

theorem honest_recoverExternalDispatch (registry : ProviderRegistry) (providerName : String)
    {invocation : Invocation} (hspec : Trusts trust invocation.spec)
    (hlease : invocation.context.leaseToken = lease) (step : ToolCallRecord)
    (action : ExternalActionRecord) (attemptToken : String) :
    Honest trust lease (coordinator.recoverExternalDispatch registry providerName invocation step
      action attemptToken) := by
  unfold ExternalActionCoordinator.recoverExternalDispatch
  simp only [Program.bind_eq_bind, Program.throw_eq_raise]
  split
  · exact Program.conforms_raise _
  · split_ifs
    · exact honest_plain (honest_raiseExternalOutcomeUnknown hfail _ _ _ _
        (Program.conforms_ask fun _ ↦ trivial))
    · exact honest_plain (honest_finalizeReconciliationUnknown hfail ..)
    · refine Program.conforms_bind (Program.conforms_ask fun _ ↦ hlease) fun retry ↦ ?_
      refine Program.conforms_bind (honest_plain (honest_quiet _)) fun _ ↦ ?_
      split
      · exact honest_plain (honest_handleExternalTerminal hfail ..)
      · exact honest_dispatchExternalAction hfail registry providerName hspec hlease step
          attemptToken _ rfl rfl _
      · exact honest_plain (honest_fail hfail ..)

/-! Executing one call. -/

theorem honest_claimExternalStep (invocation : Invocation) (stepId toolName : String) :
    Honest trust lease (coordinator.claimExternalStep invocation stepId toolName) := by
  unfold ExternalActionCoordinator.claimExternalStep
  simp only [Program.bind_eq_bind, Program.pure_eq_done, Program.throw_eq_raise]
  refine Program.conforms_bind (Program.conforms_ask fun _ ↦ trivial) fun step ↦ ?_
  split
  · exact Program.conforms_bind (honest_restoreSuccess hfail ..) fun _ ↦ Program.conforms_done _
  · exact honest_fail hfail ..
  · exact honest_fail hfail ..
  · exact honest_fail hfail ..
  · exact honest_fail hfail ..
  · exact Program.conforms_done _
  · exact Program.conforms_raise _

theorem honest_startStep (invocation : Invocation) (stepId toolName : String) :
    Honest trust lease (coordinator.startStep invocation stepId toolName) := by
  unfold ExternalActionCoordinator.startStep
  simp only [Program.bind_eq_bind, Program.pure_eq_done, Program.throw_eq_raise]
  refine Program.conforms_bind (honest_quiet _) fun existing ↦ ?_
  split
  · exact honest_claimExternalStep hfail ..
  · split
    · exact Program.conforms_bind (honest_restoreSuccess hfail ..) fun _ ↦ Program.conforms_done _
    · exact honest_restoreFailure hfail ..
    · split_ifs
      · exact honest_fail hfail ..
      · split
        · exact Program.conforms_raise _
        · exact Program.conforms_done _
    · exact honest_claimExternalStep hfail ..

theorem honest_rejectPrepared (context : RuntimeExecutionContext) (step : ToolCallRecord)
    (prepared : Option ExternalActionRecord) : Honest trust lease
      (coordinator.rejectPrepared context step prepared : Plain α) := by
  unfold ExternalActionCoordinator.rejectPrepared
  simp only [Program.bind_eq_bind, Program.pure_eq_done, Program.done_bind]
  -- However the action was found, a dispatched one is closed and the call fails.
  repeat' first
    | exact honest_fail hfail ..
    | split
    | refine Program.conforms_bind (Program.conforms_attempt (honest_quiet _)) fun _ ↦ ?_
    | refine Program.conforms_bind (honest_failExternalDispatchBinding hfail ..) fun _ ↦ ?_

theorem honest_prepareAction (invocation : Invocation)
    (toolName providerName providerIdentity : String) (step : ToolCallRecord)
    (attemptToken : String) (recovered : Bool) : Honest trust lease
      (coordinator.prepareAction invocation toolName providerName providerIdentity step attemptToken
        recovered) := by
  unfold ExternalActionCoordinator.prepareAction
  simp only [Program.bind_eq_bind, Program.pure_eq_done, Program.throw_eq_raise, Program.raise_bind]
  refine Program.conforms_bind (Program.conforms_attempt (Program.conforms_ask fun _ ↦ trivial))
    fun prepared ↦ ?_
  split
  · split_ifs
    · exact Program.conforms_raise _
    · exact honest_fail hfail ..
  · refine Program.conforms_bind (honest_quiet _) fun _ ↦ ?_
    split
    · exact honest_rejectPrepared hfail ..
    · exact honest_rejectPrepared hfail ..
    · exact Program.conforms_raise _
    · refine Program.conforms_bind (honest_validateExternalActionBinding hfail ..) fun _ ↦ ?_
      split
      · exact Program.conforms_done _
      · split_ifs
        · exact Program.conforms_bind (honest_failExternalDispatchBinding hfail ..) fun _ ↦
            honest_fail hfail ..
        · exact honest_fail hfail ..

theorem honest_settleAction (registry : ProviderRegistry) (providerName : String)
    {invocation : Invocation} (hspec : Trusts trust invocation.spec)
    (hlease : invocation.context.leaseToken = lease) (step : ToolCallRecord) (attemptToken : String)
    (recovered : Bool)
    (action : ExternalActionRecord) : Honest trust lease
      (coordinator.settleAction registry providerName invocation step attemptToken recovered
        action) := by
  unfold ExternalActionCoordinator.settleAction
  simp only [Program.bind_eq_bind]
  split
  · refine Program.conforms_bind (Program.conforms_ask fun _ ↦ hlease) fun dispatch ↦ ?_
    refine Program.conforms_bind (honest_plain (honest_quiet _)) fun _ ↦ ?_
    split
    · exact honest_raiseExecution _ _
    · exact honest_plain (honest_handleExternalTerminal hfail ..)
    · exact honest_dispatchExternalAction hfail registry providerName hspec hlease step
        attemptToken _ rfl rfl _
    · exact honest_plain (honest_fail hfail ..)
    · exact honest_plain (honest_fail hfail ..)
  · split_ifs
    · exact honest_recoverExternalDispatch hfail registry providerName hspec hlease ..
    · exact honest_plain (honest_fail hfail ..)
  · exact honest_plain (honest_handleExternalTerminal hfail ..)

theorem honest_executeAction {context : RuntimeExecutionContext}
    (hlease : context.leaseToken = lease) (toolName : String) {spec : ToolSpec}
    (hspec : Trusts trust spec) (stepId : String) (normalizedArguments : Payload) :
    Honest trust lease
      (coordinator.execute context toolName spec stepId normalizedArguments) := by
  unfold ExternalActionCoordinator.execute
  simp only [Program.bind_eq_bind, Program.pure_eq_done]
  split
  · exact honest_plain (honest_fail hfail ..)
  · refine Program.conforms_bind (honest_plain (honest_startStep hfail ..)) fun start ↦ ?_
    split
    · exact Program.conforms_done _
    · refine Program.conforms_bind (honest_plain (honest_prepareAction hfail ..)) fun action ↦ ?_
      exact honest_settleAction hfail _ _ hspec hlease ..

end Coordinator

/-! ### The loop -/

section Loop

variable {loop : DynamicToolLoop} {context : RuntimeExecutionContext}
  (hspecs : ∀ toolName spec, loop.toolRegistry toolName = some spec → Trusts trust spec)
  (hlease : context.leaseToken = lease)

theorem honest_failLoopWith (context : RuntimeExecutionContext) (code detail : String) :
    Honest trust lease (loop.fail context code detail : Plain α) :=
  honest_fail honest_failLoop context code detail

theorem honest_restoreDecision (context : RuntimeExecutionContext) (persisted : Payload) :
    Honest trust lease (loop.restoreDecision context persisted) := by
  unfold DynamicToolLoop.restoreDecision
  simp only [Program.bind_eq_bind, Program.pure_eq_done]
  split_ifs
  · exact Program.conforms_bind (honest_quiet _) fun _ ↦ honest_failLoopWith ..
  · split
    · exact honest_failLoopWith ..
    · exact Program.conforms_bind (honest_quiet _) fun _ ↦ Program.conforms_done _

theorem honest_askPlanner (context : RuntimeExecutionContext) (runtimeInput state : Payload)
    (observations : List ToolObservation) (index : Nat) :
    Honest trust lease (loop.askPlanner context runtimeInput state observations index) := by
  unfold DynamicToolLoop.askPlanner
  simp only [Program.bind_eq_bind, Program.pure_eq_done]
  refine Program.conforms_bind (Program.conforms_attempt (Program.conforms_ask fun _ ↦ trivial))
    fun answer ↦ ?_
  split
  · exact Program.conforms_bind (honest_quiet _) fun _ ↦ honest_failLoopWith ..
  · exact Program.conforms_bind (honest_quiet _) fun _ ↦ honest_failLoopWith ..
  · split
    · exact Program.conforms_bind (honest_quiet _) fun _ ↦ honest_failLoopWith ..
    · exact Program.conforms_bind (honest_quiet _) fun _ ↦ Program.conforms_done _

theorem honest_decisionForIndex (context : RuntimeExecutionContext) (runtimeInput state : Payload)
    (observations : List ToolObservation) (index : Nat) :
    Honest trust lease
      (loop.decisionForIndex context runtimeInput state observations index) := by
  refine Program.conforms_bind (honest_quiet _) fun persisted ↦ ?_
  split
  · exact honest_restoreDecision ..
  · exact honest_askPlanner ..

theorem honest_refuseCall (context : RuntimeExecutionContext) (stepId toolName code : String)
    (detail : String) :
    Honest trust lease (loop.refuseCall context stepId toolName code detail : Plain α) :=
  Program.conforms_bind (honest_quiet _) fun _ ↦ honest_failLoopWith ..

theorem honest_reconcileDispatched (context : RuntimeExecutionContext)
    (dispatched : Option ExternalActionRecord) :
    Honest trust lease (loop.reconcileDispatched context dispatched) := by
  cases dispatched with
  | none => exact Program.conforms_done _
  | some action => exact honest_reconcile honest_failLoop ..

theorem honest_denyCall (context : RuntimeExecutionContext)
    (dispatched : Option ExternalActionRecord) (stepId toolName code detail : String) :
    Honest trust lease
      (loop.denyCall context dispatched stepId toolName code detail : Plain α) :=
  Program.conforms_bind (honest_reconcileDispatched ..) fun _ ↦ honest_refuseCall ..

theorem honest_authorizeExternalWrite (context : RuntimeExecutionContext) (runtimeInput : Payload)
    (spec : ToolSpec) (dispatched : Option ExternalActionRecord) (stepId toolName : String) :
    Honest trust lease
      (loop.authorizeExternalWrite context runtimeInput spec dispatched stepId toolName) := by
  unfold DynamicToolLoop.authorizeExternalWrite
  simp only [Program.bind_eq_bind, Program.pure_eq_done]
  repeat' first
    | split
    | refine Program.conforms_bind (honest_denyCall ..) fun _ ↦ ?_
  all_goals
    first
    | exact honest_denyCall ..
    | exact Program.conforms_done _

theorem honest_authorizeCall (context : RuntimeExecutionContext) (runtimeInput : Payload)
    (decision : CallToolDecision) (stepId : String) (toolCallCount : Nat) :
    Honest trust lease
      (loop.authorizeCall context runtimeInput decision stepId toolCallCount) := by
  unfold DynamicToolLoop.authorizeCall
  simp only [Program.bind_eq_bind, Program.pure_eq_done]
  refine Program.conforms_bind (honest_quiet _) fun dispatched ↦ ?_
  repeat' first
    | split
    | refine Program.conforms_bind (honest_denyCall ..) fun _ ↦ ?_
    | refine Program.conforms_bind (honest_authorizeExternalWrite ..) fun _ ↦ ?_
    | refine Program.conforms_bind (honest_reconcileDispatched ..) fun _ ↦ ?_
  all_goals
    first
    | exact honest_refuseCall ..
    | exact honest_denyCall ..
    | exact Program.conforms_bind (honest_quiet _) fun _ ↦ Program.conforms_done _

/-! Read-only calls. -/

theorem honest_decodeToolResultOrFail (context : RuntimeExecutionContext) (step : ToolCallRecord) :
    Honest trust lease (loop.decodeToolResultOrFail context step) := by
  unfold DynamicToolLoop.decodeToolResultOrFail
  split
  · exact Program.conforms_done _
  · exact honest_failLoopWith ..
  · exact Program.conforms_raise _

theorem honest_failTool (context : RuntimeExecutionContext) (stepId toolName code detail : String) :
    Honest trust lease (loop.failTool context stepId toolName code detail : Plain α) :=
  Program.conforms_bind (honest_quiet _) fun _ ↦ honest_failLoopWith ..

theorem honest_resumeReadOnlyStep (context : RuntimeExecutionContext) (stepId toolName : String)
    (existing : Option ToolCallRecord) :
    Honest trust lease (loop.resumeReadOnlyStep context stepId toolName existing) := by
  unfold DynamicToolLoop.resumeReadOnlyStep
  simp only [Program.pure_eq_done, Program.discard_eq_bind]
  split
  · exact Program.conforms_done _
  · split
    · split_ifs
      · exact Program.conforms_done _
      · exact honest_failTool ..
    · split_ifs
      · exact honest_failLoopWith ..
      · exact Program.conforms_bind (Program.conforms_ask fun _ ↦ trivial) fun _ ↦
          Program.conforms_done _
    · exact Program.conforms_done _
    · exact Program.conforms_done _

theorem honest_runTool (context : RuntimeExecutionContext) (stepId toolName attemptToken : String)
    (normalizedArguments : Payload) : Honest trust lease
      (loop.runTool context stepId toolName attemptToken normalizedArguments) := by
  unfold DynamicToolLoop.runTool
  simp only [Program.bind_eq_bind, Program.pure_eq_done, Program.discard_eq_bind, Program.bind_bind,
    Program.done_bind]
  refine Program.conforms_bind (Program.conforms_attempt (Program.conforms_ask fun _ ↦ trivial))
    fun answer ↦ ?_
  split
  · exact Program.conforms_bind (Program.conforms_ask fun _ ↦ trivial) fun _ ↦ honest_failTool ..
  · split
    · refine Program.conforms_bind (Program.conforms_ask fun _ ↦ trivial) fun _ ↦ ?_
      exact Program.conforms_bind (honest_quiet _) fun _ ↦ Program.conforms_done _
    · exact Program.conforms_bind (Program.conforms_ask fun _ ↦ trivial) fun _ ↦
        honest_failTool ..

theorem honest_executeReadOnlyCall (context : RuntimeExecutionContext) (stepId toolName : String)
    (normalizedArguments : Payload) : Honest trust lease
      (loop.executeReadOnlyCall context stepId toolName normalizedArguments) := by
  unfold DynamicToolLoop.executeReadOnlyCall
  simp only [Program.bind_eq_bind, Program.pure_eq_done, Program.throw_eq_raise, Program.raise_bind]
  refine Program.conforms_bind (honest_quiet _) fun existing ↦ ?_
  refine Program.conforms_bind (honest_resumeReadOnlyStep ..) fun _ ↦ ?_
  refine Program.conforms_bind (Program.conforms_ask fun _ ↦ trivial) fun step ↦ ?_
  split
  · split_ifs
    · exact Program.conforms_raise _
    · refine Program.conforms_bind (honest_decodeToolResultOrFail ..) fun result ↦ ?_
      exact Program.conforms_bind (honest_quiet _) fun _ ↦ Program.conforms_done _
  · exact honest_failLoopWith ..
  · exact honest_failLoopWith ..
  · exact honest_failLoopWith ..
  · exact honest_failLoopWith ..
  · exact honest_runTool ..
  · exact Program.conforms_raise _

include hspecs hlease in
theorem honest_executeCall (decision : CallToolDecision) (stepId : String)
    (normalizedArguments : Payload) : Honest trust lease
      (loop.executeCall context decision stepId normalizedArguments) := by
  unfold DynamicToolLoop.executeCall
  split
  · exact honest_plain (honest_failLoopWith ..)
  · next spec hspec =>
    split_ifs
    · exact honest_executeAction honest_failLoop hlease _ (hspecs _ spec hspec) ..
    · exact honest_plain (honest_executeReadOnlyCall ..)

/-! Restoring observations. -/

theorem honest_failRestored (context : RuntimeExecutionContext)
    (action : Option ExternalActionRecord) (code detail : String) :
    Honest trust lease (loop.failRestoredStep context action code detail : Plain α) :=
  honest_failRestoredStep honest_failLoop ..

theorem honest_restoredCall (context : RuntimeExecutionContext) (step : ToolCallRecord)
    (action : Option ExternalActionRecord) (label article : String) :
    Honest trust lease (loop.restoredCall context step action label article) := by
  have hpayload : Honest trust lease
      (loop.decisionPayloadForStep context step.stepId action) := by
    refine Program.conforms_bind (honest_quiet _) fun events ↦ ?_
    dsimp only
    split
    · exact Program.conforms_done _
    · exact honest_failRestored ..
  unfold DynamicToolLoop.restoredCall
  simp only [Program.bind_eq_bind, Program.pure_eq_done]
  refine Program.conforms_bind hpayload fun payload ↦ ?_
  split
  · exact honest_failRestored ..
  · split
    · exact honest_failRestored ..
    · split
      · exact honest_failRestored ..
      · split_ifs
        · exact honest_failRestored ..
        · exact Program.conforms_done _
  · exact honest_failRestored ..

theorem honest_restoreCompletedStep (context : RuntimeExecutionContext) (step : ToolCallRecord)
    (action : Option ExternalActionRecord) :
    Honest trust lease (loop.restoreCompletedStep context step action) := by
  have hrestored (normalized : Payload) : Honest trust lease
      ((loop.decodeToolResultOrFail context step).bind fun result ↦
        (recordToolSuccess context step.stepId step.toolName result : Plain Unit).bind fun _ ↦
          (.done ⟨step.stepId, step.toolName, normalized, result, true⟩ :
            Plain ToolObservation)) := by
    refine Program.conforms_bind (honest_decodeToolResultOrFail ..) fun result ↦ ?_
    exact Program.conforms_bind (honest_quiet _) fun _ ↦ Program.conforms_done _
  unfold DynamicToolLoop.restoreCompletedStep
  simp only [Program.bind_eq_bind, Program.pure_eq_done]
  refine Program.conforms_bind (honest_restoredCall ..) fun restored ↦ ?_
  split_ifs
  · exact honest_restoreSuccess honest_failLoop ..
  · exact Program.conforms_bind (honest_failRestored ..) fun _ ↦ hrestored _
  · exact hrestored _

theorem honest_restoreFailedStep (context : RuntimeExecutionContext) (step : ToolCallRecord)
    (action : Option ExternalActionRecord) :
    Honest trust lease (loop.restoreFailedStep context step action : Plain α) := by
  unfold DynamicToolLoop.restoreFailedStep
  simp only [Program.bind_eq_bind]
  refine Program.conforms_bind (honest_restoredCall ..) fun restored ↦ ?_
  split_ifs
  · exact honest_restoreFailure honest_failLoop ..
  · exact Program.conforms_bind (honest_failRestored ..) fun _ ↦ honest_failTool ..
  · exact honest_failTool ..

theorem honest_restoreSteps (context : RuntimeExecutionContext) (steps : List ToolCallRecord) :
    Honest trust lease (loop.restoreSteps context steps) := by
  induction steps with
  | nil => exact Program.conforms_done _
  | cons step rest ih =>
    unfold DynamicToolLoop.restoreSteps
    simp only [Program.bind_eq_bind, Program.pure_eq_done]
    refine Program.conforms_bind (honest_quiet _) fun action ↦ ?_
    split
    · refine Program.conforms_bind (honest_restoreCompletedStep ..) fun observation ↦ ?_
      exact Program.conforms_bind ih fun _ ↦ Program.conforms_done _
    · split_ifs
      · exact ih
      · exact honest_restoreFailedStep ..
    · exact ih
    · exact ih

/-! The rounds. -/

theorem honest_completeLoop (context : RuntimeExecutionContext) (result : DynamicLoopResult)
    (blockedCode : Option String) :
    Honest trust lease (DynamicToolLoop.completeLoop context result blockedCode) := by
  unfold DynamicToolLoop.completeLoop
  simp only [Program.bind_eq_bind, Program.discard_eq_bind]
  refine Program.conforms_bind (honest_quiet _) fun _ ↦ ?_
  split
  · exact Program.conforms_bind (Program.conforms_ask fun _ ↦ trivial) fun _ ↦
      Program.conforms_done _
  · exact Program.conforms_bind (Program.conforms_ask fun _ ↦ trivial) fun _ ↦
      Program.conforms_done _

theorem honest_finishLoop (context : RuntimeExecutionContext) (decision : FinishDecision)
    (observations : List ToolObservation) :
    Honest trust lease (loop.finishLoop context decision observations) := by
  unfold DynamicToolLoop.finishLoop
  simp only [Program.bind_eq_bind, Program.pure_eq_done, Program.throw_eq_raise]
  refine Program.conforms_bind (Program.conforms_attempt (Program.conforms_ask fun _ ↦ trivial))
    fun evaluated ↦ ?_
  split
  · split_ifs
    · exact honest_failLoopWith ..
    · exact Program.conforms_raise _
  · split_ifs
    · exact honest_failLoopWith ..
    · exact Program.conforms_bind (honest_completeLoop ..) fun _ ↦ Program.conforms_done _
    · exact Program.conforms_bind (honest_completeLoop ..) fun _ ↦ Program.conforms_done _

include hspecs hlease in
theorem honest_iterate (runtimeInput state : Payload) (rounds : Nat)
    (observations : List ToolObservation) :
    Honest trust lease (loop.iterate context runtimeInput state rounds observations) := by
  induction rounds generalizing observations with
  | zero => exact honest_unfollowed
  | succ rounds ih =>
    unfold DynamicToolLoop.iterate
    simp only [Program.bind_eq_bind]
    refine Program.conforms_bind (honest_plain (honest_decisionForIndex ..)) fun decision ↦ ?_
    split
    · exact honest_plain (Program.conforms_bind (honest_completeLoop ..) fun _ ↦
        Program.conforms_done _)
    · exact honest_plain (honest_finishLoop ..)
    · refine Program.conforms_bind (honest_plain (honest_authorizeCall ..)) fun normalized ↦ ?_
      exact Program.conforms_bind (honest_executeCall hspecs hlease ..) fun _ ↦ ih _

theorem honest_replayExecution (execution : ExecutionRow) :
    Honest trust lease (DynamicToolLoop.replayExecution execution) := by
  unfold DynamicToolLoop.replayExecution
  split
  · exact honest_raiseExecution _ _
  · split
    · exact honest_raiseExecution _ _
    · split
      · exact Program.conforms_done _
      · exact honest_raiseExecution _ _

include hspecs hlease in
theorem honest_resumeExecution (runtimeInput state : Payload) (execution : ExecutionRow) :
    Honest trust lease (loop.resumeExecution context runtimeInput state execution) := by
  have hrestored : Honest trust lease
      ((loop.restoreObservations context : Runtime (List ToolObservation)).bind
        fun observations ↦ loop.iterate context runtimeInput state loop.rounds observations) := by
    refine Program.conforms_bind (honest_plain ?_) fun observations ↦
      honest_iterate hspecs hlease ..
    exact Program.conforms_bind (honest_quiet _) fun _ ↦ honest_restoreSteps ..
  unfold DynamicToolLoop.resumeExecution
  simp only [Program.bind_eq_bind, Program.discard_eq_bind, Program.bind_bind, Program.done_bind]
  split_ifs
  · exact honest_plain (honest_replayExecution _)
  · exact Program.conforms_bind (honest_plain (Program.conforms_ask fun _ ↦ trivial)) fun _ ↦
      hrestored
  · exact hrestored

include hspecs hlease in
theorem honest_executeImpl (runtimeInput state : Payload) :
    Honest trust lease (loop.executeImpl context runtimeInput state) := by
  unfold DynamicToolLoop.executeImpl
  simp only [Program.bind_eq_bind, Program.throw_eq_raise]
  refine Program.conforms_bind (honest_plain (Program.conforms_ask fun _ ↦ trivial))
    fun claimed ↦ ?_
  split_ifs
  · exact Program.conforms_bind (honest_plain (honest_reconcileRun honest_failLoop ..)) fun _ ↦
      honest_raiseExecution _ _
  · refine Program.conforms_bind (Program.conforms_attempt (honest_plain (honest_quiet _)))
      fun mirrored ↦ ?_
    split
    · exact honest_resumeExecution hspecs hlease ..
    · exact Program.conforms_bind (honest_plain (honest_reconcileRun honest_failLoop ..)) fun _ ↦
        Program.conforms_raise _

include hspecs hlease in
theorem honest_executeLoop (runtimeInput state : Payload) :
    Honest trust lease (loop.execute context runtimeInput state) := by
  refine Program.conforms_handle (honest_executeImpl hspecs hlease ..) fun failure ↦ ?_
  simp only [Program.bind_eq_bind, Program.throw_eq_raise, Program.raise_bind]
  split_ifs
  · exact Program.conforms_raise _
  · exact Program.conforms_bind (honest_plain (honest_reconcileRun honest_failLoop ..)) fun _ ↦
      Program.conforms_raise _

end Loop

/-! ### The manager -/

theorem honest_call {op : Op} (hallowed : ∀ history, MayRecord trust lease history op) :
    Honest trust lease (Program.ask op rfl : Manager op.Answer) :=
  Program.conforms_ask hallowed

theorem honest_executeRegistered {registration : RuntimeRegistration}
    (hspecs : ∀ toolName spec, registration.loop.toolRegistry toolName = some spec →
      Trusts trust spec) {context : RuntimeExecutionContext} (hlease : context.leaseToken = lease)
    (state : RuntimeState) (runtimeInput : Payload) :
    Honest trust lease (registration.execute state runtimeInput context) := by
  unfold RuntimeRegistration.execute
  simp only [Program.bind_eq_bind, Program.pure_eq_done]
  refine Program.conforms_bind (honest_plain (honest_quiet _)) fun recalled ↦ ?_
  refine Program.conforms_bind (honest_ofExcept _) fun prepared ↦ ?_
  refine Program.conforms_bind (honest_executeLoop hspecs hlease ..) fun result ↦ ?_
  refine Program.conforms_bind (honest_plain (honest_quiet _)) fun _ ↦ ?_
  exact Program.conforms_bind (honest_ofExcept _) fun _ ↦ Program.conforms_done _

theorem honest_observed {runtime : Runtime RuntimeResponse}
    (hruntime : Honest trust lease runtime) :
    Honest trust lease (RuntimeManager.observed runtime) := by
  unfold RuntimeManager.observed
  simp only [Program.bind_eq_bind, Program.discard_eq_bind, Program.bind_bind, Program.done_bind,
    Program.pure_eq_done, Program.throw_eq_raise]
  refine Program.conforms_bind (Program.conforms_attempt (honest_runtime hruntime)) fun ended ↦ ?_
  split
  · exact Program.conforms_bind (honest_call fun _ ↦ trivial) fun _ ↦ Program.conforms_done _
  · exact Program.conforms_bind (honest_call fun _ ↦ trivial) fun _ ↦ Program.conforms_raise _

theorem honest_assertReferencedRunsVisible (tenantId : String) (runIds : List String) :
    Honest trust lease (RuntimeManager.assertReferencedRunsVisible tenantId runIds) := by
  induction runIds with
  | nil => exact Program.conforms_done _
  | cons runId rest ih =>
    refine Program.conforms_bind (honest_call fun _ ↦ trivial) fun found ↦ ?_
    split
    · exact Program.conforms_raise _
    · exact ih

section Attempts

variable {manager : RuntimeManager} {claim : RunLeaseClaim} {execute : Executor}

theorem honest_runRuntimeWith {registration : RuntimeRegistration}
    (hexecute : ∀ state runtimeInput context, context.leaseToken = some claim.leaseToken →
      Honest trust lease (execute claim.run registration state runtimeInput context))
    (checkpoint : ThreadStateSnapshot) :
    Honest trust lease (RuntimeManager.runRuntimeWith execute claim registration checkpoint) := by
  unfold RuntimeManager.runRuntimeWith
  simp only [Program.bind_eq_bind, Program.discard_eq_bind, Program.bind_bind, Program.done_bind,
    Program.pure_eq_done]
  refine Program.conforms_bind (honest_ofExcept _) fun state ↦ ?_
  refine Program.conforms_bind (honest_call fun _ ↦ trivial) fun _ ↦ ?_
  refine Program.conforms_bind (honest_ofExcept _) fun runtimeInput ↦ ?_
  refine Program.conforms_bind (honest_assertReferencedRunsVisible ..) fun _ ↦ ?_
  refine Program.conforms_bind (honest_ofExcept _) fun authority ↦ ?_
  refine Program.conforms_bind (honest_observed (hexecute _ _ _ rfl)) fun response ↦ ?_
  exact Program.conforms_bind (honest_ofExcept _) fun _ ↦ Program.conforms_done _

theorem honest_requireRun (runId : String) :
    Honest trust lease (RuntimeManager.requireRun runId) := by
  refine Program.conforms_bind (honest_call fun _ ↦ trivial) fun found ↦ ?_
  split
  · exact Program.conforms_done _
  · exact Program.conforms_raise _

theorem honest_markCancelled (run : RunRecord) (reason leaseToken : String) :
    Honest trust lease (RuntimeManager.markCancelled run reason leaseToken) :=
  Program.conforms_bind (honest_call fun _ ↦ trivial) fun _ ↦ Program.conforms_done _

theorem honest_markPending : Honest trust lease (RuntimeManager.markPending claim) :=
  Program.conforms_bind (honest_call fun _ ↦ trivial) fun _ ↦ Program.conforms_done _

theorem honest_executeRunWith
    (hexecute : ∀ registration, manager.registrationFor claim.run = .ok registration →
      ∀ state runtimeInput context, context.leaseToken = some claim.leaseToken →
        Honest trust lease (execute claim.run registration state runtimeInput context))
    (precedence : Bool) :
    Honest trust lease (manager.executeRunWith execute claim precedence) := by
  have hstale : Honest trust lease
      (RuntimeManager.refuseStaleCheckpoint claim precedence) := by
    unfold RuntimeManager.refuseStaleCheckpoint
    simp only [Program.bind_eq_bind, Program.discard_eq_bind]
    split_ifs
    · exact Program.conforms_bind (honest_call fun _ ↦ trivial) fun _ ↦ Program.conforms_done _
    · refine Program.conforms_bind (honest_call fun _ ↦ trivial) fun outcome ↦ ?_
      split_ifs
      · exact Program.conforms_bind (honest_requireRun _) fun _ ↦ honest_markCancelled ..
      · exact Program.conforms_done _
  unfold RuntimeManager.executeRunWith
  simp only [Program.bind_eq_bind, Program.throw_eq_raise, Program.pure_eq_done]
  cases hregistration : manager.registrationFor claim.run with
  | error failure => exact Program.conforms_raise failure
  | ok registration =>
    simp only [ofExcept, Program.done_bind]
    refine Program.conforms_bind (Program.conforms_attempt (Program.conforms_ask fun _ ↦ trivial))
      fun loaded ↦ ?_
    split
    · exact Program.conforms_bind hstale fun _ ↦ Program.conforms_done _
    · exact Program.conforms_raise _
    · exact Program.conforms_bind (honest_runRuntimeWith (hexecute registration hregistration) _)
        fun _ ↦ Program.conforms_done _

theorem honest_commitResult (response : RuntimeResponse) (state : RuntimeState) :
    Honest trust lease (RuntimeManager.commitResult claim response state) := by
  refine Program.conforms_bind (honest_call fun _ ↦ trivial) fun outcome ↦ ?_
  simp only [Program.bind_eq_bind, Program.pure_eq_done]
  split_ifs
  · exact Program.conforms_bind (honest_requireRun _) fun _ ↦ honest_markCancelled ..
  · exact Program.conforms_done _

theorem honest_commitFailure (run : RunRecord) (failure : Failure) :
    Honest trust lease (manager.commitFailure claim run failure) := by
  unfold RuntimeManager.commitFailure
  simp only [Program.bind_eq_bind]
  refine Program.conforms_bind (honest_requireRun _) fun latest ↦ ?_
  split_ifs
  · exact honest_markCancelled ..
  all_goals
    refine Program.conforms_bind (honest_call fun _ ↦ trivial) fun outcome ↦ ?_
    split_ifs
    · exact Program.conforms_bind (honest_requireRun _) fun _ ↦ honest_markCancelled ..
    · exact Program.conforms_done _

theorem honest_concludeFailure (run : RunRecord) (precedence : Bool) (failure : Failure) :
    Honest trust lease (manager.concludeFailure claim run precedence failure) := by
  unfold RuntimeManager.concludeFailure
  simp only [Program.bind_eq_bind, Program.pure_eq_done]
  refine Program.conforms_bind (honest_call fun _ ↦ trivial) fun lost ↦ ?_
  split_ifs
  · exact Program.conforms_done _
  · split
    · exact honest_markPending
    · split_ifs
      · exact honest_markPending
      · exact honest_commitFailure ..

/-- A whole attempt is honest if its runtime is. -/
theorem honest_executeOwnedRunWith
    (hexecute : ∀ registration, manager.registrationFor claim.run = .ok registration →
      ∀ state runtimeInput context, context.leaseToken = some claim.leaseToken →
        Honest trust lease (execute claim.run registration state runtimeInput context)) :
    Honest trust lease (manager.executeOwnedRunWith execute claim) := by
  have hprecedence : Honest trust lease (RuntimeManager.reconcileBeforeCancelling claim) := by
    unfold RuntimeManager.reconcileBeforeCancelling
    split_ifs
    · exact Program.conforms_done _
    · exact Program.conforms_done _
    · exact honest_call fun _ ↦ trivial
  unfold RuntimeManager.executeOwnedRunWith
  simp only [Program.bind_eq_bind, Program.pure_eq_done]
  refine Program.conforms_bind (honest_call fun _ ↦ trivial) fun lost ↦ ?_
  split_ifs
  · exact Program.conforms_done _
  refine Program.conforms_bind hprecedence fun precedence ↦ ?_
  split_ifs
  · exact honest_markCancelled ..
  refine Program.conforms_bind (Program.conforms_attempt (honest_executeRunWith hexecute _))
    fun result ↦ ?_
  split
  · exact honest_concludeFailure ..
  · exact Program.conforms_done _
  · refine Program.conforms_bind (honest_call fun _ ↦ trivial) fun lost ↦ ?_
    split_ifs
    · exact Program.conforms_done _
    refine Program.conforms_bind (Program.conforms_attempt (honest_commitResult ..))
      fun committed ↦ ?_
    split
    · exact Program.conforms_done _
    · exact honest_concludeFailure ..

/-- The output schemas of the tools of a registered loop are trusted. -/
theorem trusts_registered {registration : RuntimeRegistration}
    (hregistration : manager.registrationFor claim.run = .ok registration) (toolName : String)
    (spec : ToolSpec) (hspec : registration.loop.toolRegistry toolName = some spec) :
    Trusts (TrustedAnswer manager claim) spec := by
  intro outputModel invocation raw answer payload houtput hvalid htrusted
  exact ⟨registration.loop, toolName, spec, outputModel, invocation, answer, payload,
    ⟨registration, hregistration, rfl⟩, hspec, houtput, hvalid, htrusted, rfl, rfl⟩

/-- An attempt with the registered runtimes is honest. -/
theorem honest_executeOwnedRun (manager : RuntimeManager) (claim : RunLeaseClaim) :
    Honest (TrustedAnswer manager claim) (some claim.leaseToken)
      (manager.executeOwnedRun claim) := by
  rw [← RuntimeManager.executeOwnedRunWith_self]
  exact honest_executeOwnedRunWith fun registration hregistration state runtimeInput context
    hlease ↦ honest_executeRegistered (trusts_registered hregistration) hlease state runtimeInput

end Attempts

end Conduct

end AgentRuntime.Execution
